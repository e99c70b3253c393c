import RecordQuery.Proofs.Condition.Acceptance

/-!
# The two sides of a comparison

A comparison that is bound looks at two sides of a record: a field, and another field, a constant or
the value of a slot. What it says depends on what they hold alone. It is false where one of them
holds nothing, and then no guard that was put before it makes a difference.
-/

namespace RecordQuery

open Sql (Expr CompareOp)

namespace Condition

/-- What a comparison says about what its sides hold. -/
def outcome (name : String) (kind : ScalarKind) (op : CompareOp) :
    Option Value → Option Value → QueryResult Bool
  | some left, some right =>
      match compareValues kind left right with
      | some order => .ok (op.holds order)
      | none => .error (.execution name (.incomparable left right kind))
  | _, _ => .ok false

variable {name : String} {kind : ScalarKind} {op : CompareOp} {record : Value}
  {arguments : Arguments} {field other : Accessor} {condition : Condition}

theorem outcome_of_missing {left right : Option Value} (missing : left = none ∨ right = none) :
    outcome name kind op left right = .ok false := by
  cases left with
  | none => rfl
  | some value =>
      cases right with
      | none => rfl
      | some other => simp at missing

theorem evaluate_compare {side : Operand} {left right : Option Value}
    (read : field.get record = .ok left) (given : operandValue record arguments side = .ok right) :
    (Condition.compare field op side kind).evaluate record arguments =
      outcome field.name kind op left right := by
  rw [evaluate, read, Outcome.ok_bind]
  cases left with
  | none => rfl
  | some value =>
      dsimp only
      rw [given]
      cases right with
      | none => rfl
      | some other => rfl

/-- Asking for the presence of a field first changes nothing where the condition is false without
it. -/
theorem evaluate_guardedBy_of_get {found : Option Value} (read : field.get record = .ok found)
    (absent : found = none → condition.evaluate record arguments = .ok false) :
    (guardedBy field condition).evaluate record arguments =
      condition.evaluate record arguments := by
  rw [guardedBy]
  split
  · rw [evaluate, read, Outcome.ok_bind]
    cases found with
    | none => exact (absent rfl).symm
    | some value => rfl
  · rfl

/-- A guarded comparison says what its sides tell. -/
theorem evaluate_guardedBy_compare {side : Operand} {left right : Option Value}
    (read : field.get record = .ok left) (given : operandValue record arguments side = .ok right) :
    (guardedBy field (.compare field op side kind)).evaluate record arguments =
      outcome field.name kind op left right := by
  have compared := @evaluate_compare kind op record arguments field side left right read given
  rw [evaluate_guardedBy_of_get read, compared]
  intro absent
  rw [compared]
  exact outcome_of_missing (.inl absent)

theorem evaluate_guardedBy_fields {left right : Option Value}
    (read : field.get record = .ok left) (read' : other.get record = .ok right) :
    (guardedBy field (guardedBy other (.compare field op (.field other) kind))).evaluate record
      arguments = outcome field.name kind op left right := by
  have compared := @evaluate_compare kind op record arguments field (.field other) left right read
    read'
  have inner : (guardedBy other (.compare field op (.field other) kind)).evaluate record arguments =
      outcome field.name kind op left right := by
    rw [evaluate_guardedBy_of_get read', compared]
    intro absent
    rw [compared]
    exact outcome_of_missing (.inr absent)
  rw [evaluate_guardedBy_of_get read, inner]
  intro absent
  rw [inner]
  exact outcome_of_missing (.inl absent)

/-! ## What binding a comparison gives -/

variable {scope : Scope} {binding bound : Binding} {left right operand : Expr}

/-- The kind that two fields are compared as. -/
def fieldsKind (field other : Accessor) : QueryResult ScalarKind := do
  let kind ← comparableKind field
  let otherKind ← comparableKind other
  if kind = otherKind then return kind
  else if kind.isNumeric && otherKind.isNumeric then return .float
  else throw (.compile (.fieldMismatch field.name field.schema other.name other.schema))

theorem ofFields_eq (field other : Accessor) (op : CompareOp) :
    ofFields field op other = (do
      let kind ← fieldsKind field other
      return guardedBy field (guardedBy other (.compare field op (.field other) kind))) := by
  unfold ofFields fieldsKind
  cases comparableKind field with
  | error error => rfl
  | ok kind =>
      cases comparableKind other with
      | error error => rfl
      | ok otherKind =>
          dsimp only [Outcome.ok_bind]
          split
          · rfl
          · split <;> rfl

/-- Exchanged fields are compared as the same kind, if they can be compared. -/
theorem fieldsKind_comm (field other : Accessor) :
    (fieldsKind field other).toOption = (fieldsKind other field).toOption := by
  unfold fieldsKind
  cases comparableKind field with
  | error error =>
      cases comparableKind other <;> rfl
  | ok kind =>
      cases comparableKind other with
      | error error => rfl
      | ok otherKind =>
          simp only [Outcome.ok_bind, Bool.and_comm otherKind.isNumeric]
          by_cases same : kind = otherKind
          · subst same
            rw [if_pos rfl, if_pos rfl]
          · have same' : otherKind ≠ kind := fun equal => same equal.symm
            rw [if_neg same, if_neg same']
            split <;> rfl

end Condition

end RecordQuery
