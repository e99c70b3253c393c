import RecordQuery.Proofs.Condition.Ordering
import RecordQuery.Proofs.Condition.Sides

/-!
# Exchanged sides

A comparison with its sides exchanged and its operator turned around is the same test. A field is
moved to the left where the other side is none, so there the two give one condition. Two fields give
conditions with their guards in either order, and two literals are settled by a kind that is read
off the left one; for both it is the symmetry of the order of values that counts.
-/

namespace RecordQuery

open Sql (Expr CompareOp)

/-- The fields of a record can all be read or none of them. -/
theorem Accessor.get_object_or_error (record : Value) :
    (∀ field : Accessor, ∃ found, field.get record = .ok found) ∨
      ∀ field : Accessor, ∃ error, field.get record = .error error := by
  cases record with
  | object fields => exact .inl fun _ => ⟨_, rfl⟩
  | _ => exact .inr fun _ => ⟨_, rfl⟩

namespace Condition

variable {scope : Scope} {binding : Binding} {left right : Expr} {op : CompareOp}
  {kind : ScalarKind} {record : Value} {arguments : Arguments}

theorem outcome_swap (name other : String) (kind : ScalarKind) (op : CompareOp)
    (left right : Option Value) :
    (outcome name kind op left right).toOption =
      (outcome other kind op.flip right left).toOption := by
  cases left with
  | none => cases right <;> rfl
  | some a =>
      cases right with
      | none => rfl
      | some b =>
          simp only [outcome, compareValues_swap kind a b]
          cases compareValues kind a b with
          | none => rfl
          | some order => simp only [Option.map_some, CompareOp.holds_flip]

/-! ## Two fields -/

theorem evaluate_guardedBy_of_error {field : Accessor} {condition : Condition} {error : QueryError}
    (failed : field.get record = .error error)
    (fails : (condition.evaluate record arguments).toOption = none) :
    ((guardedBy field condition).evaluate record arguments).toOption = none := by
  rw [guardedBy]
  split
  · rw [evaluate, failed]
    rfl
  · exact fails

theorem evaluate_fields_of_error {field other : Accessor} {error error' : QueryError}
    (failed : field.get record = .error error) (failed' : other.get record = .error error') :
    ((guardedBy field (guardedBy other (.compare field op (.field other) kind))).evaluate record
      arguments).toOption = none := by
  apply evaluate_guardedBy_of_error failed
  apply evaluate_guardedBy_of_error failed'
  rw [evaluate, failed]
  rfl

/-- On any value the two conditions of exchanged fields have the same answer or fail both. -/
theorem evaluate_fields_swap (field other : Accessor) (op : CompareOp) (kind : ScalarKind)
    (record : Value) (arguments : Arguments) :
    ((guardedBy field (guardedBy other (.compare field op (.field other) kind))).evaluate record
        arguments).toOption =
      ((guardedBy other (guardedBy field (.compare other op.flip (.field field) kind))).evaluate
        record arguments).toOption := by
  rcases Accessor.get_object_or_error record with reads | fails
  · rcases reads field with ⟨a, read⟩
    rcases reads other with ⟨b, read'⟩
    rw [evaluate_guardedBy_fields read read', evaluate_guardedBy_fields read' read]
    exact outcome_swap field.name other.name kind op a b
  · rcases fails field with ⟨error, failed⟩
    rcases fails other with ⟨error', failed'⟩
    rw [evaluate_fields_of_error failed failed', evaluate_fields_of_error failed' failed]

/-! ## Two literals -/

/-- The kind that two literals are compared as, read off the left one. -/
def literalsKind : Value → ScalarKind
  | .number _ => .float
  | .bool _ => .bool
  | _ => .string

theorem compareValues_literalsKind_swap (a b : Value) :
    compareValues (literalsKind b) b a =
      (compareValues (literalsKind a) a b).map Ordering.swap := by
  rw [← compareValues_swap]
  cases a <;> cases b <;> rfl

theorem ofLiterals_eq {a b : Value} (first : left.literal? = some a)
    (second : right.literal? = some b) :
    ofLiterals left op right =
      if a.isNull || b.isNull then .ok (.literal false)
      else
        match compareValues (literalsKind a) a b with
        | some order => .ok (.literal (op.holds order))
        | none => .error (.compile (.literalsMismatch a b)) := by
  simp only [ofLiterals, first, second]
  cases a <;> rfl

/-- Exchanged literals give the same outcome, if they can be compared. -/
theorem ofLiterals_swap (left : Expr) (op : CompareOp) (right : Expr) :
    (ofLiterals left op right).toOption = (ofLiterals right op.flip left).toOption := by
  cases first : left.literal? with
  | none =>
      simp only [ofLiterals, first]
      cases right.literal? <;> rfl
  | some a =>
      cases second : right.literal? with
      | none => simp only [ofLiterals, first, second, Except.toOption]
      | some b =>
          rw [ofLiterals_eq first second, ofLiterals_eq second first, Bool.or_comm b.isNull,
            compareValues_literalsKind_swap a b]
          split
          · rfl
          · cases compareValues (literalsKind a) a b with
            | none => rfl
            | some order => simp only [Option.map_some, CompareOp.holds_flip]

/-! ## Any sides -/

/-- Two outcomes of binding are errors both, or bind the same to conditions that have the same
answer on every value or fail both. -/
def SameTest (first second : QueryResult (Condition × Binding)) : Prop :=
  ((∃ error, first = .error error) ∧ ∃ error, second = .error error) ∨
    ∃ condition condition' bound, first = .ok (condition, bound) ∧
      second = .ok (condition', bound) ∧ ∀ record arguments,
        (condition.evaluate record arguments).toOption =
          (condition'.evaluate record arguments).toOption

theorem SameTest.refl (result : QueryResult (Condition × Binding)) : SameTest result result := by
  cases result with
  | error error => exact .inl ⟨⟨error, rfl⟩, error, rfl⟩
  | ok made => exact .inr ⟨made.1, made.1, made.2, rfl, rfl, fun _ _ => rfl⟩

/-- Steps in front may fail with different errors. -/
theorem SameTest.bind {α : Type} {first second : QueryResult α}
    (same : first.toOption = second.toOption) {next next' : α → QueryResult (Condition × Binding)}
    (behind : ∀ value, SameTest (next value) (next' value)) :
    SameTest (first >>= next) (second >>= next') := by
  cases first with
  | error error =>
      cases second with
      | error error' => exact .inl ⟨⟨error, rfl⟩, error', rfl⟩
      | ok value => cases same
  | ok value =>
      rw [Outcome.toOption_eq_some.1 same.symm]
      exact behind value

theorem sameTest_fields (field other : Accessor) (op : CompareOp) (binding : Binding) :
    SameTest (do return (← ofFields field op other, binding))
      (do return (← ofFields other op.flip field, binding)) := by
  rw [ofFields_eq, ofFields_eq, bind_assoc, bind_assoc]
  apply SameTest.bind (fieldsKind_comm field other)
  intro kind
  exact .inr ⟨_, _, binding, rfl, rfl, evaluate_fields_swap field other op kind⟩

theorem sameTest_literals (left : Expr) (op : CompareOp) (right : Expr) (binding : Binding) :
    SameTest (do return (← ofLiterals left op right, binding))
      (do return (← ofLiterals right op.flip left, binding)) := by
  apply SameTest.bind (ofLiterals_swap left op right)
  intro condition
  exact .refl _

/-- A comparison and the one with exchanged sides and the operator turned around are refused both,
or take the same arguments and have the same answer on every value, or fail both on it. -/
theorem ofExpr_swap (scope : Scope) (left : Expr) (op : CompareOp) (right : Expr)
    (binding : Binding) :
    SameTest (ofExpr scope (.binary (.compare op) left right) binding)
      (ofExpr scope (.binary (.compare op.flip) right left) binding) := by
  rw [ofExpr, ofExpr, ofComparison, ofComparison]
  cases scope.field? left with
  | error error =>
      refine .inl ⟨⟨error, rfl⟩, ?_⟩
      cases scope.field? right with
      | error error' => exact ⟨error', rfl⟩
      | ok found => exact ⟨error, rfl⟩
  | ok found =>
      cases scope.field? right with
      | error error => exact .inl ⟨⟨error, rfl⟩, error, rfl⟩
      | ok found' =>
          simp only [Outcome.ok_bind]
          cases found with
          | some field =>
              cases found' with
              | some other => exact sameTest_fields field other op binding
              | none =>
                  -- Turning the operator around twice leaves it as it is.
                  dsimp only
                  rw [CompareOp.flip_flip]
                  exact .refl _
          | none =>
              cases found' with
              | some other => exact .refl _
              | none => exact sameTest_literals left op right binding

end Condition

end RecordQuery
