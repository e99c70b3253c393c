import RecordQuery.Proofs.Condition.Typing
import RecordQuery.Proofs.Sql.Numbering

/-!
# What an expression says about a record

An expression can be read against a record at once, with a value for each of its placeholders: no
slots, groups or sets stand between. A placeholder means the given value brought to the kind of the
field that it is compared with. The main theorem says that the condition which an expression is
bound to gives the same answer, when the arguments of a run follow the placeholders in the order of
the text.
-/

namespace RecordQuery

open Sql (Expr CompareOp)

/-! ## Reading an expression directly -/

namespace Scope

/-- The outcome of comparing a field with a given value as one of the kind of the field. With null
every comparison is false. -/
def testGiven (record given : Value) (field : Accessor) (op : CompareOp) : QueryResult Bool := do
  let kind ← Condition.comparableKind field
  let right ← coerce field.name kind given
  match ← field.get record with
  | none => return false
  | some left =>
      if right.isNull then return false
      else
        match compareValues kind left right with
        | some order => return op.holds order
        | none => throw (.execution field.name (.incomparable left right kind))

/-- The outcome of comparing a field with an operand that is no field. What holds no placeholder is
tested by the condition of its own. -/
def testOperand (given : Nat → Value) (record : Value) (field : Accessor) (op : CompareOp) :
    Expr → QueryResult Bool
  | .placeholder index => testGiven record (given index) field op
  | other => do
      let (condition, _) ← Condition.ofOperand field op other .empty
      condition.evaluate record .empty

/-- The outcome of a comparison. -/
def testComparison (scope : Scope) (given : Nat → Value) (record : Value) (left : Expr)
    (op : CompareOp) (right : Expr) : QueryResult Bool := do
  match ← scope.field? left, ← scope.field? right with
  | some left, some right => (← Condition.ofFields left op right).evaluate record .empty
  | some field, none => testOperand given record field op right
  | none, some field => testOperand given record field op.flip left
  | none, none => (← Condition.ofLiterals left op right).evaluate record .empty

/-- The member that an item of an `IN` list stands for. -/
def memberOf (given : Nat → Value) (field : Accessor) (kind : ScalarKind) :
    Expr → QueryResult Value
  | .placeholder index => coerce field.name kind (given index)
  | item =>
      match item.literal? with
      | some value => coerce field.name kind value
      | none => .error (.compile (.unsupportedItem item))

/-- The kind of the sets that a field can be tested with. -/
def setKind (field : Accessor) : QueryResult ScalarKind :=
  match field.schema.kind? with
  | some .int => .ok .int
  | some .string => .ok .string
  | _ => .error (.compile (.unsupportedMembership field.schema field.name))

/-- The outcome of a test for membership. -/
def testMembership (scope : Scope) (given : Nat → Value) (record : Value) (operand : Expr)
    (items : List Expr) (negated : Bool) : QueryResult Bool := do
  let field ← scope.requireField operand
  let kind ← setKind field
  let members ← items.mapM (memberOf given field kind)
  match ← field.get record with
  | none => return false
  | some value => return (MemberSet.build kind members).contains value != negated

/-- What an expression says about a record, with a value given for each placeholder. -/
def test (scope : Scope) (given : Nat → Value) (record : Value) : Expr → QueryResult Bool
  | .binary .and left right => do
      if ← scope.test given record left then scope.test given record right else return false
  | .binary .or left right => do
      if ← scope.test given record left then return true else scope.test given record right
  | .binary (.compare op) left right => scope.testComparison given record left op right
  | .not operand => do return !(← scope.test given record operand)
  | .isNull operand => do (← Condition.ofNullTest scope false operand).evaluate record .empty
  | .isNotNull operand => do (← Condition.ofNullTest scope true operand).evaluate record .empty
  | .inList operand items negated => scope.testMembership given record operand items negated
  | .boolean value => .ok value
  | .column name => do (← Condition.ofField scope (.column name)).evaluate record .empty
  | .qualified table column => do
      (← Condition.ofField scope (.qualified table column)).evaluate record .empty
  | other => .error (.compile (.notBoolean other))

end Scope

/-! ## Parts without placeholders -/

namespace Sql.Expr

@[simp] theorem placeholders_of_literal? {expr : Expr} {value : Value}
    (known : expr.literal? = some value) : expr.placeholders = [] := by
  cases expr <;> first | rfl | cases known

end Sql.Expr

theorem Scope.placeholders_of_field? {scope : Scope} {expr : Expr} {field : Accessor}
    (found : scope.field? expr = .ok (some field)) : expr.placeholders = [] := by
  rw [field?.eq_def] at found
  split at found
  · rfl
  · rfl
  · cases found

theorem Scope.placeholders_of_requireField {scope : Scope} {expr : Expr} {field : Accessor}
    (found : scope.requireField expr = .ok field) : expr.placeholders = [] := by
  rcases Outcome.bind_eq_ok.1 found with ⟨known, read, found⟩
  cases known with
  | none => cases found
  | some known => exact placeholders_of_field? read

theorem Condition.placeholders_of_ofNullTest {scope : Scope} {negated : Bool} {expr : Expr}
    {condition : Condition} (found : ofNullTest scope negated expr = .ok condition) :
    expr.placeholders = [] := by
  rw [ofNullTest.eq_def] at found
  split at found
  · rfl
  · rcases Outcome.bind_eq_ok.1 found with ⟨field, required, -⟩
    exact Scope.placeholders_of_requireField required

/-- A comparison of literals holds no placeholders. -/
theorem Condition.placeholders_of_ofLiterals {left right : Expr} {op : CompareOp}
    {condition : Condition} (found : ofLiterals left op right = .ok condition) :
    left.placeholders = [] ∧ right.placeholders = [] := by
  rw [ofLiterals] at found
  split at found
  · rename_i first second
    exact ⟨Expr.placeholders_of_literal? first, Expr.placeholders_of_literal? second⟩
  · cases found

/-- A condition without slots and sets gives the same answer whatever the arguments. -/
theorem Condition.evaluate_of_typed_nil {type : RecordType} {condition : Condition}
    (typed : condition.Typed type []) (record : Value) (arguments : Arguments) :
    condition.evaluate record arguments = condition.evaluate record .empty := by
  induction typed with
  | literal value => rfl
  | and _ _ ihFirst ihSecond | or _ _ ihFirst ihSecond =>
      rw [evaluate, evaluate, ihFirst, ihSecond]
  | not _ ih => rw [evaluate, evaluate, ih]
  | isNull _ _ => rfl
  | guarded _ _ ih => rw [evaluate, evaluate, ih]
  | compare op left right =>
      cases right with
      | field _ | constant _ => rfl
      | slot member => cases member
  | member _ here _ _ => cases here

end RecordQuery
