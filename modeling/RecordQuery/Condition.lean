import RecordQuery.Schema.Accessor
import RecordQuery.Condition.Binding
import RecordQuery.Condition.Compare

/-!
# Conditions

A condition is a test of one record. It is bound to the fields of a record type and to the
arguments of a run. A comparison with a field that is absent or null is false, and so is its
complement.
-/

namespace RecordQuery

/-- The right-hand side of a comparison. -/
inductive Operand where
  | field (field : Accessor)
  | constant (value : Value)
  | slot (slot : Nat)

/-- A test of a record. -/
inductive Condition where
  | literal (value : Bool)
  | and (left right : Condition)
  | or (left right : Condition)
  | not (operand : Condition)
  /-- The field is null, or is not if negated. -/
  | isNull (field : Accessor) (negated : Bool)
  /-- The field is present and the condition holds. -/
  | guarded (field : Accessor) (condition : Condition)
  | compare (field : Accessor) (op : Sql.CompareOp) (right : Operand) (kind : ScalarKind)
  /-- The field is a member of the set of a group, or is not if negated. -/
  | member (field : Accessor) (group : Nat) (negated : Bool)

namespace Condition

/-- The value of an operand on a record, or none where it is absent or null. -/
def operandValue (record : Value) (arguments : Arguments) :
    Operand → QueryResult (Option Value)
  | .field field => field.get record
  | .constant value => .ok (if value.isNull then none else some value)
  | .slot slot =>
      let value := arguments.value slot
      .ok (if value.isNull then none else some value)

/-- Whether a record passes. The right side of a connective counts only when the left side does not
settle it. -/
def evaluate (record : Value) (arguments : Arguments) : Condition → QueryResult Bool
  | .literal value => .ok value
  | .and left right => do
      if ← left.evaluate record arguments then right.evaluate record arguments else return false
  | .or left right => do
      if ← left.evaluate record arguments then return true else right.evaluate record arguments
  | .not operand => do return !(← operand.evaluate record arguments)
  | .isNull field negated => do return (← field.get record).isNone != negated
  | .guarded field condition => do
      match ← field.get record with
      | some _ => condition.evaluate record arguments
      | none => return false
  | .compare field op right kind => do
      match ← field.get record with
      | none => return false
      | some left =>
          match ← operandValue record arguments right with
          | none => return false
          | some right =>
              match compareValues kind left right with
              | some order => return op.holds order
              | none => throw (.execution field.name (.incomparable left right kind))
  | .member field group negated => do
      match ← field.get record with
      | none => return false
      | some value =>
          match arguments.set? group with
          | some set => return set.contains value != negated
          | none => throw (.execution field.name .notExpanded)

/-- The outcome of a condition that does not depend on the record. -/
def constant? : Condition → Option Bool
  | .literal value => some value
  | .not operand => operand.constant?.map (!·)
  | .and left right =>
      match left.constant?, right.constant? with
      | some false, _ | _, some false => some false
      | some true, some true => some true
      | _, _ => none
  | .or left right =>
      match left.constant?, right.constant? with
      | some true, _ | _, some true => some true
      | some false, some false => some false
      | _, _ => none
  | _ => none

/-- Both conditions, where there are two. -/
def and? : Option Condition → Option Condition → Option Condition
  | some left, some right => some (.and left right)
  | left, none => left
  | none, right => right

end Condition

end RecordQuery
