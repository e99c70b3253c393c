import RecordQuery.Condition
import RecordQuery.Value.Literal

/-!
# From expressions to conditions

An expression becomes a condition by resolving its names in one record type. The parts are bound
from left to right, so slots and groups follow the order of the text.
-/

namespace RecordQuery

open Sql (Expr CompareOp)

/-- Where the names of an expression are resolved: in a record type, loosely or exactly, with the
holder as the only qualifier. -/
structure Scope where
  type : RecordType
  loose : Bool
  holder : String

namespace Scope

/-- The field of a name. -/
def resolve (scope : Scope) (name : String) : QueryResult Accessor :=
  match if scope.loose then scope.type.looseField? name else scope.type.field? name with
  | some field => .ok field
  | none => .error (.resolution (.noField name scope.type.name))

/-- The field that an operand refers to; none if the operand is no column. -/
def field? (scope : Scope) : Expr → QueryResult (Option Accessor)
  | .column name => some <$> scope.resolve name
  | .qualified table column =>
      if table == scope.holder then some <$> scope.resolve column
      else .error (.resolution (.unknownQualifier table column scope.holder))
  | _ => .ok none

/-- The field that an operand has to refer to. -/
def requireField (scope : Scope) (expr : Expr) : QueryResult Accessor := do
  match ← scope.field? expr with
  | some field => return field
  | none => throw (.compile (.notField expr))

end Scope

namespace Condition

/-- Asks for the presence of an optional field before a condition on it. -/
def guardedBy (field : Accessor) (condition : Condition) : Condition :=
  if field.schema.isOptional then .guarded field condition else condition

/-- The scalar kind of a field that is compared. -/
def comparableKind (field : Accessor) : QueryResult ScalarKind :=
  match field.schema.kind? with
  | some kind => .ok kind
  | none => .error (.compile (.notComparable field.name field.schema))

/-- Whether a literal may be compared with fields of a kind. Any number may be compared with any
numeric field. -/
def fitsKind : ScalarKind → Value → Bool
  | .int, value | .float, value => value.isNumber
  | kind, value => kind.accepts value

/-- A field used as a condition of its own. -/
def ofField (scope : Scope) (expr : Expr) : QueryResult Condition := do
  let field ← scope.requireField expr
  if field.schema.kind? = some .bool then
    return guardedBy field (.compare field .eq (.constant (.bool true)) .bool)
  else throw (.compile (.fieldNotBoolean field.name field.schema))

/-- A test for null. -/
def ofNullTest (scope : Scope) (negated : Bool) : Expr → QueryResult Condition
  | .null => .ok (.literal !negated)
  | operand => do return .isNull (← scope.requireField operand) negated

/-- A comparison of two fields, as doubles where one is an integer and the other is not. -/
def ofFields (left : Accessor) (op : CompareOp) (right : Accessor) : QueryResult Condition := do
  let leftKind ← comparableKind left
  let rightKind ← comparableKind right
  let kind ←
    if leftKind = rightKind then pure leftKind
    else if leftKind.isNumeric && rightKind.isNumeric then pure .float
    else throw (.compile (.fieldMismatch left.name left.schema right.name right.schema))
  return guardedBy left (guardedBy right (.compare left op (.field right) kind))

/-- A comparison of a field with a literal or a placeholder. Equality with null is the test for
null; every other comparison with null is false. -/
def ofOperand (field : Accessor) (op : CompareOp) (operand : Expr) (binding : Binding) :
    QueryResult (Condition × Binding) := do
  let kind ← comparableKind field
  match operand with
  | .null =>
      match op with
      | .eq => return (.isNull field false, binding)
      | .ne => return (.isNull field true, binding)
      | _ => return (.literal false, binding)
  | .placeholder _ =>
      let (slot, binding) := binding.addPlaceholder field.name kind
      return (guardedBy field (.compare field op (.slot slot) kind), binding)
  | other =>
      match other.literal? with
      | none => throw (.compile (.unsupportedOperand other field.name))
      | some value =>
          if fitsKind kind value then
            return (guardedBy field (.compare field op (.constant value) kind), binding)
          else throw (.compile (.literalMismatch field.name field.schema value))

/-- A comparison of two literals, settled at once. -/
def ofLiterals (left : Expr) (op : CompareOp) (right : Expr) : QueryResult Condition :=
  match left.literal?, right.literal? with
  | some a, some b =>
      if a.isNull || b.isNull then .ok (.literal false)
      else
        let kind :=
          match a with
          | .number _ => ScalarKind.float
          | .bool _ => .bool
          | _ => .string
        match compareValues kind a b with
        | some order => .ok (.literal (op.holds order))
        | none => .error (.compile (.literalsMismatch a b))
  | _, _ => .error (.compile (.noFieldOperand left right))

/-- A comparison. A field on the right is moved to the left. -/
def ofComparison (scope : Scope) (left : Expr) (op : CompareOp) (right : Expr)
    (binding : Binding) : QueryResult (Condition × Binding) := do
  match ← scope.field? left, ← scope.field? right with
  | some left, some right => return (← ofFields left op right, binding)
  | some field, none => ofOperand field op right binding
  | none, some field => ofOperand field op.flip left binding
  | none, none => return (← ofLiterals left op right, binding)

/-- The items of an `IN` list, where none is a placeholder. -/
def listItem (field : Accessor) : Expr → QueryResult (Option Value)
  | .placeholder _ => .ok none
  | .null => .error (.compile (.nullInList field.name))
  | other =>
      match other.literal? with
      | some value => .ok (some value)
      | none => .error (.compile (.unsupportedItem other))

/-- A test for membership; only integers and strings have sets. -/
def ofMembership (scope : Scope) (operand : Expr) (items : List Expr) (negated : Bool)
    (binding : Binding) : QueryResult (Condition × Binding) := do
  let field ← scope.requireField operand
  let kind ←
    match field.schema.kind? with
    | some .int => pure ScalarKind.int
    | some .string => pure .string
    | _ => throw (.compile (.unsupportedMembership field.schema field.name))
  let items ← items.mapM (listItem field)
  match binding.addMembership field.name kind items with
  | (.ok group, binding) => return (guardedBy field (.member field group negated), binding)
  | (.error error, _) => throw error

/-- The condition that an expression states, and the binding with its slots. -/
def ofExpr (scope : Scope) : Expr → Binding → QueryResult (Condition × Binding)
  | .binary .and left right, binding => do
      let (left, binding) ← ofExpr scope left binding
      let (right, binding) ← ofExpr scope right binding
      return (.and left right, binding)
  | .binary .or left right, binding => do
      let (left, binding) ← ofExpr scope left binding
      let (right, binding) ← ofExpr scope right binding
      return (.or left right, binding)
  | .binary (.compare op) left right, binding => ofComparison scope left op right binding
  | .not operand, binding => do
      let (operand, binding) ← ofExpr scope operand binding
      return (.not operand, binding)
  | .isNull operand, binding => return (← ofNullTest scope false operand, binding)
  | .isNotNull operand, binding => return (← ofNullTest scope true operand, binding)
  | .inList operand items negated, binding => ofMembership scope operand items negated binding
  | .boolean value, binding => return (.literal value, binding)
  | .column name, binding => return (← ofField scope (.column name), binding)
  | .qualified table column, binding =>
      return (← ofField scope (.qualified table column), binding)
  | other, _ => throw (.compile (.notBoolean other))

end Condition

end RecordQuery
