import RecordQuery.Sql.Statement
import RecordQuery.Schema.Accessor
import RecordQuery.Table.Cast
import RecordQuery.Value.Literal

/-!
# Column lists over tables

A column of a table shows a field of each record, or one value on all rows: a literal, a cast or
the present moment. A column list is bound to the record type of the table. Where every column
shows one value, the list itself tells the record type of a table that has none.
-/

namespace RecordQuery

open Sql (Expr Column)

/-- Where the values of a column come from. -/
inductive ColumnValue where
  | field (field : Accessor)
  /-- The same value on every row. -/
  | constant (value : Value)

/-- A column of the rows of a statement. -/
structure OutputColumn where
  name : String
  schema : Schema
  source : ColumnValue

namespace OutputColumn

/-- The value of the column for a record; a field that is absent shows null. -/
def value (column : OutputColumn) (record : Value) : QueryResult Value :=
  match column.source with
  | .field field => do return (← field.get record).getD .null
  | .constant value => .ok value

/-- A column that shows a field under its own name or another one. -/
def ofField (field : Accessor) (label : Option String) : OutputColumn :=
  ⟨label.getD field.name, field.schema, .field field⟩

end OutputColumn

/-! ## Parts of columns -/

/-- The label that a column without a name of its own has to have. -/
def requireLabel (label : Option String) (expr : Expr) : TableResult String :=
  match label with
  | some label => .ok label
  | none => .error (.statement (.unlabelled expr))

/-- The kind and the source of a cast, from the arguments of its call. -/
def castParts (label : String) : List Expr → TableResult (ScalarKind × Expr)
  | [source, .column target] =>
      match ScalarKind.ofCastTarget? target.toLower with
      | some kind => .ok (kind, source)
      | none => .error (.statement (.castType target.toLower))
  | args => .error (.statement (.castArguments label args))

/-- The functions that a column may call. -/
inductive ColumnFunction where
  | cast
  | now

/-- The function of a name, in any case. -/
def ColumnFunction.ofName (name : String) : TableResult ColumnFunction :=
  let name := name.toLower
  if name == "cast" then .ok .cast
  else if name == "now" || name == "current_timestamp" then .ok .now
  else .error (.statement (.unsupportedFunction name))

/-! ## Plans -/

/-- A column list bound to a record type. It takes the first arguments of a run for the
placeholders of its casts. -/
structure RowPlan where
  columns : List OutputColumn
  consumed : Nat

namespace RowPlan

/-- What the columns of a list are bound to: the moment of the run, the record type and the
arguments. -/
structure Context where
  now : Instant
  type : RecordType
  args : List Value

/-- The value that a cast starts from. A placeholder takes the next argument. -/
def castSource (context : Context) (label : String) (consumed : Nat) :
    Expr → TableResult (Value × Nat)
  | .placeholder _ =>
      match context.args[consumed]? with
      | some value => .ok (value, consumed + 1)
      | none => .error (.argument (.missingCastArgument label))
  | other =>
      match other.literal? with
      | some value => .ok (value, consumed)
      | none => .error (.argument (.unsupportedCastSource label other))

/-- A column that shows the value of an expression. -/
def ofExpression (expr : Expr) (label : Option String) : TableResult OutputColumn := do
  let name ← requireLabel label expr
  match expr.literal? with
  | none => throw (.statement (.unsupportedColumn expr))
  | some value =>
      match value.kind? with
      | none => throw (.statement (.nullColumn name))
      | some kind => return ⟨name, .scalar kind, .constant value⟩

/-- A column that shows the value of a call. -/
def ofCall (context : Context) (name : String) (args : List Expr) (label : Option String)
    (consumed : Nat) : TableResult (OutputColumn × Nat) := do
  let label := label.getD name
  match ← ColumnFunction.ofName name with
  | .now =>
      return (⟨label, .scalar .time, .constant (.string context.now.text)⟩, consumed)
  | .cast =>
      let (kind, source) ← castParts label args
      let (value, consumed) ← castSource context label consumed source
      return (⟨label, .scalar kind, .constant (← kind.cast label value)⟩, consumed)

/-- The plan with one more entry of a column list. -/
def add (context : Context) (plan : RowPlan) (column : Column) : TableResult RowPlan :=
  match column with
  | .star =>
      let columns := context.type.accessors.map fun field => OutputColumn.ofField field none
      .ok { plan with columns := plan.columns ++ columns }
  | .field name label =>
      match context.type.looseField? (Sql.unqualified name) with
      | some field => .ok { plan with columns := plan.columns ++ [.ofField field label] }
      | none => .error (.query (.resolution (.noColumn name context.type.name)))
  | .expression expr label => do
      return { plan with columns := plan.columns ++ [← ofExpression expr label] }
  | .call name args label => do
      let (column, consumed) ← ofCall context name args label plan.consumed
      return ⟨plan.columns ++ [column], consumed⟩

/-- Binds a column list. -/
def compile (context : Context) (columns : List Column) : TableResult RowPlan :=
  columns.foldlM (add context) ⟨[], 0⟩

/-- The row of a record: one value for each column. -/
def row (plan : RowPlan) (record : Value) : QueryResult (List Value) :=
  plan.columns.mapM (·.value record)

end RowPlan

/-! ## Types of column lists -/

/-- The field that a column gives to the type of its table. -/
def Sql.Column.detect (table : String) : Column → TableResult (String × ScalarKind)
  | .star => .error (.untyped table .star)
  | .field name _ => .error (.untyped table (.column name))
  | .expression expr label => do
      let name ← requireLabel label expr
      match expr.literal?.bind Value.kind? with
      | some kind => return (name, kind)
      | none => throw (.statement (.unsupportedColumn expr))
  | .call name args label => do
      let label := label.getD name
      match ← ColumnFunction.ofName name with
      | .now => return (label, .time)
      | .cast => return (label, (← castParts label args).1)

/-- The type of a table of which a column list shows no field. -/
def RecordType.detect (table : String) (columns : List Column) : TableResult RecordType := do
  let fields ← columns.mapM (Sql.Column.detect table)
  return ⟨table, fields.map fun field => (field.1, .scalar field.2)⟩

end RecordQuery
