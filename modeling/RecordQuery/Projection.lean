import RecordQuery.Projection.ColumnCopy
import RecordQuery.Sql.Statement
import RecordQuery.Text.Character

/-!
# Projections

A projection turns source records into rows. Its columns are copied one after the other into a row
that starts from the zero values of the destination. Without a destination the row type is made up
from the column list; `*` alone then takes the source value as it is.
-/

namespace RecordQuery

open Sql (Column Expr)

/-- A compiled column list. -/
structure Projection where
  columns : List ColumnCopy
  schema : Schema
  template : Value
  aggregate : Bool
  verbatim : Bool

/-- What a column reads: the name of the source field, the label, and whether it collects. -/
structure ColumnSource where
  field : String
  label : Option String
  aggregate : Bool

/-- The source of one column. Only `ARRAY_AGG` of a single column can be called. -/
def ColumnSource.ofColumn : Column → QueryResult ColumnSource
  | .field name label => .ok ⟨Sql.unqualified name, label, false⟩
  | .call name args label =>
      if !Text.sameLetters name "ARRAY_AGG" then
        .error (.compile (.unsupportedFunction name))
      else
        match args with
        | [.column name] => .ok ⟨Sql.unqualified name, label, true⟩
        | [.qualified _ column] => .ok ⟨column, label, true⟩
        | [other] => .error (.compile (.aggregateArgument other))
        | _ => .error (.compile (.aggregateArity args.length))
  | .expression expr _ => .error (.compile (.unsupportedColumn expr))
  | .star => .error (.compile .starAmongColumns)

namespace Projection

/-- The name of row types that are made up from column lists. -/
def rowName : String := "Row"

/-- The destination field of a column, and the row type with it: a field of the given destination,
or a new field of the row type made up so far. -/
def destination (dest : Option RecordType) (row : RecordType) (name : String) (schema : Schema) :
    QueryResult (Accessor × RecordType) :=
  match dest with
  | some dest =>
      match dest.field? name with
      | some field => .ok (field, row)
      | none => .error (.resolution (.noDestField name dest.name))
  | none =>
      if (row.field? name).isSome then .error (.compile (.duplicateColumn name))
      else .ok (⟨name, schema, some row.fields.length⟩, row.push name schema)

/-- The copies of a column list, and the row type made up for them. -/
def copies (source : RecordType) (dest : Option RecordType) (row : RecordType) :
    List Column → QueryResult (List ColumnCopy × RecordType)
  | [] => .ok ([], row)
  | column :: rest => do
      let wanted ← ColumnSource.ofColumn column
      match source.field? wanted.field with
      | none => throw (.resolution (.noSourceField wanted.field source.name))
      | some field =>
          let schema := if wanted.aggregate then .array field.schema else field.schema
          let (target, row) ← destination dest row (wanted.label.getD field.name) schema
          let copy ← ColumnCopy.make field target wanted.aggregate
          let (others, row) ← copies source dest row rest
          return (copy :: others, row)

/-- The copies that fill every field of a destination from the source field of the same name. -/
def copiesByName (source : RecordType) : List Accessor → QueryResult (List ColumnCopy)
  | [] => .ok []
  | target :: rest =>
      match source.field? target.name with
      | none => .error (.resolution (.noSourceField target.name source.name))
      | some field => do
          let copy ← ColumnCopy.make field target false
          return copy :: (← copiesByName source rest)

/-- The projection of `*`: the values as they are, or every field of a destination by name. -/
def ofStar (source : Schema) : Option RecordType → QueryResult Projection
  | none => .ok { columns := [], schema := source, template := source.zero, aggregate := false,
                  verbatim := true }
  | some dest =>
      match source.record? with
      | none => .error (.compile (.scalarIntoRecord source dest.name))
      | some type => do
          let columns ← copiesByName type dest.accessors
          return { columns, schema := dest.schema, template := dest.zero, aggregate := false,
                   verbatim := false }

/-- The projection of a column list from values of a schema into a destination, or into a row type
made up from the list. -/
def compile (source : Schema) (columns : List Column) (dest : Option RecordType) :
    QueryResult Projection :=
  if columns.any Column.isStar then
    if 1 < columns.length then .error (.compile .starAmongColumns)
    else ofStar source dest
  else
    match source.record? with
    | none => .error (.compile (.columnsOfScalar source))
    | some type => do
        let (copies, row) ← copies type dest ⟨rowName, []⟩ columns
        let type := dest.getD row
        return { columns := copies, schema := type.schema, template := type.zero,
                 aggregate := copies.any ColumnCopy.isAggregate, verbatim := false }

/-- Copies columns one after the other until one fails; the row keeps what was copied before. -/
def copyAll (source row : Value) : List ColumnCopy → Value × QueryResult Unit
  | [] => (row, .ok ())
  | copy :: rest =>
      match copy.apply source row with
      | .ok row => copyAll source row rest
      | .error error => (row, .error error)

/-- The row after one more source value. -/
def apply (projection : Projection) (source row : Value) : Value × QueryResult Unit :=
  if projection.verbatim then (source, .ok ()) else copyAll source row projection.columns

end Projection

end RecordQuery
