import RecordQuery.Sql.Grammar
import RecordQuery.Table.Error

/-!
# Prepared statements

A statement over tables selects rows of one table or registers a record type. A SELECT from another
SELECT is folded into one over the table of the innermost.
-/

namespace RecordQuery

namespace Sql

/-! ## Counting placeholders -/

/-- How much of a text is quoted at some point of it. -/
inductive Quoting where
  | bare
  | quoted (mark : Char)
  /-- Behind a backslash in quotes. -/
  | escaped (mark : Char)

/-- The number of question marks outside quotes. -/
def countPlaceholders (quoting : Quoting) : List Char → Nat
  | [] => 0
  | c :: rest =>
      match quoting with
      | .escaped mark => countPlaceholders (.quoted mark) rest
      | .quoted mark =>
          if c == '\\' then countPlaceholders (.escaped mark) rest
          else if c == mark then countPlaceholders .bare rest
          else countPlaceholders (.quoted mark) rest
      | .bare =>
          if c == '\'' || c == '"' || c == '\x60' then countPlaceholders (.quoted c) rest
          else if c == '?' then countPlaceholders .bare rest + 1
          else countPlaceholders .bare rest

/-! ## Folding -/

/-- The name under which the rows show a column, in lower case; empty where it has none. -/
def Column.outputName : Column → String
  | .star => ""
  | .field name label => (label.getD (unqualified name)).toLower
  | .call name _ label => (label.getD name).toLower
  | .expression _ label => (label.getD "").toLower

/-- The inner column that an outer one shows, else the outer one. -/
def Column.resolve (inner : List Column) (column : Column) : Column :=
  let name := column.outputName
  (inner.find? fun candidate => !name.isEmpty && candidate.outputName == name).getD column

/-- An outer SELECT folded into its flat inner one. A clause of the outer SELECT replaces that of
the inner one. -/
def Select.merge (outer inner : Select) : Select :=
  let columns :=
    match outer.columns with
    | [.star] => inner.columns
    | columns => columns.map (Column.resolve inner.columns)
  { columns
    source := inner.source
    sourceOffset := inner.sourceOffset
    filter := outer.filter.or inner.filter
    limit := outer.limit.or inner.limit }

/-- A SELECT over the table of the innermost SELECT. -/
def Select.flatten : Select → Select
  | ⟨columns, .table name, offset, filter, limit⟩ => ⟨columns, .table name, offset, filter, limit⟩
  | ⟨columns, .nested inner, offset, filter, limit⟩ =>
      Select.merge ⟨columns, .nested inner, offset, filter, limit⟩ inner.flatten

/-- The table that a SELECT reads from, unless it reads from another SELECT. -/
def Select.table? (select : Select) : Option String :=
  match select.source with
  | .table name => some name
  | .nested _ => none

end Sql

/-- A statement over tables with its text. A SELECT in it is flat. -/
structure Prepared where
  sql : String
  statement : Sql.Statement

namespace Prepared

/-- The first word of a statement, in upper case. -/
def keyword (sql : String) : String :=
  let start := sql.toList.dropWhile Text.isBlank
  (String.ofList (start.takeWhile fun c => !Text.isBlank c && c != '(')).toUpper

/-- Prepares a statement. -/
def ofText (sql : String) : TableResult Prepared := do
  if keyword sql != "SELECT" && keyword sql != "REGISTER" then
    throw (.statement (.unsupportedKind sql))
  match ← TableResult.ofQuery (Sql.parseStatement sql) with
  | .select select => return ⟨sql, .select select.flatten⟩
  | .register registration => return ⟨sql, .register registration⟩

/-- The number of arguments that the text asks for. -/
def placeholders (prepared : Prepared) : Nat :=
  Sql.countPlaceholders .bare prepared.sql.toList

def select? (prepared : Prepared) : Option Sql.Select :=
  match prepared.statement with
  | .select select => some select
  | .register _ => none

end Prepared

end RecordQuery
