import RecordQuery.Proofs.Table.Records
import RecordQuery.Table.Connection

/-!
# How a SELECT is run

A run of a SELECT over a table is made in steps: the type of the table, the plan of the column
list, the condition with its binding, the arguments, and the file. It succeeds exactly when every
step does, and the first step that fails tells the error.
-/

namespace RecordQuery.Connection

variable {connection : Connection} {files : Files} {now : Instant} {args : List Value}
  {cursor : Cursor} {table sql : String} {select : Sql.Select}

/-- The type of the records of a table: the one that is known by its name, else the one that the
column list tells. -/
def typeOf (connection : Connection) (table : String) (columns : List Sql.Column) :
    TableResult RecordType :=
  match connection.types.lookup? table with
  | some type => .ok type
  | none => RecordType.detect table columns

/-- The steps behind the type of the table. -/
def runOver (connection : Connection) (files : Files) (now : Instant) (table : String)
    (select : Sql.Select) (args : List Value) (type : RecordType) : TableResult Cursor := do
  let plan ← RowPlan.compile ⟨now, type, args⟩ select.columns
  let (filter, binding) ← TableResult.ofQuery (bindFilter type table select.filter)
  let arguments ← TableResult.ofQuery (binding.expand (args.drop plan.consumed))
  let resource ← connection.locateFor files table filter
  return Cursor.start {
    type, plan, filter, arguments, resource
    maxLineBytes := connection.options.maxLineBytes
    limit := select.limit }

theorem query_eq_runOver (source : select.table? = some table) :
    connection.query files now ⟨sql, .select select⟩ args =
      connection.typeOf table select.columns >>= connection.runOver files now table select args := by
  rw [query, typeOf]
  simp only [source]
  cases connection.types.lookup? table <;> rfl

/-- Every step of a run that was made succeeded. -/
theorem runOver_eq_ok {type : RecordType}
    (found : connection.runOver files now table select args type = .ok cursor) :
    ∃ plan filter binding arguments resource,
      RowPlan.compile ⟨now, type, args⟩ select.columns = .ok plan ∧
      bindFilter type table select.filter = .ok (filter, binding) ∧
      binding.expand (args.drop plan.consumed) = .ok arguments ∧
      connection.locateFor files table filter = .ok resource ∧
      cursor = .start { type, plan, filter, arguments, resource,
                        maxLineBytes := connection.options.maxLineBytes, limit := select.limit } := by
  rcases Outcome.bind_eq_ok.1 found with ⟨plan, compiled, found⟩
  rcases Outcome.bind_eq_ok.1 found with ⟨⟨filter, binding⟩, bound, found⟩
  rcases Outcome.bind_eq_ok.1 found with ⟨arguments, expanded, found⟩
  rcases Outcome.bind_eq_ok.1 found with ⟨resource, located, same⟩
  refine ⟨plan, filter, binding, arguments, resource, compiled, ?_, ?_, located, ?_⟩
  · exact TableResult.ofQuery_eq_ok.1 bound
  · exact TableResult.ofQuery_eq_ok.1 expanded
  · exact (Except.ok.inj same).symm

/-- A file is looked for unless the condition rules out every record. -/
theorem locateFor_eq_ok_iff {condition : Option Condition} {place : Option Resource} :
    connection.locateFor files table condition = .ok place ↔
      (condition.bind Condition.constant? = some false ∧ place = none) ∨
        (condition.bind Condition.constant? ≠ some false ∧
          ∃ resource, place = some resource ∧ Resource.locate files connection.location.path table
            connection.options.extensions = .ok resource) := by
  rw [locateFor]
  split
  · rename_i never
    simp [never, eq_comm]
  · rename_i possible
    cases Resource.locate files connection.location.path table connection.options.extensions with
    | error error => simp [possible]
    | ok resource => simp [possible, eq_comm]

/-- A query that was run is a SELECT from a table whose type is known or told by the columns. -/
theorem query_eq_ok_iff {prepared : Prepared} :
    connection.query files now prepared args = .ok cursor ↔
      ∃ select table type, prepared.statement = .select select ∧ select.table? = some table ∧
        connection.typeOf table select.columns = .ok type ∧
        connection.runOver files now table select args type = .ok cursor := by
  rcases prepared with ⟨sql, statement⟩
  constructor
  · intro found
    cases statement with
    | register registration => cases found
    | select select =>
        cases source : select.table? with
        | none =>
            rw [query] at found
            simp only [source] at found
            cases found
        | some table =>
            rw [query_eq_runOver source] at found
            rcases Outcome.bind_eq_ok.1 found with ⟨type, known, found⟩
            exact ⟨select, table, type, rfl, source, known, found⟩
  · rintro ⟨select, table, type, rfl, source, known, found⟩
    rw [query_eq_runOver source, known]
    exact found

end RecordQuery.Connection
