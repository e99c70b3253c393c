import RecordQuery.Condition.OfExpr
import RecordQuery.Table.Cursor
import RecordQuery.Table.Location
import RecordQuery.Table.Statement
import RecordQuery.Table.TypeRegistry

/-!
# Connections

A connection runs statements over the tables of one directory. It knows record types by name, and
a table is of the type that is known by the name of the table.
-/

namespace RecordQuery

/-- How tables are found and read. -/
structure TableOptions where
  maxLineBytes : Nat
  extensions : List String

namespace TableOptions

/-- Lines of ten mebibytes, and all known extensions. -/
def standard : TableOptions := ⟨10 * 1024 * 1024, Resource.extensions⟩

end TableOptions

/-- A directory of tables with the record types that are known there. -/
structure Connection where
  location : Location
  options : TableOptions
  types : TypeRegistry

namespace Connection

/-- Connects to the directory that a data source name names. -/
def connect (files : Files) (name : String) (options : TableOptions) :
    TableResult Connection := do
  return ⟨← Location.parse files name, options, .empty⟩

/-- Gives a record type to a name on this connection. -/
def register (connection : Connection) (name : String) (type : RecordType) : Connection :=
  { connection with types := connection.types.register name type }

/-- Takes over the record types of a registry whose names are not taken here. -/
def adopt (connection : Connection) (shared : TypeRegistry) : Connection :=
  { connection with types := connection.types.merge shared }

/-- The condition of a WHERE over records of a type, and the binding of its arguments. Names are
matched loosely, and the name of the table may qualify them. -/
def bindFilter (type : RecordType) (table : String) (filter : Option Sql.Expr) :
    QueryResult (Option Condition × Binding) :=
  match filter with
  | none => .ok (none, .empty)
  | some filter => do
      let (condition, binding) ← Condition.ofExpr ⟨type, true, table⟩ filter .empty
      return (some condition, binding)

/-- The file of a table, unless the condition rules out every record. -/
def locateFor (connection : Connection) (files : Files) (table : String)
    (condition : Option Condition) : TableResult (Option Resource) :=
  if condition.bind Condition.constant? = some false then .ok none
  else do
    return some (← Resource.locate files connection.location.path table
      connection.options.extensions)

/-- Runs a SELECT at a moment. The first arguments are for the column list, the others for the
WHERE. -/
def query (connection : Connection) (files : Files) (now : Instant) (prepared : Prepared)
    (args : List Value) : TableResult Cursor := do
  match prepared.statement with
  | .register _ => throw (.statement .registrationIsExecuted)
  | .select select =>
      match select.table? with
      | none => throw (.statement (.unsupportedSource prepared.sql))
      | some table =>
          let type ←
            match connection.types.lookup? table with
            | some type => pure type
            | none => RecordType.detect table select.columns
          let plan ← RowPlan.compile ⟨now, type, args⟩ select.columns
          let (filter, binding) ← TableResult.ofQuery (bindFilter type table select.filter)
          let arguments ← TableResult.ofQuery (binding.expand (args.drop plan.consumed))
          let resource ← connection.locateFor files table filter
          return Cursor.start {
            type, plan, filter, arguments, resource
            maxLineBytes := connection.options.maxLineBytes
            limit := select.limit }

end Connection

end RecordQuery
