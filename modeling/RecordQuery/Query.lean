import RecordQuery.Path.Scan
import RecordQuery.Route.Walk

/-!
# Queries

A query is a SELECT bound to the schema of its root values: a route to the leaves, a projection of
them, and the binding of its placeholders. It can be run on any number of values.
-/

namespace RecordQuery

open Sql (Expr Select)

/-- A compiled SELECT. -/
structure Query where
  route : Route
  projection : Projection
  binding : Binding
  limit : Option Nat

namespace Query

/-- The qualifier of a WHERE over the root values themselves. -/
def rootHolder : String := "t"

/-- A path bound to a root schema, with the WHERE condition on the leaves. -/
def bindPath (root : Schema) (path : Path) (filter : Option Expr) :
    QueryResult (Route × Binding) := do
  let (route, binding) ← Route.bind root path Binding.empty
  match filter with
  | none => return (route, binding)
  | some filter =>
      match route.leafSchema.record? with
      | none => throw (.compile (.whereOnScalar route.leafSchema))
      | some type =>
          let holder := path.lastName?.getD rootHolder
          let (condition, binding) ← Condition.ofExpr ⟨type, false, holder⟩ filter binding
          return (route.attach condition, binding)

/-- The route of a SELECT: its selector bound to the root schema, with the WHERE condition on the
leaves. The statement text tells where the selector starts. -/
def bindRoute (sql : String) (select : Select) (root : Schema) : QueryResult (Route × Binding) := do
  match select.source with
  | .nested _ => throw (.parse .nestedSelect)
  | .table selector =>
      let quoted := sql.toList[select.sourceOffset]? == some '\x60'
      let offset := if quoted then select.sourceOffset + 1 else select.sourceOffset
      bindPath root (← Path.scan selector offset) select.filter

/-- Compiles a SELECT over root values of a schema into rows of a destination type, or of a type
made up from the column list. -/
def compile (sql : String) (root : Schema) (dest : Option RecordType) : QueryResult Query := do
  let select ← Sql.parseSelect sql
  let (route, binding) ← bindRoute sql select root
  let projection ← Projection.compile route.leafSchema select.columns dest
  return { route, projection, binding, limit := select.limit }

/-- Compiles a SELECT into rows of the record type inside a destination schema. -/
def compileInto (sql : String) (root dest : Schema) : QueryResult Query :=
  match dest.innermostRecord? with
  | some type => compile sql root (some type)
  | none => .error (.compile (.destinationNotRecord dest))

/-- Whether the selector of a SELECT reaches records. -/
def reachesRecords (sql : String) (root : Schema) : QueryResult Bool := do
  let select ← Sql.parseSelect sql
  let (route, _) ← bindRoute sql select root
  return route.leafSchema.record?.isSome

/-- The schema of the rows. -/
def schema (query : Query) : Schema := query.projection.schema

/-- How many leaves a root value has, whatever the limit. -/
def count (query : Query) (root : Value) (args : List Value) : QueryResult Nat := do
  query.route.count (← query.binding.expand args) root

/-- Calls visitors along the route. -/
def visit {σ : Type} (query : Query) (root : Value) (args : List Value)
    (visitors : Route.Visitors σ) : ExceptT QueryError (StateM σ) Unit := do
  let arguments ← liftM (query.binding.expand args)
  query.route.visit arguments visitors root

/-- The rows of a root value under a limit. Unless the rows are collected into one, the leaves are
counted first, so a fault behind the limit counts. -/
def selectUpTo (query : Query) (limit : Option Nat) (root : Value) (args : List Value) :
    QueryResult (List Value) := do
  let arguments ← query.binding.expand args
  if !query.projection.aggregate then
    let _ ← query.route.count arguments root
  let start := RowBuffer.start query.projection.template query.projection.aggregate limit
  return (← query.route.project arguments query.projection root start).finish

/-- All rows of a root value. -/
def selectAll (query : Query) (root : Value) (args : List Value) : QueryResult (List Value) :=
  query.selectUpTo query.limit root args

/-- The first row of a root value, if there is one. -/
def selectFirst (query : Query) (root : Value) (args : List Value) :
    QueryResult (Option Value) := do
  return (← query.selectUpTo (some (query.limit.elim 1 (min 1))) root args).head?

/-- A row as a value of another type. -/
def decode {α : Type} (query : Query) (read : Value → Except String α) (row : Value) :
    QueryResult α :=
  match read row with
  | .ok value => .ok value
  | .error reason => .error (.execution query.schema.text (.undecodable reason))

/-- All rows as values of another type. -/
def selectAllAs {α : Type} (query : Query) (read : Value → Except String α) (root : Value)
    (args : List Value) : QueryResult (List α) := do
  (← query.selectAll root args).mapM (query.decode read)

/-- The first row, if there is one, as a value of another type. -/
def selectFirstAs {α : Type} (query : Query) (read : Value → Except String α) (root : Value)
    (args : List Value) : QueryResult (Option α) := do
  (← query.selectFirst root args).mapM (query.decode read)

end Query

end RecordQuery
