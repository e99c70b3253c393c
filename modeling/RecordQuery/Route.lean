import RecordQuery.Path
import RecordQuery.Condition.OfExpr

/-!
# Routes: paths bound to a schema

A route follows a path through values of one schema. It descends into fields, visits every element
of the arrays on its way, and carries the filters of the path as conditions. Optional layers leave
no trace in a route.
-/

namespace RecordQuery

namespace Schema

/-- The scalar or record under all optional layers and arrays. -/
def core : Schema → Schema
  | .optional inner => inner.core
  | .array element => element.core
  | other => other

/-- The arrays on the way to the core, the outermost first. -/
def arrays : Schema → List Schema
  | .optional inner => inner.arrays
  | .array element => .array element :: element.arrays
  | _ => []

end Schema

/-- A path through values of one schema. Labels name the field that leads to a point. -/
inductive Route where
  /-- Values arriving here are produced. -/
  | leaf (label : String) (schema : Schema) (filter : Option Condition)
  /-- Goes on in one field of a record. -/
  | descend (label : String) (schema : Schema) (filter : Option Condition) (field : Accessor)
      (next : Route)
  /-- Goes on in every element of an array. -/
  | each (label : String) (schema : Schema) (next : Route)

namespace Route

def label : Route → String
  | .leaf label .. | .descend label .. | .each label .. => label

def schema : Route → Schema
  | .leaf _ schema _ | .descend _ schema .. | .each _ schema _ => schema

def filter : Route → Option Condition
  | .leaf _ _ filter | .descend _ _ filter .. => filter
  | .each .. => none

def isLeaf : Route → Bool
  | .leaf .. => true
  | _ => false

/-- The schema of the values that the route produces. -/
def leafSchema : Route → Schema
  | .leaf _ schema _ => schema
  | .descend _ _ _ _ next | .each _ _ next => next.leafSchema

/-- Adds a condition on the produced values, behind the filter they already have. -/
def attach (condition : Condition) : Route → Route
  | .leaf label schema filter => .leaf label schema (Condition.and? filter (some condition))
  | .descend label schema filter field next =>
      .descend label schema filter field (next.attach condition)
  | .each label schema next => .each label schema (next.attach condition)

/-- A route into the elements of arrays, the outermost first. -/
def throughArrays (label : String) (arrays : List Schema) (inner : Route) : Route :=
  arrays.foldr (Route.each label) inner

/-- The condition that a filter states about records of a type. -/
def bindFilter (type : RecordType) (binding : Binding) :
    Option Filter → QueryResult (Option Condition × Binding)
  | none => .ok (none, binding)
  | some filter => do
      let (condition, binding) ←
        Condition.ofExpr ⟨type, false, filter.holder⟩ filter.expr binding
      return (some condition, binding)

/-- Binds a path to the values of a field with a given label. Filters are bound in the order of the
path, each before the descent behind it. -/
def bindAt (label : String) (schema : Schema) :
    Path → Binding → QueryResult (Route × Binding)
  | .leaf filter, binding => do
      let (inner, binding) ←
        match schema.core with
        | .record name fields => do
            let (condition, binding) ← bindFilter ⟨name, fields⟩ binding filter
            pure (Route.leaf label schema.core condition, binding)
        | core =>
            if filter.isSome then throw (.compile (.criteriaOnScalar label core))
            else pure (Route.leaf label core none, binding)
      return (throughArrays label schema.arrays inner, binding)
  | .step filter name next, binding => do
      let (inner, binding) ←
        match schema.core with
        | .record recordName fields => do
            let type : RecordType := ⟨recordName, fields⟩
            let (condition, binding) ← bindFilter type binding filter
            match type.field? name with
            | none => throw (.resolution (.noField name recordName))
            | some field => do
                let (route, binding) ← bindAt field.name field.schema next binding
                pure (Route.descend label schema.core condition field route, binding)
        | core => throw (.resolution (.noDescent label core name))
      return (throughArrays label schema.arrays inner, binding)

/-- Binds a path to root values of a schema. -/
def bind (schema : Schema) (path : Path) (binding : Binding) : QueryResult (Route × Binding) :=
  bindAt schema.text schema path binding

end Route

end RecordQuery
