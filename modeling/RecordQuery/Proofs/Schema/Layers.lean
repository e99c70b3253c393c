import RecordQuery.Route

/-!
# Layers of schemas

A schema is a scalar or a record under layers of optional values and arrays. Routes and
copies look through these layers, so most facts about them are proved layer by layer,
without a look at the fields of the record inside.
-/

namespace RecordQuery.Schema

/-- Induction on the layers of a schema. -/
@[elab_as_elim]
theorem layers {motive : Schema → Prop}
    (optional : ∀ inner, motive inner → motive (.optional inner))
    (array : ∀ element, motive element → motive (.array element))
    (scalar : ∀ kind, motive (.scalar kind))
    (record : ∀ name fields, motive (.record name fields)) :
    ∀ schema, motive schema
  | .optional inner => optional inner (layers optional array scalar record inner)
  | .array element => array element (layers optional array scalar record element)
  | .scalar kind => scalar kind
  | .record name fields => record name fields

end RecordQuery.Schema
