import RecordQuery.Proofs.Schema.Conforming

/-!
# Notions of fitting values

What a copy does to the values of a schema hangs on few properties of the notion of such values:
how it treats scalars, optional values, arrays and zeros. There are two notions with these
properties. A value that conforms may hold null anywhere; one that inhabits its schema holds null
only where the schema is optional.
-/

namespace RecordQuery

namespace Schema

/-- A notion of the values of a schema, as copies rely on it. -/
structure Fitting (fits : Schema → Value → Prop) : Prop where
  scalar {kind : ScalarKind} {value : Value} (present : value.isNull = false) :
    fits (.scalar kind) value ↔ kind.accepts value = true
  optional {inner : Schema} {value : Value} (present : value.isNull = false) :
    fits (.optional inner) value ↔ fits inner value
  array {element : Schema} {value : Value} (present : value.isNull = false) :
    fits (.array element) value ↔
      ∃ items, value = .array items ∧ ∀ item ∈ items, fits element item
  zero {schema : Schema} (distinct : schema.Distinct) : fits schema schema.zero

/-- Optional layers make no difference to a value that is there. -/
theorem Fitting.required {fits : Schema → Value → Prop} (fitting : Fitting fits) {schema : Schema}
    {value : Value} (present : value.isNull = false) :
    fits schema.required value ↔ fits schema value := by
  induction schema using layers with
  | optional inner ih => exact ih.trans (fitting.optional present).symm
  | array | scalar | record => exact Iff.rfl

theorem fitting_conforms : Fitting Conforms where
  scalar present := ⟨fun conforms => conforms.accepts present, .scalar⟩
  optional _ := conforms_optional
  array present := by
    constructor
    · exact fun conforms => conforms.items present
    · rintro ⟨items, rfl, each⟩
      exact .array each
  zero := conforms_zero

end Schema

/-- Of fields with distinct names, each is the one that its name finds. -/
theorem Fields.get?_of_mem {fields : Fields} {field : String × Value}
    (distinct : (fields.map Prod.fst).Nodup) (member : field ∈ fields) :
    fields.get? field.1 = some field.2 := by
  induction fields with
  | nil => cases member
  | cons first rest ih =>
      rw [List.map_cons, List.nodup_cons] at distinct
      rw [get?, List.lookup_cons]
      rcases List.mem_cons.1 member with rfl | later
      · rw [beq_self_eq_true]
      · have different : (field.1 == first.1) = false :=
          beq_eq_false_iff_ne.2 fun same => distinct.1 (same ▸ List.mem_map_of_mem later)
        rw [different]
        exact ih distinct.2 later

namespace Schema

/-- The fields of a zero record, in order. -/
theorem zero_record {name : String} {fields : List (String × Schema)}
    (names : (fields.map Prod.fst).Nodup) :
    (Schema.record name fields).zero =
      .object (fields.map fun field => (field.1, field.2.zero)) := by
  rw [zero, Fields.ofWrites_of_nodup, zeroFields_eq_map]
  rw [zeroFields_eq_map, List.map_map]
  exact names

end Schema

end RecordQuery
