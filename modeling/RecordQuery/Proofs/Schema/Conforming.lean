import Mathlib.Data.List.Nodup
import RecordQuery.Proofs.Schema.Layers
import RecordQuery.Schema.Accessor

/-!
# Values of a schema

A value conforms to a schema when its scalars are instances of their kinds, its arrays
stand where arrays are declared and its objects where records are. Null may stand for any
of them, and an object may leave fields out or have more. Reading a declared field of such
an object gives a value of the schema of the field, and writing one keeps the object
conforming.
-/

namespace RecordQuery

namespace Schema

/-- A value has the shape of a schema, as far as it has parts. -/
inductive Conforms : Schema → Value → Prop where
  | null (schema : Schema) : Conforms schema .null
  | scalar {kind : ScalarKind} {value : Value} (accepted : kind.accepts value = true) :
      Conforms (.scalar kind) value
  | optional {inner : Schema} {value : Value} (present : Conforms inner value) :
      Conforms (.optional inner) value
  | array {element : Schema} {items : List Value} (each : ∀ item ∈ items, Conforms element item) :
      Conforms (.array element) (.array items)
  | record {name : String} {fields : List (String × Schema)} {given : Fields}
      (each : ∀ field ∈ fields, ∀ value, given.get? field.1 = some value → Conforms field.2 value) :
      Conforms (.record name fields) (.object given)

/-- No record in the schema has two fields of one name. -/
inductive Distinct : Schema → Prop where
  | scalar (kind : ScalarKind) : Distinct (.scalar kind)
  | optional {inner : Schema} (distinct : Distinct inner) : Distinct (.optional inner)
  | array {element : Schema} (distinct : Distinct element) : Distinct (.array element)
  | record {name : String} {fields : List (String × Schema)}
      (names : (fields.map Prod.fst).Nodup) (each : ∀ field ∈ fields, Distinct field.2) :
      Distinct (.record name fields)

variable {value : Value}

/-- The elements of an array under optional layers are distinct where the whole is. -/
theorem Distinct.element {schema element : Schema} (distinct : schema.Distinct)
    (array : schema.required = .array element) : element.Distinct := by
  induction distinct with
  | optional _ ih => exact ih array
  | array inner =>
      cases array
      exact inner
  | scalar | record => cases array

/-! ## Taking conforming values apart -/

theorem Conforms.accepts {kind : ScalarKind} (conforms : Conforms (.scalar kind) value)
    (present : value.isNull = false) : kind.accepts value = true := by
  cases conforms with
  | null => cases present
  | scalar accepted => exact accepted

theorem conforms_optional {inner : Schema} : Conforms (.optional inner) value ↔
    Conforms inner value := by
  constructor
  · intro conforms
    cases conforms with
    | null => exact .null inner
    | optional present => exact present
  · exact .optional

theorem Conforms.items {element : Schema} (conforms : Conforms (.array element) value)
    (present : value.isNull = false) :
    ∃ items, value = .array items ∧ ∀ item ∈ items, Conforms element item := by
  cases conforms with
  | null => cases present
  | array each => exact ⟨_, rfl, each⟩

theorem Conforms.fields {name : String} {fields : List (String × Schema)}
    (conforms : Conforms (.record name fields) value) (present : value.isNull = false) :
    ∃ given, value = .object given := by
  cases conforms with
  | null => cases present
  | record each => exact ⟨_, rfl⟩

/-- Optional layers make no difference. -/
theorem conforms_required {schema : Schema} : Conforms schema.required value ↔
    Conforms schema value := by
  induction schema using layers with
  | optional inner ih => exact ih.trans conforms_optional.symm
  | array | scalar | record => exact Iff.rfl

/-- Values of a schema with a scalar kind are null or instances of the kind. -/
theorem Conforms.accepts_of_kind? {schema : Schema} {kind : ScalarKind}
    (conforms : Conforms schema value) (known : schema.kind? = some kind)
    (present : value.isNull = false) : kind.accepts value = true := by
  have scalar : schema.required = .scalar kind := by
    rw [kind?] at known
    split at known
    · cases known
      assumption
    · cases known
  exact (scalar ▸ conforms_required.2 conforms).accepts present

theorem required_of_record? {schema : Schema} {type : RecordType}
    (known : schema.record? = some type) : schema.required = type.schema := by
  rw [record?] at known
  split at known
  · cases known
    assumption
  · cases known

/-- Values of a schema with a record under its optional layers conform to that record. -/
theorem Conforms.record? {schema : Schema} {type : RecordType} (conforms : Conforms schema value)
    (known : schema.record? = some type) : type.schema.Conforms value :=
  required_of_record? known ▸ conforms_required.2 conforms

theorem Distinct.record? {schema : Schema} {type : RecordType} (distinct : schema.Distinct)
    (known : schema.record? = some type) : type.schema.Distinct := by
  rw [← required_of_record? known]
  induction schema using layers with
  | optional inner ih =>
      cases distinct with
      | optional distinct => exact ih distinct known
  | array | scalar | record => exact distinct

/-! ## Zero values -/

theorem zeroFields_eq_map (fields : List (String × Schema)) :
    zeroFields fields = fields.map fun field => (field.1, field.2.zero) := by
  induction fields with
  | nil => rfl
  | cons field rest ih => rw [zeroFields, ih, List.map_cons]

theorem accepts_zero (kind : ScalarKind) : kind.accepts kind.zero = true := by
  cases kind <;> decide +kernel

end Schema

namespace Fields

theorem insert_of_notMem {fields : Fields} {name : String} (new : name ∉ fields.map Prod.fst)
    (value : Value) : fields.insert name value = fields ++ [(name, value)] := by
  induction fields with
  | nil => rfl
  | cons field rest ih =>
      rcases field with ⟨key, old⟩
      simp only [List.map_cons, List.mem_cons, not_or] at new
      have other : (key == name) = false := by
        simpa using fun same : key = name => new.1 same.symm
      simp [insert, other, ih new.2]

/-- Writes of distinct names are the object that they leave. -/
theorem ofWrites_of_nodup {writes : List (String × Value)}
    (distinct : (writes.map Prod.fst).Nodup) :
    ofWrites writes = writes := by
  have behind (fields : Fields) (writes : List (String × Value))
      (distinct : ((fields ++ writes).map Prod.fst).Nodup) :
      writes.foldl (fun fields write => fields.insert write.1 write.2) fields =
        fields ++ writes := by
    induction writes generalizing fields with
    | nil => exact (List.append_nil fields).symm
    | cons write rest ih =>
        have new : write.1 ∉ fields.map Prod.fst := by
          rw [List.map_append, List.map_cons] at distinct
          exact fun old => (List.nodup_append.1 distinct).2.2 _ old _ List.mem_cons_self rfl
        rw [List.foldl_cons, insert_of_notMem new, ih _ (by simpa using distinct)]
        simp
  exact behind [] writes distinct

theorem mem_of_get? {fields : Fields} {name : String} {value : Value}
    (found : fields.get? name = some value) : (name, value) ∈ fields := by
  induction fields with
  | nil => cases found
  | cons field rest ih =>
      rcases field with ⟨key, old⟩
      rw [get?, List.lookup_cons] at found
      split at found
      · rename_i same
        cases found
        rw [beq_iff_eq.1 same]
        exact List.mem_cons_self
      · exact List.mem_cons_of_mem _ (ih found)

end Fields

namespace Schema

/-- In a list of fields with distinct names, a name has one schema. -/
theorem eq_of_mem_of_nodup {fields : List (String × Schema)} (names : (fields.map Prod.fst).Nodup)
    {name : String} {first second : Schema} (here : (name, first) ∈ fields)
    (there : (name, second) ∈ fields) : first = second := by
  have same := List.inj_on_of_nodup_map names here there rfl
  exact congrArg Prod.snd same

/-- The value that fills a field nothing was written to has the shape of the field. -/
theorem conforms_zero {schema : Schema} (distinct : schema.Distinct) :
    schema.Conforms schema.zero := by
  induction distinct with
  | scalar kind =>
      rw [zero]
      exact .scalar (accepts_zero kind)
  | optional distinct ih =>
      rw [zero]
      exact .null _
  | array distinct ih =>
      rw [zero]
      exact .array (by simp)
  | @record name fields names each ih =>
      have zeros : ((zeroFields fields).map Prod.fst).Nodup := by
        rw [zeroFields_eq_map, List.map_map]
        exact names
      rw [zero, Fields.ofWrites_of_nodup zeros, zeroFields_eq_map]
      apply Conforms.record
      intro field member value found
      rcases List.mem_map.1 (Fields.mem_of_get? found) with ⟨other, there, same⟩
      cases List.inj_on_of_nodup_map names member there (congrArg Prod.fst same).symm
      cases same
      exact ih field member

end Schema

/-! ## Fields of conforming records -/

namespace RecordType

/-- The accessors of fields have their names and schemas, in order. -/
theorem fields_accessorsFrom (index : Nat) (fields : List (String × Schema)) :
    (accessorsFrom index fields).map (fun field => (field.name, field.schema)) = fields := by
  induction fields generalizing index with
  | nil => rfl
  | cons field rest ih => exact congrArg (field :: ·) (ih (index + 1))

theorem names_accessorsFrom (index : Nat) (fields : List (String × Schema)) :
    (accessorsFrom index fields).map Accessor.name = fields.map Prod.fst := by
  conv_rhs => rw [← fields_accessorsFrom index fields, List.map_map]
  rfl

theorem mem_of_mem_accessorsFrom {index : Nat} {fields : List (String × Schema)} {field : Accessor}
    (member : field ∈ accessorsFrom index fields) : (field.name, field.schema) ∈ fields := by
  rw [← fields_accessorsFrom index fields]
  exact List.mem_map_of_mem member

theorem exists_accessor {index : Nat} {fields : List (String × Schema)} {field : String × Schema}
    (member : field ∈ fields) :
    ∃ accessor ∈ accessorsFrom index fields, (accessor.name, accessor.schema) = field := by
  rw [← fields_accessorsFrom index fields] at member
  exact List.mem_map.1 member

variable {type : RecordType} {name : String} {field : Accessor}

theorem mem_of_field? (found : type.field? name = some field) :
    (field.name, field.schema) ∈ type.fields :=
  mem_of_mem_accessorsFrom (List.mem_of_find?_eq_some found)

theorem mem_of_looseField? (found : type.looseField? name = some field) :
    (field.name, field.schema) ∈ type.fields := by
  rw [looseField?, Option.or_eq_some_iff] at found
  rcases found with exact_ | ⟨-, loose⟩
  · exact mem_of_field? exact_
  · exact mem_of_mem_accessorsFrom (List.mem_of_find?_eq_some loose)

end RecordType

namespace Accessor

variable {field : Accessor} {fields : List (String × Schema)} {name : String} {given : Fields}

/-- A declared field of a conforming object is absent, null, or a value of its schema. -/
theorem get_of_conforms (declared : (field.name, field.schema) ∈ fields)
    (conforms : (Schema.record name fields).Conforms (.object given)) :
    ∃ found, field.get (.object given) = .ok found ∧
      ∀ value, found = some value → value.isNull = false ∧ field.schema.Conforms value := by
  refine ⟨_, rfl, ?_⟩
  intro value here
  rcases Option.filter_eq_some_iff.1 here with ⟨found, present⟩
  cases conforms with
  | record each => exact ⟨by simpa using present, each _ declared value found⟩

/-- A write of a declared field keeps an object conforming. -/
theorem set_of_conforms (names : (fields.map Prod.fst).Nodup)
    (declared : (field.name, field.schema) ∈ fields)
    (conforms : (Schema.record name fields).Conforms (.object given)) {value : Value}
    (fits : field.schema.Conforms value) :
    ∃ after, field.set (.object given) value = .ok (.object after) ∧
      (Schema.record name fields).Conforms (.object after) := by
  refine ⟨_, rfl, ?_⟩
  cases conforms with
  | record each =>
      apply Schema.Conforms.record
      intro other member found written
      by_cases same : other.1 = field.name
      · rw [same, Fields.get?_insert_self, Option.some.injEq] at written
        have here : (field.name, other.2) ∈ fields := same ▸ member
        have one : other.2 = field.schema := Schema.eq_of_mem_of_nodup names here declared
        rw [one, ← written]
        exact fits
      · rw [Fields.get?_insert_of_ne given value same] at written
        exact each other member found written

end Accessor

end RecordQuery
