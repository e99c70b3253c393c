import RecordQuery.Proofs.Schema.Keys
import RecordQuery.Proofs.Schema.Respelling
import RecordQuery.Value.Text

/-!
# Normal forms of values

Conforming gives an object the fields of a record, in order, wherever the schema declares one, and
puts zero values where fields are missing or null stands for a value. A value is in normal form
where nothing of this is left to do: conforming leads there and changes nothing there. What a field
receives depends on the value under its name in any spelling and on nothing else. So the order of
the keys does not count, nor does their spelling, nor do keys that match no field.

One key gives its value to one field. So all of this holds where no two fields of a record have
loosely equal names.
-/

namespace RecordQuery

namespace Schema

/-- No record in the schema has two fields of loosely equal names. -/
inductive LooselyDistinct : Schema → Prop where
  | scalar (kind : ScalarKind) : LooselyDistinct (.scalar kind)
  | optional {inner : Schema} (distinct : LooselyDistinct inner) : LooselyDistinct (.optional inner)
  | array {element : Schema} (distinct : LooselyDistinct element) : LooselyDistinct (.array element)
  | record {name : String} {fields : List (String × Schema)}
      (names : (fields.map (looseName ·.1)).Nodup)
      (each : ∀ field ∈ fields, LooselyDistinct field.2) : LooselyDistinct (.record name fields)

variable {schema : Schema} {name : String} {fields : List (String × Schema)} {given others : Fields}
  {value other : Value}

/-- Names that are not loosely equal are not equal. -/
theorem nodup_of_looseNames {α : Type} {fields : List (String × α)}
    (names : (fields.map (looseName ·.1)).Nodup) : (fields.map Prod.fst).Nodup := by
  have loosely : ((fields.map Prod.fst).map looseName).Nodup := by rwa [List.map_map]
  exact loosely.of_map looseName

theorem LooselyDistinct.distinct (loosely : schema.LooselyDistinct) : schema.Distinct := by
  induction loosely with
  | scalar kind => exact .scalar kind
  | optional _ ih => exact .optional ih
  | array _ ih => exact .array ih
  | record names _ ih => exact .record (nodup_of_looseNames names) ih

/-! ## What fields receive -/

/-- What a field receives: the value that is given for it, in the shape of the field, or zero. -/
def receive (schema : Schema) : Option Value → Value
  | some value => schema.conform value
  | none => schema.zero

theorem conformFields_cons (name : String) (schema : Schema) (rest : List (String × Schema))
    (given : Fields) :
    conformFields ((name, schema) :: rest) given =
      (name, schema.receive (given.get? (looseName name))) ::
        conformFields rest (given.erase (looseName name)) := by
  rw [conformFields]
  cases given.get? (looseName name) <;> rfl

/-- No field takes the value of another where no two names are loosely equal. -/
theorem conformFields_eq_map (names : (fields.map (looseName ·.1)).Nodup) (given : Fields) :
    conformFields fields given =
      fields.map fun field => (field.1, field.2.receive (given.get? (looseName field.1))) := by
  induction fields generalizing given with
  | nil => rfl
  | cons field rest ih =>
      rw [List.map_cons, List.nodup_cons] at names
      rw [conformFields_cons, ih names.2, List.map_cons]
      refine congrArg (_ :: ·) (List.map_congr_left fun later inside => ?_)
      have apart : looseName later.1 ≠ looseName field.1 := fun same =>
        names.1 (List.mem_map.2 ⟨later, inside, same⟩)
      rw [Fields.get?_erase_of_ne given apart]

/-- An object in the shape of a record: each field has what is given under its name in any
spelling. -/
theorem conform_record (names : (fields.map (looseName ·.1)).Nodup) (given : Fields) :
    (Schema.record name fields).conform (.object given) =
      .object (fields.map fun field => (field.1, field.2.receive (given.loose? field.1))) := by
  rw [conform, conformFields_eq_map names]
  simp only [Fields.get?_looseFields]
  rw [Fields.ofWrites_of_nodup]
  rw [List.map_map]
  exact nodup_of_looseNames names

/-! ## Values in normal form -/

/-- A value in the normal form of a schema: no null stands where the schema is not optional, and an
object that stands where a record is declared has exactly the fields of that record, in order. -/
inductive Normal : Schema → Value → Prop where
  | scalar {kind : ScalarKind} {value : Value} (present : value.isNull = false) :
      Normal (.scalar kind) value
  | null (inner : Schema) : Normal (.optional inner) .null
  | optional {inner : Schema} {value : Value} (inside : Normal inner value) :
      Normal (.optional inner) value
  | array {element : Schema} {items : List Value} (each : ∀ item ∈ items, Normal element item) :
      Normal (.array element) (.array items)
  /-- What is no array stays in the place of one. -/
  | noArray {element : Schema} {value : Value} (present : value.isNull = false)
      (other : ∀ items, value ≠ .array items) : Normal (.array element) value
  | record {name : String} {fields : List (String × Schema)} {given : Fields}
      (names : given.map Prod.fst = fields.map Prod.fst)
      (each : ∀ field ∈ fields, ∀ value, (field.1, value) ∈ given → Normal field.2 value) :
      Normal (.record name fields) (.object given)
  /-- What is no object stays in the place of a record. -/
  | noRecord {name : String} {fields : List (String × Schema)} {value : Value}
      (present : value.isNull = false) (other : value.isObject = false) :
      Normal (.record name fields) value

theorem isNull_zero_scalar (kind : ScalarKind) : kind.zero.isNull = false := by
  cases kind <;> rfl

/-- A record whose fields have values in normal form is in normal form. -/
theorem normal_record (names : (fields.map Prod.fst).Nodup) {image : String × Schema → Value}
    (each : ∀ field ∈ fields, field.2.Normal (image field)) :
    (Schema.record name fields).Normal
      (.object (fields.map fun field => (field.1, image field))) := by
  apply Normal.record
  · rw [List.map_map]
    rfl
  · intro field member value inside
    rcases List.mem_map.1 inside with ⟨own, there, same⟩
    cases List.inj_on_of_nodup_map names member there (congrArg Prod.fst same).symm
    cases same
    exact each field member

theorem normal_zero (distinct : schema.Distinct) : schema.Normal schema.zero := by
  induction distinct with
  | scalar kind =>
      rw [zero]
      exact .scalar (isNull_zero_scalar kind)
  | optional _ ih =>
      rw [zero]
      exact .null _
  | array _ ih =>
      rw [zero]
      exact .array (by simp)
  | record names each ih =>
      rw [zero_record names]
      exact normal_record names ih

/-- Conforming leads to the normal form. -/
theorem normal_conform (distinct : schema.LooselyDistinct) (value : Value) :
    schema.Normal (schema.conform value) := by
  induction distinct generalizing value with
  | scalar kind =>
      cases value with
      | null => exact .scalar (isNull_zero_scalar kind)
      | _ => exact .scalar rfl
  | @optional inner _ ih =>
      rw [conform]
      split
      · exact .null inner
      · exact .optional (ih value)
  | array _ ih =>
      cases value with
      | null => exact .array (by simp)
      | array items =>
          rw [conform]
          apply Normal.array
          intro item inside
          rcases List.mem_map.1 inside with ⟨own, -, rfl⟩
          exact ih own
      | _ => exact .noArray rfl nofun
  | @record name fields names each ih =>
      cases value with
      | null => exact normal_zero (LooselyDistinct.record names each).distinct
      | object given =>
          rw [conform_record names]
          refine normal_record (nodup_of_looseNames names) fun field member => ?_
          cases Fields.loose? given field.1 with
          | none => exact normal_zero (each field member).distinct
          | some value => exact ih field member value
      | _ => exact .noRecord rfl rfl

/-- An object with the names of fields in order is what each of them has in it. -/
theorem map_eq_of_names {image : String × Schema → Value}
    (names : given.map Prod.fst = fields.map Prod.fst)
    (each : ∀ field ∈ fields, ∀ value, (field.1, value) ∈ given → image field = value) :
    fields.map (fun field => (field.1, image field)) = given := by
  induction fields generalizing given with
  | nil => exact (List.map_eq_nil_iff.1 names).symm
  | cons field rest ih =>
      rcases List.map_eq_cons_iff.1 names with ⟨⟨key, value⟩, behind, rfl, rfl, others⟩
      have here := each field List.mem_cons_self value List.mem_cons_self
      rw [List.map_cons, here, ih others]
      exact fun later inside value there =>
        each later (List.mem_cons_of_mem field inside) value (List.mem_cons_of_mem _ there)

theorem looselyDistinct_iff_of_names (names : given.map Prod.fst = fields.map Prod.fst) :
    Fields.LooselyDistinct given ↔ (fields.map (looseName ·.1)).Nodup := by
  have same := congrArg (List.map looseName) names
  rw [List.map_map, List.map_map] at same
  exact iff_of_eq (congrArg List.Nodup same)

/-- Conforming changes nothing in normal form. -/
theorem conform_of_normal (distinct : schema.LooselyDistinct) (normal : schema.Normal value) :
    schema.conform value = value := by
  induction normal with
  | scalar present =>
      cases ‹Value› with
      | null => cases present
      | _ => rfl
  | null inner =>
      rw [conform]
      rfl
  | optional _ ih =>
      cases distinct with
      | optional distinct =>
          rw [conform, ih distinct]
          split
          · rename_i none
            cases ‹Value› with
            | null => rfl
            | _ => cases none
          · rfl
  | array _ ih =>
      cases distinct with
      | array distinct =>
          rw [conform, List.map_congr_left fun item inside => ih item inside distinct, List.map_id']
  | noArray present other =>
      cases ‹Value› with
      | null => cases present
      | array items => exact absurd rfl (other items)
      | _ => rfl
  | noRecord present other =>
      cases ‹Value› with
      | null => cases present
      | object => cases other
      | _ => rfl
  | @record name fields given same _ ih =>
      cases distinct with
      | record loosely each =>
          rw [conform_record loosely]
          refine congrArg Value.object (map_eq_of_names same fun field member value inside => ?_)
          have given := ((looselyDistinct_iff_of_names same).2 loosely).loose?_eq_some_iff.2
            ⟨field.1, inside, rfl⟩
          rw [given]
          exact ih field member value inside (each field member)

/-! ## Objects with the same contents -/

mutual
/-- Values of a schema that differ only where it declares records, and there in nothing but the
order and the spelling of keys and in keys that match no field. No two keys of one of these objects
are loosely equal. -/
def Rekeyed : Schema → Value → Value → Prop
  | .optional inner, value, other => inner.Rekeyed value other
  | .array element, .array items, .array others => List.Forall₂ element.Rekeyed items others
  | .record _ fields, .object given, .object others =>
      Fields.LooselyDistinct given ∧ Fields.LooselyDistinct others ∧
        RekeyedFields fields given others
  | _, value, other => value = other

/-- Each field has its own key in both objects, with values that differ no more than this, or in
neither. -/
def RekeyedFields : List (String × Schema) → Fields → Fields → Prop
  | [], _, _ => True
  | (name, schema) :: rest, given, others =>
      Option.Rel schema.Rekeyed (given.loose? name) (others.loose? name) ∧
        RekeyedFields rest given others
end

theorem rel_of_rekeyedFields (rekeyed : RekeyedFields fields given others) {field : String × Schema}
    (member : field ∈ fields) :
    Option.Rel field.2.Rekeyed (given.loose? field.1) (others.loose? field.1) := by
  induction fields with
  | nil => cases member
  | cons first rest ih =>
      rw [RekeyedFields] at rekeyed
      rcases List.mem_cons.1 member with rfl | later
      · exact rekeyed.1
      · exact ih rekeyed.2 later

theorem Rekeyed.isNull_eq (rekeyed : schema.Rekeyed value other) :
    value.isNull = other.isNull := by
  induction schema using layers with
  | optional inner ih =>
      rw [Rekeyed] at rekeyed
      exact ih rekeyed
  | scalar kind => exact congrArg Value.isNull rekeyed
  | array element =>
      cases value with
      | array items =>
          cases other with
          | array others => rfl
          | _ => cases rekeyed
      | _ => exact congrArg Value.isNull rekeyed
  | record name fields =>
      cases value with
      | object given =>
          cases other with
          | object others => rfl
          | _ => cases rekeyed
      | _ => exact congrArg Value.isNull rekeyed

/-- The order and the spelling of keys do not count, nor do keys that match no field. -/
theorem conform_of_rekeyed (distinct : schema.LooselyDistinct)
    (rekeyed : schema.Rekeyed value other) : schema.conform value = schema.conform other := by
  induction distinct generalizing value other with
  | scalar kind => exact congrArg _ rekeyed
  | optional _ ih =>
      rw [Rekeyed] at rekeyed
      rw [conform, conform, rekeyed.isNull_eq, ih rekeyed]
  | @array element _ ih =>
      cases value with
      | array items =>
          cases other with
          | array others =>
              rw [Rekeyed] at rekeyed
              rw [conform, conform, Value.array.injEq]
              rw [← List.forall₂_eq_eq_eq, List.forall₂_map_left_iff, List.forall₂_map_right_iff]
              exact rekeyed.imp fun _ _ item => ih item
          | _ => cases rekeyed
      | _ => exact congrArg _ rekeyed
  | @record name fields names _ ih =>
      cases value with
      | object given =>
          cases other with
          | object others =>
              rw [Rekeyed] at rekeyed
              rw [conform_record names, conform_record names]
              refine congrArg Value.object (List.map_congr_left fun field member => ?_)
              have found := rel_of_rekeyedFields rekeyed.2.2 member
              generalize Fields.loose? given field.1 = first at found ⊢
              generalize Fields.loose? others field.1 = second at found ⊢
              cases found with
              | none => rfl
              | some here => rw [receive, receive, ih field member here]
          | _ => cases rekeyed
      | _ => exact congrArg _ rekeyed

end Schema

/-! ## Record types -/

namespace RecordType

variable {type : RecordType}

/-- Conforming to a record type no two of whose fields have loosely equal names, at any level. An
object gets exactly the fields of the type, in order, and so do the objects inside it that stand
where records are declared; a second time nothing changes, and nothing does for the zero value.
Objects that differ in the order and the spelling of keys and in keys that match no field, wherever
the type declares records, become the same. -/
theorem conform_normal (distinct : type.schema.LooselyDistinct) :
    (∀ given : Fields, ∃ entries, type.conform (.object given) = .object entries ∧
      entries.map Prod.fst = type.fields.map Prod.fst ∧
      type.schema.Normal (.object entries)) ∧
    (∀ value, type.conform (type.conform value) = type.conform value) ∧
    type.conform type.zero = type.zero ∧
    ∀ given others : Fields, type.schema.Rekeyed (.object given) (.object others) →
      type.conform (.object given) = type.conform (.object others) := by
  have normal (given : Fields) : ∃ entries, type.conform (.object given) = .object entries ∧
      entries.map Prod.fst = type.fields.map Prod.fst ∧
      type.schema.Normal (.object entries) := by
    have own : type.schema.Normal (type.conform (.object given)) :=
      Schema.normal_conform distinct (.object given)
    rw [conform] at own ⊢
    refine ⟨_, rfl, ?_, own⟩
    cases own with
    | record names each => exact names
    | noRecord _ other => cases other
  have again {given : Fields} (own : type.schema.Normal (.object given)) :
      type.conform (.object given) = .object given :=
    Schema.conform_of_normal distinct own
  refine ⟨normal, fun value => ?_, ?_, fun given others rekeyed => ?_⟩
  · cases value with
    | object given =>
        rcases normal given with ⟨entries, same, -, own⟩
        rw [same, again own]
    | _ => rfl
  · have own : type.schema.Normal type.zero := Schema.normal_zero distinct.distinct
    rw [zero, schema, Schema.zero] at own ⊢
    exact again own
  · exact Schema.conform_of_rekeyed distinct rekeyed

/-! ### Two spellings of one record -/

/-- Tenants with a name, who may have a flat in a town. -/
def tenant : RecordType :=
  ⟨"Tenant", [("Name", .scalar .string),
    ("Flat", .optional (.record "Flat" [("Town", .scalar .string), ("Door", .scalar .int)]))]⟩

def flat : Fields := [("DOOR", .number (.int .zero)), ("to_wn", .string "Ulm"), ("lift", .null)]

def flat' : Fields := [("Town", .string "Ulm"), ("Door", .number (.int .zero))]

def resident : Fields := [("flat", .object flat), ("na_me", .string "Ann")]

def resident' : Fields := [("Name", .string "Ann"), ("Age", .bool true), ("Flat", .object flat')]

theorem looselyDistinct_tenant : tenant.schema.LooselyDistinct := by
  refine .record (by decide +kernel) (List.forall_mem_cons.2 ⟨.scalar .string, ?_⟩)
  refine List.forall_mem_singleton.2 (.optional (.record (by decide +kernel) ?_))
  exact List.forall_mem_cons.2 ⟨.scalar .string, List.forall_mem_singleton.2 (.scalar .int)⟩

theorem rekeyed_resident : tenant.schema.Rekeyed (.object resident) (.object resident') := by
  have keys : Fields.LooselyDistinct resident ∧ Fields.LooselyDistinct resident' ∧
      Fields.LooselyDistinct flat ∧ Fields.LooselyDistinct flat' := by
    simp only [Fields.LooselyDistinct]
    decide +kernel
  obtain ⟨own, other, inner, inner'⟩ := keys
  refine ⟨own, other, ?_, ?_, trivial⟩
  · exact own.rel_loose? other (.tail _ (.head _)) (.head _) (by decide +kernel) rfl rfl
  · refine own.rel_loose? other (.head _) (.tail _ (.tail _ (.head _))) (by decide +kernel) rfl ?_
    refine ⟨inner, inner', ?_, ?_, trivial⟩
    · exact inner.rel_loose? inner' (.tail _ (.head _)) (.head _) (by decide +kernel) rfl rfl
    · exact inner.rel_loose? inner' (.head _) (.tail _ (.head _)) (by decide +kernel) rfl rfl

/-- The normal form does not depend on how the keys of a tenant are spelled and arranged. -/
theorem conform_normal_tenant :
    tenant.schema.LooselyDistinct ∧
      tenant.schema.Rekeyed (.object resident) (.object resident') ∧
      tenant.conform (.object resident) = tenant.conform (.object resident') :=
  ⟨looselyDistinct_tenant, rekeyed_resident,
    (conform_normal looselyDistinct_tenant).2.2.2 _ _ rekeyed_resident⟩

/-- Meters that show a whole number. -/
def meter : RecordType := ⟨"Meter", [("A", .scalar .int)]⟩

/-- A reading that holds an object with one key. -/
def reading (key : String) : Value := .object [("A", .object [(key, .null)])]

theorem looselyDistinct_reading (key : String) : (reading key).LooselyDistinct :=
  have single (key : String) (value : Value) : Fields.LooselyDistinct [(key, value)] :=
    List.nodup_singleton _
  .object (single _ _) (List.forall_mem_singleton.2
    (.object (single _ _) (List.forall_mem_singleton.2 .null)))

/-- An object in the place of a whole number is no record, so it keeps its keys as they are
spelled: values that differ in the spelling of keys only do not become the same. -/
theorem conform_keeps_stray_spelling :
    meter.schema.LooselyDistinct ∧ (reading "x").Respelled (reading "X") ∧
      (reading "x").LooselyDistinct ∧ (reading "X").LooselyDistinct ∧
      meter.conform (reading "x") ≠ meter.conform (reading "X") := by
  have inner : (Value.object [("x", .null)]).Respelled (.object [("X", .null)]) :=
    .object (by decide +kernel) (.cons (.same .null) .nil)
  have texts : (meter.conform (reading "x")).text ≠ (meter.conform (reading "X")).text := by
    decide +kernel
  refine ⟨?_, .object rfl (.cons inner .nil), looselyDistinct_reading "x",
    looselyDistinct_reading "X", fun same => texts (congrArg Value.text same)⟩
  exact .record (List.nodup_singleton _) (List.forall_mem_singleton.2 (.scalar .int))

end RecordType

end RecordQuery
