import RecordQuery.Proofs.Outcome
import RecordQuery.Proofs.Schema.NormalForm
import RecordQuery.Table.TypeDefinition

/-!
# Types of samples

A record type can be inferred from a sample of its records. Inference looks at the first item of an
array only, so a sample has the inferred type where all items of each of its arrays would give the
same schema. It is then a record of that type as it stands: it has the fields of the type, in order,
with values of their schemas, and conforming changes nothing in it.
-/

namespace RecordQuery

/-- A value under a name in which the items of every array give the same schema. -/
inductive Value.Uniform : String → Value → Prop where
  | null (name : String) : Uniform name .null
  | bool (name : String) (value : Bool) : Uniform name (.bool value)
  | number (name : String) (value : Number) : Uniform name (.number value)
  | string (name : String) (value : String) : Uniform name (.string value)
  | array {name : String} {items : List Value} {element : Schema}
      (each : ∀ item ∈ items, Uniform name item)
      (same : ∀ item ∈ items, Schema.ofSample name item = .ok element) : Uniform name (.array items)
  | object (name : String) {given : Fields} (each : ∀ field ∈ given, Uniform field.1 field.2) :
      Uniform name (.object given)

namespace Schema

variable {name : String} {value : Value} {schema : Schema} {given : Fields}
  {shapes : List (String × Schema)}

/-- The fields of a sample give the fields of its type, in order. -/
theorem forall₂_of_ofSampleFields (found : ofSampleFields given = .ok shapes) :
    List.Forall₂ (fun field shape => shape.1 = field.1 ∧ ofSample field.1 field.2 = .ok shape.2)
      given shapes := by
  induction given generalizing shapes with
  | nil =>
      cases found
      exact .nil
  | cons field rest ih =>
      obtain ⟨name, value⟩ := field
      rw [ofSampleFields] at found
      rcases Outcome.bind_eq_ok.1 found with ⟨schema, here, found⟩
      rcases Outcome.bind_eq_ok.1 found with ⟨others, later, same⟩
      cases same
      exact .cons ⟨rfl, here⟩ (ih later)

theorem names_of_forall₂ {related : String × Value → String × Schema → Prop}
    (pairs : List.Forall₂ related given shapes)
    (named : ∀ field shape, related field shape → shape.1 = field.1) :
    given.map Prod.fst = shapes.map Prod.fst := by
  induction pairs with
  | nil => rfl
  | cons here _ ih => rw [List.map_cons, List.map_cons, ih, named _ _ here]

/-- What is inferred from a sample holds of it. -/
structure Samples (schema : Schema) (value : Value) : Prop where
  distinct : schema.LooselyDistinct
  normal : schema.Normal value
  conforms : schema.Conforms value

/-- A scalar is a sample of its kind. -/
theorem samples_scalar {kind : ScalarKind} (accepted : kind.accepts value = true) :
    (Schema.scalar kind).Samples value where
  distinct := .scalar kind
  normal := by
    refine .scalar ?_
    cases value with
    | null => cases kind <;> cases accepted
    | _ => rfl
  conforms := .scalar accepted

theorem samples_array {element : Schema} {items : List Value} (some : items ≠ [])
    (each : ∀ item ∈ items, element.Samples item) :
    (Schema.array element).Samples (.array items) where
  distinct := by
    rcases List.exists_mem_of_ne_nil items some with ⟨item, inside⟩
    exact .array (each item inside).distinct
  normal := .array fun item inside => (each item inside).normal
  conforms := .array fun item inside => (each item inside).conforms

/-- An object whose fields are samples is a sample of a record. -/
theorem samples_record (keys : given.LooselyDistinct)
    (pairs : List.Forall₂ (fun field shape => shape.1 = field.1 ∧ shape.2.Samples field.2)
      given shapes) : (Schema.record name shapes).Samples (.object given) := by
  have names := names_of_forall₂ pairs fun _ _ each => each.1
  have loosely := (looselyDistinct_iff_of_names names).1 keys
  have apart : (given.map Prod.fst).Nodup := by
    rw [names]
    exact nodup_of_looseNames loosely
  have held {shape : String × Schema} (member : shape ∈ shapes) {value : Value}
      (inside : (shape.1, value) ∈ given) : shape.2.Samples value := by
    rcases Outcome.exists_item_of_mem pairs member with ⟨field, there, named, samples⟩
    have same : value = field.2 :=
      congrArg Prod.snd (List.inj_on_of_nodup_map apart inside there named)
    rw [same]
    exact samples
  refine ⟨.record loosely fun shape member => ?_, .record names fun shape member value inside => ?_,
    .record fun shape member value found => ?_⟩
  · rcases Outcome.exists_item_of_mem pairs member with ⟨field, -, -, samples⟩
    exact samples.distinct
  · exact (held member inside).normal
  · exact (held member (Fields.mem_of_get? found)).conforms

/-- A value is of the schema that is inferred from it. -/
theorem samples_of_ofSample (uniform : Value.Uniform name value) (distinct : value.LooselyDistinct)
    (found : ofSample name value = .ok schema) : schema.Samples value := by
  induction uniform generalizing schema with
  | null name => cases found
  | bool name value =>
      cases found
      exact samples_scalar rfl
  | number name value =>
      cases value <;> cases found <;> exact samples_scalar rfl
  | string name value =>
      cases found
      cases text : Instant.isText value with
      | true => exact samples_scalar text
      | false => exact samples_scalar rfl
  | @array name items element each same ih =>
      cases items with
      | nil => cases found
      | cons first rest =>
          -- The first item gives the element schema, and all items would give the same.
          rw [ofSample, same first List.mem_cons_self] at found
          cases found
          cases distinct with
          | array apart =>
              refine samples_array (List.cons_ne_nil first rest) fun item inside => ?_
              exact ih item inside (apart item inside) (same item inside)
  | @object name given each ih =>
      rw [ofSample] at found
      rcases Outcome.bind_eq_ok.1 found with ⟨shapes, listed, made⟩
      cases made
      cases distinct with
      | object keys apart =>
          have pairs := (List.forall₂_and_left given shapes).2
            ⟨fun _ inside => inside, forall₂_of_ofSampleFields listed⟩
          refine samples_record keys (pairs.imp fun field shape pair => ?_)
          obtain ⟨inside, named, inferred⟩ := pair
          exact ⟨named, ih field inside (apart field inside) inferred⟩

end Schema

/-- An object from which a record type is inferred: no two keys of one object in it are loosely
equal, and the items of each array give the same schema. -/
structure RecordType.SampledBy (type : RecordType) (given : Fields) : Prop where
  distinct : (Value.object given).LooselyDistinct
  uniform : Value.Uniform type.name (.object given)
  inferred : ofSample type.name (.object given) = .ok type

namespace RecordType

variable {type : RecordType} {given : Fields}

/-- An object is a record of the type that is inferred from it. -/
theorem SampledBy.samples (sampled : type.SampledBy given) :
    type.schema.Samples (.object given) := by
  have inferred : Schema.ofSample type.name (.object given) = .ok type.schema := by
    rcases Outcome.bind_eq_ok.1 sampled.inferred with ⟨shapes, listed, made⟩
    rw [Schema.ofSample, listed, ← Except.ok.inj made]
    rfl
  exact Schema.samples_of_ofSample sampled.uniform sampled.distinct inferred

/-- An object has the fields of the type that is inferred from it, in order. -/
theorem SampledBy.names (sampled : type.SampledBy given) :
    given.map Prod.fst = type.fields.map Prod.fst := by
  rcases Outcome.bind_eq_ok.1 sampled.inferred with ⟨shapes, listed, made⟩
  rw [← Except.ok.inj made]
  exact Schema.names_of_forall₂ (Schema.forall₂_of_ofSampleFields listed) fun _ _ each => each.1

end RecordType

end RecordQuery
