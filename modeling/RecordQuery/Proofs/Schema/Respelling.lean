import Mathlib.Data.List.Forall2
import RecordQuery.Proofs.Schema.Conforming
import RecordQuery.Schema.Conform

/-!
# Spellings of keys

Objects that are decoded may spell one key in several ways. Conforming two values that differ in
spelling only gives the same keys to both, wherever the schema declares a record. Where an object
stands in another place, nothing is declared about its keys, and it keeps them as they are spelled.
-/

namespace RecordQuery

/-! ## Objects side by side -/

namespace Fields

variable {related stronger : String → Value → Value → Prop} {given others : Fields}
  {name : String} {value other : Value}

/-- Two objects with the same keys in order, and related values under each of them. -/
def Paired (related : String → Value → Value → Prop) (given others : Fields) : Prop :=
  List.Forall₂ (fun field other => field.1 = other.1 ∧ related field.1 field.2 other.2) given others

namespace Paired

theorem mono (paired : Paired stronger given others)
    (weaker : ∀ {name value other}, stronger name value other → related name value other) :
    Paired related given others :=
  List.Forall₂.imp (fun _ _ each => ⟨each.1, weaker each.2⟩) paired

theorem insert (paired : Paired related given others) (here : related name value other) :
    Paired related (given.insert name value) (others.insert name other) := by
  induction paired with
  | nil => exact .cons ⟨rfl, here⟩ .nil
  | @cons first second rest behind each paired ih =>
      obtain ⟨key, old⟩ := first
      obtain ⟨own, second⟩ := second
      obtain ⟨same, inner⟩ := each
      cases same
      rw [Fields.insert, Fields.insert]
      split
      · rename_i found
        exact .cons ⟨rfl, beq_iff_eq.1 found ▸ here⟩ paired
      · exact .cons ⟨rfl, inner⟩ ih

theorem ofWrites {writes second : List (String × Value)} (paired : Paired related writes second) :
    Paired related (Fields.ofWrites writes) (Fields.ofWrites second) := by
  have onto {before after : Fields} (start : Paired related before after) :
      Paired related (writes.foldl (fun fields write => fields.insert write.1 write.2) before)
        (second.foldl (fun fields write => fields.insert write.1 write.2) after) := by
    induction paired generalizing before after with
    | nil => exact start
    | @cons write own _ _ each _ ih =>
        rw [List.foldl_cons, List.foldl_cons, ← each.1]
        exact ih (start.insert each.2)
  exact onto .nil

/-- A name is found in both objects or in neither. -/
theorem get? (paired : Paired related given others) (name : String) :
    Option.Rel (related name) (given.get? name) (others.get? name) := by
  induction paired with
  | nil => exact .none
  | @cons first second rest behind each paired ih =>
      rw [Fields.get?, Fields.get?, List.lookup_cons, List.lookup_cons, ← each.1]
      cases here : name == first.1 with
      | true => exact .some (beq_iff_eq.1 here ▸ each.2)
      | false => exact ih

theorem erase (paired : Paired related given others) (name : String) :
    Paired related (given.erase name) (others.erase name) := by
  induction paired with
  | nil => exact .nil
  | @cons first second rest behind each paired ih =>
      obtain ⟨key, old⟩ := first
      obtain ⟨own, second⟩ := second
      cases each.1
      rw [Fields.erase, Fields.erase]
      split
      · exact paired
      · exact .cons each ih

end Paired

end Fields

/-! ## Values in several spellings -/

namespace Value

/-- Values that differ in nothing but the spelling of the keys in their objects. -/
inductive Respelled : Value → Value → Prop where
  | same (value : Value) : Respelled value value
  | array {items others : List Value} (each : List.Forall₂ Respelled items others) :
      Respelled (.array items) (.array others)
  | object {given others : Fields}
      (keys : given.map (looseName ·.1) = others.map (looseName ·.1))
      (values : List.Forall₂ Respelled (given.map Prod.snd) (others.map Prod.snd)) :
      Respelled (.object given) (.object others)

/-- Values that are the same as far as comparisons look at them: two arrays, two objects, or one
scalar. -/
inductive Similar : Value → Value → Prop where
  | same (value : Value) : Similar value value
  | array (items others : List Value) : Similar (.array items) (.array others)
  | object (given others : Fields) : Similar (.object given) (.object others)

variable {value other : Value}

theorem respelled_all (items : List Value) : List.Forall₂ Respelled items items :=
  List.forall₂_same.2 fun item _ => .same item

namespace Respelled

theorem similar (respelled : value.Respelled other) : value.Similar other := by
  cases respelled with
  | same => exact .same value
  | array each => exact .array _ _
  | object keys values => exact .object _ _

theorem exists_items {items : List Value} (respelled : (Value.array items).Respelled other) :
    ∃ others, other = .array others ∧ List.Forall₂ Respelled items others := by
  cases respelled with
  | same => exact ⟨items, rfl, respelled_all items⟩
  | array each => exact ⟨_, rfl, each⟩

/-- Under their loose names the fields of objects stand side by side. -/
theorem exists_looseFields {given : Fields} (respelled : (Value.object given).Respelled other) :
    ∃ others, other = .object others ∧
      Fields.Paired (fun _ => Respelled) (looseFields given) (looseFields others) := by
  have loosely {given others : Fields}
      (keys : given.map (looseName ·.1) = others.map (looseName ·.1))
      (values : List.Forall₂ Respelled (given.map Prod.snd) (others.map Prod.snd)) :
      Fields.Paired (fun _ => Respelled) (looseFields given) (looseFields others) := by
    apply Fields.Paired.ofWrites
    induction given generalizing others with
    | nil =>
        cases others with
        | nil => exact .nil
        | cons => cases keys
    | cons field rest ih =>
        cases others with
        | nil => cases keys
        | cons other others =>
            rcases List.cons.inj keys with ⟨key, keys⟩
            rcases List.forall₂_cons.1 values with ⟨value, values⟩
            exact .cons ⟨key, value⟩ (ih keys values)
  cases respelled with
  | same => exact ⟨given, rfl, loosely rfl (respelled_all _)⟩
  | object keys values => exact ⟨_, rfl, loosely keys values⟩

end Respelled

namespace Similar

theorem isNull_eq (similar : value.Similar other) : value.isNull = other.isNull := by
  cases similar <;> rfl

theorem accepts_eq (similar : value.Similar other) (kind : ScalarKind) :
    kind.accepts value = kind.accepts other := by
  cases similar <;> cases kind <;> rfl

theorem compareValues_eq {right second : Value} (left : value.Similar other)
    (behind : right.Similar second) (kind : ScalarKind) :
    compareValues kind value right = compareValues kind other second := by
  cases left <;> cases behind <;> cases kind <;> first | rfl | (cases ‹Value› <;> rfl)

theorem contains_eq (similar : value.Similar other) (set : MemberSet) :
    set.contains value = set.contains other := by
  cases similar <;> cases set <;> rfl

end Similar

end Value

/-! ## Values of one schema -/

namespace Schema

mutual
/-- Values of a schema that differ in nothing but keys to which no record of the schema gives a
name. -/
def Alike : Schema → Value → Value → Prop
  | .optional inner, value, other => inner.Alike value other
  | .array element, .array items, .array others => List.Forall₂ element.Alike items others
  | .record _ fields, .object given, .object others => Fields.Paired (AlikeAt fields) given others
  | _, value, other => value.Respelled other

/-- Values that a record has under one of its names. -/
def AlikeAt : List (String × Schema) → String → Value → Value → Prop
  | [], _, _, _ => False
  | (name, schema) :: rest, key, value, other =>
      name = key ∧ schema.Alike value other ∨ AlikeAt rest key value other
end

variable {value other : Value}

theorem alike_null (schema : Schema) : schema.Alike .null .null := by
  induction schema using layers with
  | optional inner ih =>
      rw [Alike]
      exact ih
  | array | scalar | record =>
      rw [Alike]
      · exact .same .null
      all_goals simp

/-- Apart from optional layers, arrays of an array and objects of a record, values of a schema are
alike where they are the same but for the spelling of keys. -/
theorem Alike.respelled {schema : Schema} (alike : schema.Alike value other)
    (required : schema.isOptional = false)
    (noArray : ∀ element items, schema = .array element → value ≠ .array items)
    (noObject : ∀ name fields given, schema = .record name fields → value ≠ .object given) :
    value.Respelled other := by
  rw [Alike.eq_def] at alike
  split at alike
  · cases required
  · exact (noArray _ _ rfl rfl).elim
  · exact (noObject _ _ _ rfl rfl).elim
  · exact alike

theorem Alike.exists_items {element : Schema} {items : List Value}
    (alike : (Schema.array element).Alike (.array items) other) :
    ∃ others, other = .array others ∧ List.Forall₂ element.Alike items others := by
  cases other with
  | array others =>
      rw [Alike] at alike
      exact ⟨others, rfl, alike⟩
  | _ => cases alike

theorem Alike.exists_fields {name : String} {fields : List (String × Schema)} {given : Fields}
    (alike : (Schema.record name fields).Alike (.object given) other) :
    ∃ others, other = .object others ∧ Fields.Paired (AlikeAt fields) given others := by
  cases other with
  | object others =>
      rw [Alike] at alike
      exact ⟨others, rfl, alike⟩
  | _ => cases alike

theorem Alike.similar {schema : Schema} (alike : schema.Alike value other) :
    value.Similar other := by
  induction schema using layers with
  | optional inner ih =>
      rw [Alike] at alike
      exact ih alike
  | scalar kind => exact (alike.respelled rfl nofun nofun).similar
  | array element =>
      cases value with
      | array items =>
          rcases alike.exists_items with ⟨others, rfl, -⟩
          exact .array items others
      | _ => exact (alike.respelled rfl nofun nofun).similar
  | record name fields =>
      cases value with
      | object given =>
          rcases alike.exists_fields with ⟨others, rfl, -⟩
          exact .object given others
      | _ => exact (alike.respelled rfl nofun nofun).similar

theorem exists_alike_of_alikeAt {fields : List (String × Schema)} {name : String}
    (alike : AlikeAt fields name value other) :
    ∃ schema, (name, schema) ∈ fields ∧ schema.Alike value other := by
  induction fields with
  | nil => cases alike
  | cons field rest ih =>
      rw [AlikeAt] at alike
      rcases alike with ⟨rfl, here⟩ | later
      · exact ⟨field.2, List.mem_cons_self, here⟩
      · rcases ih later with ⟨schema, inside, there⟩
        exact ⟨schema, List.mem_cons_of_mem _ inside, there⟩

theorem similar_of_alikeAt {fields : List (String × Schema)} {name : String}
    (alike : AlikeAt fields name value other) : value.Similar other := by
  rcases exists_alike_of_alikeAt alike with ⟨schema, -, alike⟩
  exact alike.similar

mutual
theorem alike_zero (schema : Schema) : schema.Alike schema.zero schema.zero := by
  cases schema with
  | scalar kind =>
      rw [Alike]
      · exact .same _
      all_goals simp
  | optional inner =>
      rw [Alike, zero]
      exact inner.alike_null
  | array element =>
      rw [zero, Alike]
      exact .nil
  | record name fields =>
      rw [zero, Alike]
      exact (alike_zeroFields fields).ofWrites

theorem alike_zeroFields (fields : List (String × Schema)) :
    Fields.Paired (AlikeAt fields) (zeroFields fields) (zeroFields fields) := by
  cases fields with
  | nil => exact .nil
  | cons field rest =>
      obtain ⟨name, schema⟩ := field
      exact .cons ⟨rfl, .inl ⟨rfl, alike_zero schema⟩⟩ ((alike_zeroFields rest).mono .inr)
end

mutual
/-- Conforming makes values in two spellings alike. -/
theorem alike_conform (schema : Schema) {value other : Value}
    (respelled : value.Respelled other) :
    schema.Alike (schema.conform value) (schema.conform other) := by
  cases schema with
  | scalar kind =>
      rw [Alike]
      · cases respelled with
        | same => exact .same _
        | array each => exact .array each
        | object keys values => exact .object keys values
      all_goals simp
  | optional inner =>
      rw [conform, conform, respelled.similar.isNull_eq]
      split
      · exact alike_null _
      · rw [Alike]
        exact alike_conform inner respelled
  | array element =>
      cases value with
      | null =>
          cases respelled
          rw [conform, Alike]
          exact .nil
      | array items =>
          rcases respelled.exists_items with ⟨others, rfl, each⟩
          rw [conform, conform, Alike, List.forall₂_map_left_iff, List.forall₂_map_right_iff]
          exact each.imp fun _ _ item => alike_conform element item
      | object given =>
          cases respelled with
          | same => exact Value.Respelled.same _
          | object keys values => exact Value.Respelled.object keys values
      | bool | number | string =>
          cases respelled
          exact Value.Respelled.same _
  | record name fields =>
      cases value with
      | null =>
          cases respelled
          exact alike_zero _
      | object given =>
          rcases respelled.exists_looseFields with ⟨others, rfl, paired⟩
          rw [conform, conform, Alike]
          exact (alike_conformFields fields paired).ofWrites
      | array items =>
          cases respelled with
          | same => exact Value.Respelled.same _
          | array each => exact Value.Respelled.array each
      | bool | number | string =>
          cases respelled
          exact Value.Respelled.same _

theorem alike_conformFields (fields : List (String × Schema)) {given others : Fields}
    (paired : Fields.Paired (fun _ => Value.Respelled) given others) :
    Fields.Paired (AlikeAt fields) (conformFields fields given) (conformFields fields others) := by
  cases fields with
  | nil => exact .nil
  | cons field rest =>
      obtain ⟨name, schema⟩ := field
      have behind := alike_conformFields rest (paired.erase (looseName name))
      have here : schema.Alike
          (match given.get? (looseName name) with
            | some value => schema.conform value
            | none => schema.zero)
          (match others.get? (looseName name) with
            | some value => schema.conform value
            | none => schema.zero) := by
        have found := paired.get? (looseName name)
        generalize given.get? (looseName name) = first at found ⊢
        generalize others.get? (looseName name) = second at found ⊢
        cases found with
        | none => exact alike_zero schema
        | some respelled => exact alike_conform schema respelled
      exact .cons ⟨rfl, .inl ⟨rfl, here⟩⟩ (behind.mono .inr)
end

/-! ### Objects in their places -/

/-- Values without objects. -/
inductive Plain : Value → Prop where
  | null : Plain .null
  | bool (value : Bool) : Plain (.bool value)
  | number (value : Number) : Plain (.number value)
  | string (value : String) : Plain (.string value)
  | array {items : List Value} (each : ∀ item ∈ items, Plain item) : Plain (.array items)

/-- Values with objects only where the schema declares records. -/
inductive Placed : Schema → Value → Prop where
  | plain (schema : Schema) {value : Value} (plain : Plain value) : Placed schema value
  | optional {inner : Schema} {value : Value} (inside : Placed inner value) :
      Placed (.optional inner) value
  | array {element : Schema} {items : List Value} (each : ∀ item ∈ items, Placed element item) :
      Placed (.array element) (.array items)
  | record {name : String} {fields : List (String × Schema)} {given : Fields}
      (each : ∀ field ∈ given, ∀ schema, (field.1, schema) ∈ fields → Placed schema field.2) :
      Placed (.record name fields) (.object given)

theorem eq_of_forall₂ {α : Type} {related : α → α → Prop} {items others : List α}
    (pairs : List.Forall₂ related items others)
    (each : ∀ item ∈ items, ∀ other, related item other → item = other) : items = others := by
  induction pairs with
  | nil => rfl
  | cons here _ ih =>
      rw [each _ List.mem_cons_self _ here,
        ih fun item inside => each item (List.mem_cons_of_mem _ inside)]

theorem Plain.eq_of_respelled (plain : Plain value) (respelled : value.Respelled other) :
    value = other := by
  induction plain generalizing other with
  | array each ih =>
      rcases respelled.exists_items with ⟨others, rfl, pairs⟩
      rw [eq_of_forall₂ pairs fun item inside other => ih item inside]
  | null | bool | number | string =>
      cases respelled
      rfl

theorem Plain.eq_of_alike {schema : Schema} (plain : Plain value)
    (alike : schema.Alike value other) : value = other := by
  induction schema using layers generalizing value other with
  | optional inner ih =>
      rw [Alike] at alike
      exact ih plain alike
  | scalar kind => exact plain.eq_of_respelled (alike.respelled rfl nofun nofun)
  | array element ih =>
      cases value with
      | array items =>
          cases plain with
          | array each =>
              rcases alike.exists_items with ⟨others, rfl, pairs⟩
              rw [eq_of_forall₂ pairs fun item inside other => ih (each item inside)]
      | _ => exact plain.eq_of_respelled (alike.respelled rfl nofun nofun)
  | record name fields =>
      refine plain.eq_of_respelled (alike.respelled rfl nofun ?_)
      rintro _ _ given - rfl
      cases plain

/-- Values that are alike are the same where no object stands out of place. -/
theorem Placed.eq_of_alike {schema : Schema} (placed : schema.Placed value)
    (alike : schema.Alike value other) : value = other := by
  induction placed generalizing other with
  | plain schema plain => exact plain.eq_of_alike alike
  | optional inside ih =>
      rw [Alike] at alike
      exact ih alike
  | array each ih =>
      rcases alike.exists_items with ⟨others, rfl, pairs⟩
      rw [eq_of_forall₂ pairs fun item inside other => ih item inside]
  | @record name fields given each ih =>
      rcases alike.exists_fields with ⟨others, rfl, pairs⟩
      refine congrArg Value.object (eq_of_forall₂ pairs fun field inside other here => ?_)
      rcases exists_alike_of_alikeAt here.2 with ⟨schema, declared, alike⟩
      exact Prod.ext here.1 (ih field inside schema declared alike)

end Schema

/-! ## Fields of one record type -/

/-- A field is there in both of two objects side by side, with related values, or in neither. -/
theorem Accessor.get_of_paired {related : String → Value → Value → Prop} {given others : Fields}
    (paired : Fields.Paired related given others)
    (similar : ∀ {name value other}, related name value other → value.Similar other)
    (field : Accessor) :
    ∃ first second,
      field.get (.object given) = .ok first ∧ field.get (.object others) = .ok second ∧
      Option.Rel (related field.name) first second := by
  refine ⟨_, _, rfl, rfl, ?_⟩
  have found := paired.get? field.name
  generalize Fields.get? given field.name = first at found ⊢
  generalize Fields.get? others field.name = second at found ⊢
  cases found with
  | none => exact .none
  | @some value other each =>
      rw [Option.filter_some, Option.filter_some, (similar each).isNull_eq]
      split
      · exact .some each
      · exact .none

namespace RecordType

variable {type : RecordType} {name other : String}

/-- No two fields have loosely equal names. -/
def LooselyDistinct (type : RecordType) : Prop := (type.fields.map (looseName ·.1)).Nodup

/-- Where no two names are loosely equal, an exact match does not come before a loose one. -/
theorem LooselyDistinct.looseField?_eq (distinct : type.LooselyDistinct) (name : String) :
    type.looseField? name = type.accessors.find? (looseName ·.name == looseName name) := by
  rw [looseField?]
  cases found : type.field? name with
  | none => rfl
  | some field =>
      have named : field.name = name := by simpa using List.find?_some found
      have loosely : (looseName field.name == looseName name) = true := by
        rw [named, beq_self_eq_true]
      have inside : field ∈ type.accessors := List.mem_of_find?_eq_some found
      have names : (type.accessors.map (looseName ·.name)).Nodup := by
        have same := congrArg (List.map looseName) (names_accessorsFrom 0 type.fields)
        rw [List.map_map, List.map_map] at same
        exact same ▸ distinct
      cases first : type.accessors.find? (looseName ·.name == looseName name) with
      | none => exact absurd loosely (List.find?_eq_none.1 first field inside)
      | some other =>
          have alike : looseName other.name = looseName name := by
            simpa using List.find?_some first
          have same := List.inj_on_of_nodup_map names (List.mem_of_find?_eq_some first) inside
            (alike.trans (by rw [named]))
          rw [same, Option.some_or]

/-- A field is found by its name in any spelling. -/
theorem LooselyDistinct.looseField?_congr (distinct : type.LooselyDistinct)
    (same : looseName name = looseName other) : type.looseField? name = type.looseField? other := by
  rw [distinct.looseField?_eq, distinct.looseField?_eq, same]

/-- The fields of an object in two spellings, once they have the names of the type. -/
theorem exists_paired_of_respelled {value second : Value} (type : RecordType)
    (object : value.isObject = true) (respelled : value.Respelled second) :
    ∃ given others, type.conform value = .object given ∧ type.conform second = .object others ∧
      Fields.Paired (Schema.AlikeAt type.fields) given others := by
  cases value with
  | object raw =>
      rcases respelled.exists_looseFields with ⟨others, rfl, paired⟩
      exact ⟨_, _, rfl, rfl, (Schema.alike_conformFields type.fields paired).ofWrites⟩
  | _ => cases object

end RecordType

end RecordQuery
