import RecordQuery.Proofs.Schema.Fitting
import RecordQuery.Schema.Conform

/-!
# Keys of objects

Writes leave an object without repeated keys, in which every key has what was last written under
it. So of the keys of an object that are loosely equal, the last one counts when the object is
conformed. Where no two keys are loosely equal, a key in any spelling leads to the one value that
is given for it.
-/

namespace RecordQuery

namespace Fields

variable {given fields : Fields} {writes : List (String × Value)} {name other : String}
  {value : Value}

/-! ## Writing and erasing -/

theorem get?_insert (fields : Fields) (name other : String) (value : Value) :
    (fields.insert name value).get? other =
      if other = name then some value else fields.get? other := by
  split
  · rename_i same
    rw [same, get?_insert_self]
  · rename_i different
    exact get?_insert_of_ne fields value different

/-- A name has what was last written under it. -/
theorem get?_ofWrites (writes : List (String × Value)) (name : String) :
    (ofWrites writes).get? name = writes.reverse.lookup name := by
  have behind (fields : Fields) (writes : List (String × Value)) :
      (writes.foldl (fun fields write => fields.insert write.1 write.2) fields).get? name =
        (writes.reverse.lookup name).or (fields.get? name) := by
    induction writes generalizing fields with
    | nil => rfl
    | cons write rest ih =>
        rw [List.foldl_cons, ih, get?_insert, List.reverse_cons, List.lookup_append,
          List.lookup_cons, List.lookup_nil, Option.or_assoc]
        by_cases same : name = write.1
        · simp [same]
        · have differ : (name == write.1) = false := by simpa using same
          simp [same, differ]
  rw [ofWrites, behind]
  exact Option.or_none

theorem nodup_names_insert (distinct : (fields.map Prod.fst).Nodup) (name : String)
    (value : Value) : ((fields.insert name value).map Prod.fst).Nodup := by
  rw [names_insert]
  split
  · exact distinct
  · rename_i new
    rw [List.nodup_append]
    refine ⟨distinct, List.nodup_singleton name, ?_⟩
    rintro given inside _ last rfl
    exact new (List.mem_singleton.1 last ▸ inside)

/-- No key is left twice. -/
theorem nodup_names_ofWrites (writes : List (String × Value)) :
    ((ofWrites writes).map Prod.fst).Nodup := by
  have behind (fields : Fields) (distinct : (fields.map Prod.fst).Nodup) :
      ((writes.foldl (fun fields write => fields.insert write.1 write.2) fields).map
        Prod.fst).Nodup := by
    induction writes generalizing fields with
    | nil => exact distinct
    | cons write rest ih => exact ih _ (nodup_names_insert distinct write.1 write.2)
  exact behind [] List.nodup_nil

theorem get?_eq_none_of_notMem (absent : name ∉ fields.map Prod.fst) :
    fields.get? name = none := by
  rw [get?, List.lookup_eq_none_iff]
  intro field inside
  simpa using fun same : name = field.1 => absent (same ▸ List.mem_map_of_mem inside)

theorem get?_erase_of_ne (fields : Fields) (different : other ≠ name) :
    (fields.erase name).get? other = fields.get? other := by
  induction fields with
  | nil => rfl
  | cons field rest ih =>
      obtain ⟨key, old⟩ := field
      rw [get?] at ih
      rw [erase]
      split
      · rename_i same
        have apart : (other == key) = false := by
          simpa [beq_iff_eq.1 same] using different
        rw [get?, get?, List.lookup_cons, apart]
      · rw [get?, get?, List.lookup_cons, List.lookup_cons, ih, get?]

theorem sublist_erase (fields : Fields) (name : String) : (fields.erase name).Sublist fields := by
  induction fields with
  | nil => exact .slnil
  | cons field rest ih =>
      rw [erase]
      split
      · exact List.sublist_cons_self field rest
      · exact ih.cons_cons field

theorem nodup_names_erase (distinct : (fields.map Prod.fst).Nodup) (name : String) :
    ((fields.erase name).map Prod.fst).Nodup :=
  distinct.sublist ((sublist_erase fields name).map Prod.fst)

/-- What is taken out of an object without repeated keys is gone. -/
theorem get?_erase_self (distinct : (fields.map Prod.fst).Nodup) (name : String) :
    (fields.erase name).get? name = none := by
  induction fields with
  | nil => rfl
  | cons field rest ih =>
      obtain ⟨key, old⟩ := field
      rw [List.map_cons, List.nodup_cons] at distinct
      rw [erase]
      split
      · rename_i same
        exact get?_eq_none_of_notMem (beq_iff_eq.1 same ▸ distinct.1)
      · rename_i different
        have apart : (name == key) = false := by
          simpa using fun same : name = key => different (beq_iff_eq.2 same.symm)
        have behind := ih distinct.2
        rw [get?] at behind
        rw [get?, List.lookup_cons, apart, behind]

/-! ## Loosely equal keys -/

/-- No two keys are loosely equal. -/
def LooselyDistinct (given : Fields) : Prop := (given.map (looseName ·.1)).Nodup

/-- The value under the key that is loosely equal to a name; of several such keys the last
counts. -/
def loose? (given : Fields) (name : String) : Option Value :=
  (given.reverse.find? (looseName ·.1 == looseName name)).map Prod.snd

/-- A name leads to the last key that is loosely equal to it. -/
theorem loose?_eq_some_iff : given.loose? name = some value ↔
    ∃ front key behind, given = front ++ (key, value) :: behind ∧
      looseName key = looseName name ∧ ∀ later ∈ behind, looseName later.1 ≠ looseName name := by
  simp only [loose?, Option.map_eq_some_iff, List.find?_eq_some_iff_append, beq_iff_eq]
  constructor
  · rintro ⟨⟨key, _⟩, ⟨loosely, behind, front, split, others⟩, rfl⟩
    refine ⟨front.reverse, key, behind.reverse, ?_, loosely, ?_⟩
    · rw [← List.reverse_reverse given, split]
      simp
    · intro later inside
      simpa using others later (List.mem_reverse.1 inside)
  · rintro ⟨front, key, behind, rfl, loosely, others⟩
    refine ⟨(key, value), ⟨loosely, behind.reverse, front.reverse, by simp, ?_⟩, rfl⟩
    intro later inside
    simpa using others later (List.mem_reverse.1 inside)

theorem loose?_eq_none_iff : given.loose? name = none ↔
    ∀ field ∈ given, looseName field.1 ≠ looseName name := by
  simp [loose?]

/-- Where no two keys are loosely equal, a name leads to any key that is. -/
theorem LooselyDistinct.loose?_eq_some_iff (distinct : given.LooselyDistinct) :
    given.loose? name = some value ↔
      ∃ key, (key, value) ∈ given ∧ looseName key = looseName name := by
  rw [Fields.loose?_eq_some_iff]
  constructor
  · rintro ⟨front, key, behind, rfl, loosely, -⟩
    exact ⟨key, List.mem_append_right front List.mem_cons_self, loosely⟩
  · rintro ⟨key, inside, loosely⟩
    rcases List.append_of_mem inside with ⟨front, behind, rfl⟩
    refine ⟨front, key, behind, rfl, loosely, fun later there same => ?_⟩
    rw [LooselyDistinct, List.map_append, List.map_cons, List.nodup_append, List.nodup_cons]
      at distinct
    exact distinct.2.1.1 (List.mem_map.2 ⟨later, there, same.trans loosely.symm⟩)

/-- A name leads to related values in two objects where the keys for it have such values. -/
theorem LooselyDistinct.rel_loose? {related : Value → Value → Prop} {others : Fields}
    {key own : String} {second : Value} (distinct : given.LooselyDistinct)
    (apart : others.LooselyDistinct) (here : (key, value) ∈ given) (there : (own, second) ∈ others)
    (loosely : looseName key = looseName name) (loosely' : looseName own = looseName name)
    (each : related value second) :
    Option.Rel related (given.loose? name) (others.loose? name) := by
  rw [distinct.loose?_eq_some_iff.2 ⟨key, here, loosely⟩,
    apart.loose?_eq_some_iff.2 ⟨own, there, loosely'⟩]
  exact .some each

/-- Under its loose name an object has the value of the last loosely equal key. -/
theorem get?_looseFields (given : Fields) (name : String) :
    (looseFields given).get? (looseName name) = given.loose? name := by
  rw [looseFields, get?_ofWrites, ← List.map_reverse, loose?]
  induction given.reverse with
  | nil => rfl
  | cons field rest ih =>
      rw [List.map_cons, List.lookup_cons, List.find?_cons, ih]
      by_cases same : looseName field.1 = looseName name
      · simp [same]
      · have one : (looseName field.1 == looseName name) = false := by simpa using same
        have other : (looseName name == looseName field.1) = false := by simpa using Ne.symm same
        simp only [one, other]

theorem nodup_names_looseFields (given : Fields) : ((looseFields given).map Prod.fst).Nodup :=
  nodup_names_ofWrites _

end Fields

/-- No object in the value has two keys that are loosely equal. -/
inductive Value.LooselyDistinct : Value → Prop where
  | null : LooselyDistinct .null
  | bool (value : Bool) : LooselyDistinct (.bool value)
  | number (value : Number) : LooselyDistinct (.number value)
  | string (value : String) : LooselyDistinct (.string value)
  | array {items : List Value} (each : ∀ item ∈ items, LooselyDistinct item) :
      LooselyDistinct (.array items)
  | object {given : Fields} (keys : given.LooselyDistinct)
      (each : ∀ field ∈ given, LooselyDistinct field.2) : LooselyDistinct (.object given)

end RecordQuery
