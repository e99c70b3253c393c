import Mathlib.Data.List.Nodup
import Mathlib.Data.List.Perm.Basic
import RecordQuery.Table.TypeRegistry

/-!
# What registries know

A registry gives each of its names one type. Registering replaces the type of a name, and merging
leaves the types of known names alone. A name leads to a type for certain where the answer does not
depend on the order in which the types are kept: where the type has exactly this name, or is the
only one whose name differs from it in case.
-/

namespace RecordQuery.TypeRegistry

variable {registry other : TypeRegistry} {name own table : String} {type found : RecordType}

/-- The names of the types that a registry knows. -/
def names (registry : TypeRegistry) : List String := registry.entries.map Prod.fst

/-- No name has two types. -/
def Distinct (registry : TypeRegistry) : Prop := registry.names.Nodup

theorem mem_names : name ∈ registry.names ↔ ∃ type, (name, type) ∈ registry.entries := by
  simp [names]

theorem get?_eq_none_iff : registry.get? name = none ↔ name ∉ registry.names := by
  rw [get?, List.lookup_eq_none_iff, names, List.mem_map]
  constructor
  · rintro none ⟨entry, member, rfl⟩
    simpa using none entry member
  · intro absent entry member
    simpa using fun same : name = entry.1 => absent ⟨entry, member, same.symm⟩

theorem isSome_get?_iff : (registry.get? name).isSome = true ↔ name ∈ registry.names := by
  rw [← not_iff_not, ← get?_eq_none_iff, Option.not_isSome_iff_eq_none]

/-- Where no name has two types, a name has the type that stands beside it. -/
theorem Distinct.get?_eq_some_iff (distinct : registry.Distinct) :
    registry.get? name = some type ↔ (name, type) ∈ registry.entries := by
  rw [get?, List.lookup_eq_some_iff]
  constructor
  · rintro ⟨front, behind, split, -⟩
    rw [split]
    exact List.mem_append_right front List.mem_cons_self
  · intro member
    rcases List.append_of_mem member with ⟨front, behind, split⟩
    refine ⟨front, behind, split, fun entry inside => ?_⟩
    rw [Distinct, names, split, List.map_append, List.nodup_append] at distinct
    simpa using fun same : name = entry.1 =>
      distinct.2.2 _ (List.mem_map_of_mem inside) _ List.mem_cons_self same.symm

/-! ## Registering -/

theorem names_register : (registry.register name type).names =
    if name ∈ registry.names then registry.names else registry.names ++ [name] := by
  rw [register]
  by_cases known : name ∈ registry.names
  · rw [if_pos (isSome_get?_iff.2 known), if_pos known, names, names, List.map_map]
    refine List.map_congr_left fun entry _ => ?_
    by_cases same : entry.1 = name <;> simp [same]
  · rw [if_neg (mt isSome_get?_iff.1 known), if_neg known, names, names, List.map_append]
    rfl

theorem Distinct.register (distinct : registry.Distinct) (name : String) (type : RecordType) :
    (registry.register name type).Distinct := by
  rw [Distinct, names_register]
  split
  · exact distinct
  · rename_i unknown
    exact List.nodup_append.2 ⟨distinct, List.nodup_singleton name, by
      rintro given inside _ last rfl
      exact unknown (List.mem_singleton.1 last ▸ inside)⟩

/-- Entries in which one name has another type. -/
theorem lookup_replaced (entries : List (String × RecordType)) (given : String) :
    (entries.map fun entry => if entry.1 == name then (name, type) else entry).lookup given =
      if given = name then (entries.lookup given).map fun _ => type else entries.lookup given := by
  induction entries with
  | nil => simp
  | cons entry rest ih =>
      rw [List.map_cons, List.lookup_cons, List.lookup_cons, ih]
      by_cases here : entry.1 = name
      · by_cases same : given = name
        · simp [here, same]
        · have other : (given == name) = false := by simpa using same
          simp [here, same, other]
      · by_cases same : given = name
        · have other : (name == entry.1) = false := by simpa using Ne.symm here
          simp [here, same, other]
        · simp [here, same]

/-- Registering gives a name its type, in place of any other. -/
theorem get?_register {given : String} : (registry.register name type).get? given =
    if given = name then some type else registry.get? given := by
  rw [TypeRegistry.register]
  by_cases same : given = name
  · subst same
    rw [if_pos rfl]
    split
    · rename_i known
      rcases Option.isSome_iff_exists.1 known with ⟨old, found⟩
      rw [get?] at found ⊢
      rw [lookup_replaced, if_pos rfl, found]
      rfl
    · rename_i unknown
      have none := Option.not_isSome_iff_eq_none.1 unknown
      rw [get?] at none ⊢
      rw [List.lookup_append, none, Option.none_or, List.lookup_cons, beq_self_eq_true]
  · rw [if_neg same]
    split
    · rw [get?, lookup_replaced, if_neg same]
      rfl
    · have other : (given == name) = false := by simpa using same
      rw [get?, List.lookup_append, List.lookup_cons, other]
      exact Option.or_none

/-! ## Merging -/

/-- Known names keep their types, and the others have those of the other registry. -/
theorem get?_merge : (registry.merge other).get? name =
    (registry.get? name).or (other.get? name) := by
  rw [merge, get?, List.lookup_append]
  change (registry.get? name).or _ = _
  cases known : registry.get? name with
  | some type => rfl
  | none =>
      rw [Option.none_or, Option.none_or, get?]
      induction other.entries with
      | nil => rfl
      | cons entry rest ih =>
          by_cases same : name = entry.1
          · rw [List.filter_cons_of_pos (by rw [← same, known]; rfl), List.lookup_cons,
              List.lookup_cons, ih]
          · have differ : (name == entry.1) = false := by simpa using same
            rw [List.lookup_cons, differ, ← ih, List.filter_cons]
            split
            · rw [List.lookup_cons, differ]
            · rfl

theorem names_merge : (registry.merge other).names =
    registry.names ++ other.names.filter fun given => (registry.get? given).isNone := by
  rw [names, merge, List.map_append, names, names, List.filter_map]
  rfl

theorem Distinct.merge (distinct : registry.Distinct) (others : other.Distinct) :
    (registry.merge other).Distinct := by
  rw [Distinct, names_merge]
  refine List.nodup_append.2 ⟨distinct, others.filter _, ?_⟩
  rintro given known _ added rfl
  exact get?_eq_none_iff.1 (Option.isNone_iff_eq_none.1 (List.mem_filter.1 added).2) known

/-! ## Names that lead to a type for certain -/

/-- A table is of a type, in whatever order the types are kept. -/
def Resolves (registry : TypeRegistry) (table : String) (type : RecordType) : Prop :=
  ∀ entries : List (String × RecordType), entries.Perm registry.entries →
    lookup? ⟨entries⟩ table = some type

variable {entries : List (String × RecordType)}

theorem Distinct.get?_perm (distinct : registry.Distinct) (same : entries.Perm registry.entries) :
    get? ⟨entries⟩ name = registry.get? name := by
  have distinct' : Distinct ⟨entries⟩ := (same.map Prod.fst).nodup_iff.2 distinct
  refine Option.ext fun type => ?_
  rw [distinct'.get?_eq_some_iff, distinct.get?_eq_some_iff, same.mem_iff]

/-- A table of exactly the name of a type is of this type and no other. -/
theorem Distinct.resolves_iff (distinct : registry.Distinct)
    (known : registry.get? table = some found) :
    registry.Resolves table type ↔ type = found := by
  have same {entries : List (String × RecordType)} (perm : entries.Perm registry.entries) :
      lookup? ⟨entries⟩ table = some found := by
    rw [lookup?, distinct.get?_perm perm, known, Option.some_or]
  constructor
  · intro resolves
    exact Option.some.inj ((resolves _ (.refl _)).symm.trans (same (.refl _)))
  · rintro rfl entries perm
    exact same perm

/-- A table is of the only type whose name is that of the table when the case of letters is
ignored. -/
theorem Distinct.resolves_of_only (distinct : registry.Distinct)
    (known : registry.get? own = some type) (letters : Text.sameLetters own table = true)
    (only : ∀ given ∈ registry.names, Text.sameLetters given table = true → given = own) :
    registry.Resolves table type := by
  intro entries perm
  rw [lookup?, distinct.get?_perm perm]
  cases exact : registry.get? table with
  | some found =>
      have own' : table = own := only table (isSome_get?_iff.1 (by rw [exact]; rfl)) (by
        simp [Text.sameLetters])
      rw [own', known] at exact
      exact exact.symm
  | none =>
      rw [Option.none_or]
      have member : (own, type) ∈ entries :=
        perm.mem_iff.2 (distinct.get?_eq_some_iff.1 known)
      cases first : entries.find? fun entry => Text.sameLetters entry.1 table with
      | none => exact absurd letters (List.find?_eq_none.1 first _ member)
      | some entry =>
          have inside := perm.mem_iff.1 (List.mem_of_find?_eq_some first)
          have alike := List.find?_some first
          have same := only entry.1 (mem_names.2 ⟨entry.2, inside⟩) alike
          have type' := distinct.get?_eq_some_iff.2 inside
          rw [same, known] at type'
          exact type'.symm

end RecordQuery.TypeRegistry
