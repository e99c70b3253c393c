import RecordQuery.Proofs.Projection.Copying
import RecordQuery.Projection

/-!
# Compiled projections

Compiling a column list settles every copy between declared fields of two record types,
the second of which may be made up on the way. The compiled projection turns conforming
records into conforming rows without a fault, however many of them share a row.
-/

namespace RecordQuery

namespace RecordType

variable {type : RecordType} {name : String} {schema : Schema}

theorem notMem_of_field?_eq_none (missing : type.field? name = none) :
    name ∉ type.fields.map Prod.fst := by
  rw [← names_accessorsFrom 0]
  intro member
  rcases List.mem_map.1 member with ⟨field, inside, same⟩
  have other := List.find?_eq_none.1 missing field inside
  exact other (by simp [same])

/-- A new field keeps the fields distinct. -/
theorem distinct_push (distinct : type.schema.Distinct) (new : type.field? name = none)
    (inner : schema.Distinct) : (type.push name schema).schema.Distinct := by
  cases distinct with
  | record names each =>
      constructor
      · rw [push, List.map_append]
        refine List.nodup_append.2 ⟨names, List.nodup_singleton _, ?_⟩
        intro old member other here same
        cases List.mem_singleton.1 here
        subst same
        exact notMem_of_field?_eq_none new member
      · intro field member
        rcases List.mem_append.1 member with old | here
        · exact each field old
        · cases List.mem_singleton.1 here
          exact inner

end RecordType

namespace Projection

variable {source : RecordType} {dest : Option RecordType} {row last : RecordType}

/-- The destination of a column is a declared field. The row type made up so far may have
got it as its last field. -/
theorem destination_eq_ok {name : String} {schema : Schema} {target : Accessor}
    (found : destination dest row name schema = .ok (target, last)) (inner : schema.Distinct) :
    row.fields <+: last.fields ∧ (row.schema.Distinct → last.schema.Distinct) ∧
      (target.name, target.schema) ∈ (dest.getD last).fields := by
  rw [destination.eq_def] at found
  split at found
  · split at found
    · rename_i known
      cases found
      exact ⟨List.prefix_rfl, id, RecordType.mem_of_field? known⟩
    · cases found
  · split at found
    · cases found
    · rename_i new
      cases found
      refine ⟨List.prefix_append _ _, fun distinct => ?_, ?_⟩
      · exact RecordType.distinct_push distinct (by simpa using new) inner
      · exact List.mem_append_right _ List.mem_cons_self

/-- Each column of a list becomes a copy between declared fields. -/
theorem copies_eq_ok {columns : List Sql.Column} {made : List ColumnCopy}
    (distinct : source.schema.Distinct)
    (found : copies source dest row columns = .ok (made, last)) :
    row.fields <+: last.fields ∧ (row.schema.Distinct → last.schema.Distinct) ∧
      ∀ copy ∈ made, copy.Joins source (dest.getD last) := by
  induction columns generalizing row made with
  | nil =>
      cases found
      exact ⟨List.prefix_rfl, id, by simp⟩
  | cons column rest ih =>
      rcases Outcome.bind_eq_ok.1 found with ⟨wanted, -, found⟩
      split at found
      · cases found
      · rename_i field known
        rcases Outcome.bind_eq_ok.1 found with ⟨⟨target, middle⟩, placed, found⟩
        rcases Outcome.bind_eq_ok.1 found with ⟨copy, joined, found⟩
        rcases Outcome.bind_eq_ok.1 found with ⟨⟨others, end_⟩, behind, same⟩
        cases same
        have declared := RecordType.mem_of_field? known
        have inner :
            (if wanted.aggregate then Schema.array field.schema else field.schema).Distinct := by
          cases distinct with
          | record _ each =>
              split
              · exact .array (each _ declared)
              · exact each _ declared
        rcases destination_eq_ok placed inner with ⟨longer, kept, into⟩
        rcases ih behind with ⟨further, still, each⟩
        refine ⟨longer.trans further, still ∘ kept, ?_⟩
        intro other member
        rcases List.mem_cons.1 member with rfl | later
        · refine ColumnCopy.joins_of_make declared ?_ joined
          cases dest with
          | none => exact further.subset into
          | some dest => exact into
        · exact each other later

theorem copiesByName_eq_ok {into : RecordType} {targets : List Accessor} {made : List ColumnCopy}
    (declared : ∀ target ∈ targets, (target.name, target.schema) ∈ into.fields)
    (found : copiesByName source targets = .ok made) : ∀ copy ∈ made, copy.Joins source into := by
  induction targets generalizing made with
  | nil =>
      cases found
      simp
  | cons target rest ih =>
      rw [copiesByName] at found
      split at found
      · cases found
      · rename_i field known
        rcases Outcome.bind_eq_ok.1 found with ⟨copy, joined, found⟩
        rcases Outcome.bind_eq_ok.1 found with ⟨others, behind, same⟩
        cases same
        intro other member
        rcases List.mem_cons.1 member with rfl | later
        · exact ColumnCopy.joins_of_make (RecordType.mem_of_field? known)
            (declared target List.mem_cons_self) joined
        · exact ih (fun target inside => declared target (List.mem_cons_of_mem _ inside)) behind
            other later

/-- Copies from one record type into the rows of another. -/
structure Copies (source into : RecordType) (projection : Projection) : Prop where
  copying : projection.verbatim = false
  columns : ∀ copy ∈ projection.columns, copy.Joins source into
  schema : projection.schema = into.schema
  template : projection.template = into.zero
  distinct : into.schema.Distinct

/-- A compiled projection takes values as they are, or copies between distinct fields of
records. -/
theorem compile_eq_ok {values : Schema} {columns : List Sql.Column} {projection : Projection}
    (compiled : compile values columns dest = .ok projection) (distinct : values.Distinct)
    (distinctDest : ∀ type, dest = some type → type.schema.Distinct) :
    projection.verbatim = true ∨
      ∃ source into, values.record? = some source ∧ projection.Copies source into := by
  rw [compile] at compiled
  split at compiled
  · split at compiled
    · cases compiled
    · rw [ofStar.eq_def] at compiled
      split at compiled
      · cases compiled
        exact .inl rfl
      · rename_i into
        split at compiled
        · cases compiled
        · rename_i source known
          rcases Outcome.bind_eq_ok.1 compiled with ⟨made, found, same⟩
          cases same
          refine .inr ⟨source, into, known, rfl, ?_, rfl, rfl, distinctDest into rfl⟩
          exact copiesByName_eq_ok (fun target => RecordType.mem_of_mem_accessorsFrom) found
  · split at compiled
    · cases compiled
    · rename_i source known
      rcases Outcome.bind_eq_ok.1 compiled with ⟨⟨made, row⟩, found, same⟩
      cases same
      have sourceDistinct : source.schema.Distinct := distinct.record? known
      rcases copies_eq_ok sourceDistinct found with ⟨-, kept, each⟩
      refine .inr ⟨source, dest.getD row, known, rfl, each, rfl, rfl, ?_⟩
      cases dest with
      | none => exact kept (.record List.nodup_nil (by simp))
      | some type => exact distinctDest type rfl

/-! ## Rows of a compiled projection -/

/-- A row that further leaves may be projected into. -/
def Holds (projection : Projection) (row : Value) : Prop :=
  projection.verbatim = true ∨ ∃ fields, row = .object fields ∧ projection.schema.Conforms row

/-- Copies one after the other keep a row conforming. -/
theorem copyAll_of_joins {into : RecordType} {columns : List ColumnCopy}
    (joins : ∀ copy ∈ columns, copy.Joins source into) (distinct : into.schema.Distinct)
    {leaf given : Fields} (record : source.schema.Conforms (.object leaf))
    (conforms : into.schema.Conforms (.object given)) :
    ∃ after, copyAll (.object leaf) (.object given) columns = (.object after, .ok ()) ∧
      into.schema.Conforms (.object after) := by
  induction columns generalizing given with
  | nil => exact ⟨given, rfl, conforms⟩
  | cons copy rest ih =>
      obtain ⟨next, copied, kept⟩ :=
        ColumnCopy.apply_of_joins (joins copy List.mem_cons_self) distinct record conforms
      rw [copyAll, copied]
      exact ih (fun other member => joins other (List.mem_cons_of_mem _ member)) kept

/-- The template of a compiled projection is a row to start from. -/
theorem holds_template {values : Schema} {columns : List Sql.Column} {projection : Projection}
    (compiled : compile values columns dest = .ok projection) (distinct : values.Distinct)
    (distinctDest : ∀ type, dest = some type → type.schema.Distinct) :
    projection.Holds projection.template := by
  rcases compile_eq_ok compiled distinct distinctDest with verbatim | ⟨source, into, -, copies⟩
  · exact .inl verbatim
  · have zero := Schema.conforms_zero copies.distinct
    refine .inr ?_
    rw [copies.template, copies.schema]
    obtain ⟨given, same⟩ := zero.fields (by rw [RecordType.schema, Schema.zero]; rfl)
    exact ⟨given, same, zero⟩

/-- Projecting a conforming leaf into a row never fails and gives such a row again. -/
theorem apply_of_holds {values : Schema} {columns : List Sql.Column} {projection : Projection}
    (compiled : compile values columns dest = .ok projection) (distinct : values.Distinct)
    (distinctDest : ∀ type, dest = some type → type.schema.Distinct) {leaf row : Value}
    (present : leaf.isNull = false) (conforms : values.Conforms leaf)
    (holds : projection.Holds row) :
    ∃ after, projection.apply leaf row = (after, .ok ()) ∧ projection.Holds after := by
  rcases compile_eq_ok compiled distinct distinctDest with verbatim | ⟨source, into, known, copies⟩
  · refine ⟨leaf, ?_, .inl verbatim⟩
    rw [apply, verbatim]
    rfl
  · rcases holds with verbatim | ⟨given, rfl, fits⟩
    · rw [copies.copying] at verbatim
      cases verbatim
    · have record : source.schema.Conforms leaf := conforms.record? known
      rcases record.fields present with ⟨fields, rfl⟩
      rw [copies.schema] at fits
      rcases copyAll_of_joins copies.columns copies.distinct record fits with ⟨after, copied, kept⟩
      refine ⟨.object after, ?_, .inr ⟨after, rfl, copies.schema ▸ kept⟩⟩
      rw [apply, copies.copying]
      exact copied

end Projection

end RecordQuery
