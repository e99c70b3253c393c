import RecordQuery.Proofs.Outcome
import RecordQuery.Proofs.Schema.Fitting
import RecordQuery.Projection.ColumnCopy

/-!
# Copying between conforming records

A strategy is found only where the values of the source field can be stored in the
destination field. So a copy from a record of fitting values into such a row never fails. It
leaves the row as it is, or makes one write of a fitting value. In particular a conforming
row stays conforming.
-/

namespace RecordQuery

/-! ## Strategies -/

namespace Strategy

/-- What each strategy says about the two schemas. -/
inductive Suits (source dest : Schema) : Strategy → Prop where
  | sameScalar (same : source = dest) : Suits source dest .sameScalar
  | sameValue (same : source = dest) : Suits source dest .sameValue
  | convert {widen : Bool} (fit : fit? source dest = some widen) :
      Suits source dest (.convert widen)
  | collect {widen : Bool} {element : Schema} (target : dest.required = .array element)
      (fit : fit? source element = some widen) : Suits source dest (.collect widen)

theorem suits_of_resolve {source dest : Schema} {aggregate : Bool} {strategy : Strategy}
    (found : resolve source dest aggregate = .ok strategy) : strategy.Suits source dest := by
  rw [resolve] at found
  split at found
  · split at found
    · rename_i target
      split at found
      · rename_i fit
        cases found
        exact .collect target fit
      · cases found
    · cases found
  · split at found
    · rename_i same
      cases found
      split
      · exact .sameScalar same
      · exact .sameValue same
    · split at found
      · rename_i fit
        cases found
        exact .convert fit
      · cases found

/-- A fit without widening joins schemas that are the same under their optional layers;
one with widening leads from integers to doubles. -/
theorem fit?_eq_some {source dest : Schema} {widen : Bool} (fit : fit? source dest = some widen) :
    (widen = false ∧ source.required = dest.required) ∨
      (widen = true ∧ source.required = .scalar .int ∧ dest.required = .scalar .float) := by
  rw [fit?] at fit
  split at fit
  · rename_i same
    cases fit
    exact .inl ⟨rfl, same⟩
  · split at fit
    · rename_i wide narrow
      cases fit
      exact .inr ⟨rfl, wide, narrow⟩
    · cases fit

end Strategy

/-! ## One copy -/

/-- Each declared field of an object is absent, null, or a fitting value. -/
def RecordType.Offers (fits : Schema → Value → Prop) (type : RecordType) (given : Fields) : Prop :=
  ∀ field ∈ type.fields, ∀ value, given.get? field.1 = some value → value.isNull = false →
    fits field.2 value

theorem RecordType.offers_of_conforms {type : RecordType} {given : Fields}
    (conforms : type.schema.Conforms (.object given)) : type.Offers Schema.Conforms given := by
  cases conforms with
  | record each => exact fun field member value found _ => each field member value found

/-- Of two writes of one field the second counts. -/
theorem Fields.insert_insert (fields : Fields) (name : String) (first second : Value) :
    (fields.insert name first).insert name second = fields.insert name second := by
  induction fields with
  | nil => simp [insert]
  | cons field rest ih =>
      by_cases same : field.1 = name
      · simp [insert, same]
      · simp [insert, same, ih]

namespace ColumnCopy

/-- A copy from a declared field of one record type into a declared field of another, with
a strategy for their schemas. -/
structure Joins (source dest : RecordType) (copy : ColumnCopy) : Prop where
  source : (copy.source.name, copy.source.schema) ∈ source.fields
  dest : (copy.dest.name, copy.dest.schema) ∈ dest.fields
  strategy : copy.strategy.Suits copy.source.schema copy.dest.schema

variable {source dest : RecordType} {copy : ColumnCopy} {value : Value} {target : Schema}

theorem joins_of_make {field into : Accessor} {aggregate : Bool}
    (declared : (field.name, field.schema) ∈ source.fields)
    (declaredInto : (into.name, into.schema) ∈ dest.fields)
    (made : make field into aggregate = .ok copy) : copy.Joins source dest := by
  rcases Outcome.bind_eq_ok.1 made with ⟨strategy, resolved, same⟩
  cases same
  exact ⟨declared, declaredInto, Strategy.suits_of_resolve resolved⟩

section Fitting

variable {fits : Schema → Value → Prop} (fitting : Schema.Fitting fits)

include fitting

/-- A fitting value passes the check. -/
theorem checked_of_fits (fit : fits copy.source.schema value) (present : value.isNull = false) :
    copy.checked value = .ok value := by
  rw [checked]
  split
  · rename_i kind known
    have scalar : copy.source.schema.required = .scalar kind := by
      rw [Schema.kind?] at known
      split at known
      · cases known
        assumption
      · cases known
    have own := (fitting.required present).2 fit
    rw [scalar, fitting.scalar present] at own
    rw [if_pos own]
  · rfl

/-- A fitting value can be stored wherever its schema fits. -/
theorem convert_of_fits {widen : Bool}
    (suits : Strategy.fit? copy.source.schema target = some widen)
    (fit : fits copy.source.schema value) (present : value.isNull = false) :
    ∃ stored, copy.convert widen value = .ok stored ∧ stored.isNull = false ∧
      fits target stored := by
  have own := (fitting.required present).2 fit
  rcases Strategy.fit?_eq_some suits with ⟨rfl, same⟩ | ⟨rfl, whole, double⟩
  · refine ⟨value, checked_of_fits fitting fit present, present, ?_⟩
    exact (fitting.required present).1 (same ▸ own)
  · rw [whole, fitting.scalar present] at own
    cases value with
    | number n =>
        refine ⟨.number (.float n.toDouble), rfl, rfl, (fitting.required rfl).1 ?_⟩
        rw [double, fitting.scalar rfl]
        rfl
    | _ => cases own

variable {leaf given : Fields}

/-- One more item in an array that is there, or in the first one in its place, is a write of the
longer array. -/
theorem append_of_offers {element : Schema}
    (declared : (copy.dest.name, copy.dest.schema) ∈ dest.fields)
    (array : copy.dest.schema.required = .array element) (row : dest.Offers fits given)
    (fit : fits element value) :
    ∃ items, fits copy.dest.schema (.array items) ∧
      copy.append (.object given) value =
        .ok (.object (Fields.insert given copy.dest.name (.array items))) := by
  have whole (items : List Value) (each : ∀ item ∈ items, fits element item) :
      fits copy.dest.schema (.array items) := by
    rw [← fitting.required rfl, array]
    exact (fitting.array rfl).2 ⟨items, rfl, each⟩
  have alone := whole [value] (by simpa using fit)
  rw [append, Accessor.reach]
  cases found : Fields.get? given copy.dest.name with
  | none =>
      refine ⟨[value], alone, ?_⟩
      simp only [Outcome.ok_bind, Accessor.set, Fields.insert_insert]
  | some slot =>
      cases present : slot.isNull with
      | true =>
          cases slot with
          | null => exact ⟨[value], alone, rfl⟩
          | _ => cases present
      | false =>
          have held := (fitting.required present).2 (row _ declared slot found present)
          rw [array] at held
          rcases (fitting.array present).1 held with ⟨items, rfl, each⟩
          refine ⟨items ++ [value], whole _ ?_, rfl⟩
          intro item member
          rcases List.mem_append.1 member with old | new
          · exact each item old
          · cases List.mem_singleton.1 new
            exact fit

/-- What a copy collects where the source has nothing is an item like any other. -/
theorem missing_of_fits {element : Schema} (array : copy.dest.schema.required = .array element)
    (distinct : element.Distinct) : fits element copy.missing := by
  rw [missing, array]
  exact fitting.zero distinct

/-- A copy between records of fitting values does nothing, or makes one write of a fitting value
that is not null. -/
theorem apply_of_offers (joins : copy.Joins source dest) (nested : copy.dest.schema.Distinct)
    (record : source.Offers fits leaf) (row : dest.Offers fits given) :
    copy.apply (.object leaf) (.object given) = .ok (.object given) ∨
      ∃ stored, stored.isNull = false ∧ fits copy.dest.schema stored ∧
        copy.apply (.object leaf) (.object given) =
          .ok (.object (Fields.insert given copy.dest.name stored)) := by
  have collected {element : Schema} {item : Value}
      (array : copy.dest.schema.required = .array element) (fit : fits element item) :
      ∃ stored, stored.isNull = false ∧ fits copy.dest.schema stored ∧
        copy.append (.object given) item =
          .ok (.object (Fields.insert given copy.dest.name stored)) := by
    rcases append_of_offers fitting joins.dest array row fit with ⟨items, whole, appended⟩
    exact ⟨.array items, rfl, whole, appended⟩
  have suits := joins.strategy
  rw [apply, Accessor.get, Outcome.ok_bind]
  generalize copy.strategy = strategy at suits
  cases read : (Fields.get? leaf copy.source.name).filter (!·.isNull) with
  | none =>
      cases suits with
      | collect array fit =>
          exact .inr (collected array (missing_of_fits fitting array (nested.element array)))
      | _ => exact .inl rfl
  | some value =>
      rcases Option.filter_eq_some_iff.1 read with ⟨found, present⟩
      have present : value.isNull = false := by simpa using present
      have fit := record _ joins.source value found present
      refine .inr ?_
      cases suits with
      | sameScalar same =>
          refine ⟨value, present, same ▸ fit, ?_⟩
          simp only [checked_of_fits fitting fit present, Outcome.ok_bind]
          rfl
      | sameValue same => exact ⟨value, present, same ▸ fit, rfl⟩
      | convert suits =>
          rcases convert_of_fits fitting suits fit present with ⟨stored, converted, there, good⟩
          refine ⟨stored, there, good, ?_⟩
          simp only [converted, Outcome.ok_bind]
          rfl
      | collect array suits =>
          rcases convert_of_fits fitting suits fit present with ⟨stored, converted, -, good⟩
          simp only [converted, Outcome.ok_bind]
          exact collected array good

end Fitting

/-- A copy between conforming records succeeds, and the row still conforms. -/
theorem apply_of_joins (joins : copy.Joins source dest) (distinct : dest.schema.Distinct)
    {leaf given : Fields} (record : source.schema.Conforms (.object leaf))
    (row : dest.schema.Conforms (.object given)) :
    ∃ after, copy.apply (.object leaf) (.object given) = .ok (.object after) ∧
      dest.schema.Conforms (.object after) := by
  cases distinct with
  | record names each =>
      rcases apply_of_offers Schema.fitting_conforms joins (each _ joins.dest)
          (RecordType.offers_of_conforms record) (RecordType.offers_of_conforms row)
        with same | ⟨stored, -, fit, written⟩
      · exact ⟨given, same, row⟩
      · rcases Accessor.set_of_conforms names joins.dest row fit with ⟨after, same, kept⟩
        exact ⟨after, written.trans same, kept⟩

end ColumnCopy

end RecordQuery
