import RecordQuery.Proofs.Projection.Compiled
import RecordQuery.Proofs.Route.Rows

/-!
# Rows that collect

A column list without a destination makes up its own row type, so every column copies values as
they are. A collecting column adds one item for each leaf, be there a value or not; any other shows
the last value that was there. The main lemma says what the row holds after any number of leaves.
-/

namespace RecordQuery

open Sql (Column)

namespace Accessor

/-- What a leaf has in a field; none where it is absent or null. -/
def present (field : Accessor) (leaf : Value) : Option Value := (field.get leaf).toOption.join

/-- What a column shows of leaves. A collecting one has an item for each of them, zero where the
field has no value. Any other has the last value that is there, or zero. -/
def shown (field : Accessor) (collects : Bool) (leaves : List Value) : Value :=
  if collects then .array (leaves.map fun leaf => (field.present leaf).getD field.schema.zero)
  else (leaves.filterMap field.present).getLast?.getD field.schema.zero

variable {field : Accessor} {leaves : List Value} {leaf : Value}

theorem shown_nil (field : Accessor) (collects : Bool) :
    field.shown collects [] =
      (if collects then Schema.array field.schema else field.schema).zero := by
  cases collects <;> rfl

theorem shown_snoc_collecting :
    field.shown true (leaves ++ [leaf]) =
      .array ((leaves.map fun leaf => (field.present leaf).getD field.schema.zero) ++
        [(field.present leaf).getD field.schema.zero]) := by
  rw [shown, if_pos rfl, List.map_append]
  rfl

/-- One more leaf is shown in place of those before it if it has a value. -/
theorem shown_snoc_separate :
    field.shown false (leaves ++ [leaf]) =
      (field.present leaf).getD (field.shown false leaves) := by
  simp only [shown, Bool.false_eq_true, if_false, List.filterMap_append]
  cases known : field.present leaf with
  | none => simp [known]
  | some value => simp [known]

end Accessor

namespace Fields

/-- A write of the value that is there changes nothing. -/
theorem insert_of_get? {fields : Fields} {name : String} {value : Value}
    (here : fields.get? name = some value) : fields.insert name value = fields := by
  induction fields with
  | nil => cases here
  | cons field rest ih =>
      rw [get?, List.lookup_cons] at here
      rw [insert]
      by_cases same : name = field.1
      · subst same
        rw [beq_self_eq_true] at here
        cases here
        rw [if_pos (beq_self_eq_true _)]
      · rw [beq_eq_false_iff_ne.2 same] at here
        rw [if_neg (by simpa using Ne.symm same), ih here]

/-- Behind fields of other names, a field is found and written in its place. -/
theorem get?_append_of_notMem {before after : Fields} {name : String}
    (new : name ∉ before.map Prod.fst) : get? (before ++ after) name = get? after name := by
  induction before with
  | nil => rfl
  | cons field rest ih =>
      rw [List.map_cons, List.mem_cons, not_or] at new
      rw [List.cons_append, get?, List.lookup_cons, beq_eq_false_iff_ne.2 new.1]
      exact ih new.2

theorem insert_append_of_notMem {before after : Fields} {name : String}
    (new : name ∉ before.map Prod.fst) (value : Value) :
    insert (before ++ after) name value = before ++ insert after name value := by
  induction before with
  | nil => rfl
  | cons field rest ih =>
      rw [List.map_cons, List.mem_cons, not_or] at new
      rw [List.cons_append, insert, if_neg (by simpa using Ne.symm new.1), ih new.2]
      rfl

end Fields

/-! ## Copies into a row type of their own -/

/-- What a column list shows for one of its columns: the source field of the column, under its
label or else its own name. -/
def Projection.Shows (source : RecordType) (leaves : List Value) (column : Column)
    (entry : String × Value) : Prop :=
  ∃ wanted field, ColumnSource.ofColumn column = .ok wanted ∧
    source.field? wanted.field = some field ∧
    entry = (wanted.label.getD field.name, field.shown wanted.aggregate leaves)

namespace ColumnCopy

/-- A copy of a field into one of the same schema, or into an array of it where it collects. -/
structure Keeps (collects : Bool) (copy : ColumnCopy) : Prop where
  schema : copy.dest.schema =
    if collects then .array copy.source.schema else copy.source.schema
  strategy : if collects then copy.strategy = .collect false
    else copy.strategy = .sameScalar ∨ copy.strategy = .sameValue

/-- The copy that a column without a destination becomes. -/
def OfColumn (source : RecordType) (column : Column) (copy : ColumnCopy) : Prop :=
  ∃ wanted, ColumnSource.ofColumn column = .ok wanted ∧
    source.field? wanted.field = some copy.source ∧
    copy.dest.name = wanted.label.getD copy.source.name ∧ copy.Keeps wanted.aggregate

/-- What the row holds for a copy behind some leaves. -/
def entry (leaves : List Value) (copy : ColumnCopy) : String × Value :=
  (copy.dest.name, copy.source.shown copy.isAggregate leaves)

variable {copy : ColumnCopy} {collects : Bool} {leaves : List Value} {leaf after : Value}
  {given : Fields}

theorem Keeps.isAggregate (keeps : copy.Keeps collects) : copy.isAggregate = collects := by
  have strategy := keeps.strategy
  cases collects with
  | true =>
      rw [ColumnCopy.isAggregate, show copy.strategy = .collect false from strategy]
  | false =>
      rcases strategy with same | same <;> rw [ColumnCopy.isAggregate, same]

theorem eq_of_checked {value stored : Value} (checked : copy.checked value = .ok stored) :
    stored = value := by
  rw [ColumnCopy.checked] at checked
  split at checked
  · split at checked
    · exact (Except.ok.inj checked).symm
    · cases checked
  · exact (Except.ok.inj checked).symm

/-- One more item behind those that are there. -/
theorem append_eq {items : List Value} (here : given.get? copy.dest.name = some (.array items))
    (item : Value) : copy.append (.object given) item =
      .ok (.object (given.insert copy.dest.name (.array (items ++ [item])))) := by
  rw [append, Accessor.reach, here]
  rfl

/-- A copy of one more leaf writes what the column shows with it. -/
theorem apply_eq_ok (keeps : copy.Keeps collects)
    (here : given.get? copy.dest.name = some (copy.source.shown collects leaves))
    (copied : copy.apply leaf (.object given) = .ok after) :
    after =
      .object (given.insert copy.dest.name (copy.source.shown collects (leaves ++ [leaf]))) := by
  rcases keeps with ⟨schema, strategy⟩
  rcases Outcome.bind_eq_ok.1 copied with ⟨found, read, copied⟩
  have there : copy.source.present leaf = found := by
    rw [Accessor.present, read]
    rfl
  cases collects with
  | true =>
      have strategy : copy.strategy = .collect false := strategy
      have missing : copy.missing = copy.source.schema.zero := by
        rw [ColumnCopy.missing, schema]
        rfl
      rw [strategy] at copied
      rw [Accessor.shown_snoc_collecting, there]
      cases found with
      | none =>
          dsimp only at copied
          rw [append_eq here, missing] at copied
          exact (Except.ok.inj copied).symm
      | some value =>
          rcases Outcome.bind_eq_ok.1 copied with ⟨stored, checked, copied⟩
          cases eq_of_checked checked
          rw [append_eq here] at copied
          exact (Except.ok.inj copied).symm
  | false =>
      rw [Accessor.shown_snoc_separate, there]
      cases found with
      | none =>
          have same : after = .object given := by
            rcases strategy with same | same <;> rw [same] at copied <;>
              exact (Except.ok.inj copied).symm
          rw [same, Option.getD_none, Fields.insert_of_get? here]
      | some value =>
          rcases strategy with same | same <;> rw [same] at copied
          · rcases Outcome.bind_eq_ok.1 copied with ⟨stored, checked, copied⟩
            cases eq_of_checked checked
            exact (Except.ok.inj copied).symm
          · exact (Except.ok.inj copied).symm

/-- Behind no leaves a row holds zeros. -/
theorem entry_nil (keeps : copy.Keeps collects) :
    copy.entry [] = (copy.dest.name, copy.dest.schema.zero) := by
  rw [entry, keeps.isAggregate, Accessor.shown_nil, keeps.schema]

theorem OfColumn.keeps {source : RecordType} {column : Column} (made : copy.OfColumn source column) :
    copy.Keeps copy.isAggregate := by
  rcases made with ⟨wanted, -, -, -, keeps⟩
  rw [keeps.isAggregate]
  exact keeps

theorem OfColumn.shows {source : RecordType} {column : Column} (made : copy.OfColumn source column)
    (leaves : List Value) : Projection.Shows source leaves column (copy.entry leaves) := by
  rcases made with ⟨wanted, ofColumn, known, name, keeps⟩
  refine ⟨wanted, copy.source, ofColumn, known, ?_⟩
  rw [entry, name, keeps.isAggregate]

end ColumnCopy

/-! ## Leaves one after the other -/

namespace Projection

section Rows

variable {columns : List ColumnCopy} {leaves : List Value} {leaf row : Value}

/-- Copying one more leaf turns the row of some leaves into the row with this one. -/
theorem copyAll_eq_ok {done : Fields}
    (distinct : (done.map Prod.fst ++ columns.map (·.dest.name)).Nodup)
    (keeps : ∀ copy ∈ columns, copy.Keeps copy.isAggregate)
    (copied : copyAll leaf (.object (done ++ columns.map (ColumnCopy.entry leaves))) columns =
      (row, .ok ())) :
    row = .object (done ++ columns.map (ColumnCopy.entry (leaves ++ [leaf]))) := by
  induction columns generalizing done with
  | nil => exact (congrArg Prod.fst copied).symm
  | cons copy rest ih =>
      have new : copy.dest.name ∉ done.map Prod.fst := fun old =>
        (List.nodup_append.1 distinct).2.2 _ old _ List.mem_cons_self rfl
      have here : Fields.get? (done ++ (copy :: rest).map (ColumnCopy.entry leaves))
          copy.dest.name = some (copy.source.shown copy.isAggregate leaves) := by
        rw [Fields.get?_append_of_notMem new, List.map_cons, Fields.get?, ColumnCopy.entry,
          List.lookup_cons, beq_self_eq_true]
      rw [copyAll] at copied
      split at copied
      · rename_i next applied
        have written := ColumnCopy.apply_eq_ok (keeps copy List.mem_cons_self) here applied
        rw [Fields.insert_append_of_notMem new, List.map_cons, ColumnCopy.entry, Fields.insert,
          if_pos (beq_self_eq_true _)] at written
        rw [written, List.append_cons] at copied
        rw [List.map_cons, List.append_cons]
        refine ih ?_ (fun other member => keeps other (List.mem_cons_of_mem _ member)) copied
        simpa [ColumnCopy.entry] using distinct
      · cases copied

variable {projection : Projection} (copying : projection.verbatim = false)
  (distinct : (projection.columns.map (·.dest.name)).Nodup)
  (keeps : ∀ copy ∈ projection.columns, copy.Keeps copy.isAggregate)

include copying distinct keeps

theorem rowOf_eq_ok
    (made : projection.rowOf (.object (projection.columns.map (ColumnCopy.entry leaves))) leaf =
      .ok row) :
    row = .object (projection.columns.map (ColumnCopy.entry (leaves ++ [leaf]))) := by
  have copied : copyAll leaf (.object (projection.columns.map (ColumnCopy.entry leaves)))
      projection.columns = (row, .ok ()) := by
    simp only [rowOf, apply, copying, Bool.false_eq_true, if_false] at made
    rcases Outcome.bind_eq_ok.1 made with ⟨_, succeeded, same⟩
    exact Prod.ext (Except.ok.inj same) succeeded
  have whole : (([] : Fields).map Prod.fst ++ projection.columns.map (·.dest.name)).Nodup := distinct
  exact copyAll_eq_ok whole keeps copied

/-- The row behind all leaves holds what each column shows of them. -/
theorem foldlM_rowOf_eq_ok {more : List Value}
    (made : more.foldlM projection.rowOf
      (.object (projection.columns.map (ColumnCopy.entry leaves))) = .ok row) :
    row = .object (projection.columns.map (ColumnCopy.entry (leaves ++ more))) := by
  induction more generalizing leaves with
  | nil =>
      rw [List.append_nil]
      exact (Except.ok.inj made).symm
  | cons leaf rest ih =>
      rw [List.foldlM_cons] at made
      rcases Outcome.bind_eq_ok.1 made with ⟨next, first, behind⟩
      rw [rowOf_eq_ok copying distinct keeps first] at behind
      rw [List.append_cons]
      exact ih behind

end Rows

/-! ## Compiled column lists -/

section Compiled

variable {source row last : RecordType} {columns : List Column} {made : List ColumnCopy}

theorem keeps_of_make {field target : Accessor} {collects : Bool} {copy : ColumnCopy}
    (schema : target.schema = if collects then .array field.schema else field.schema)
    (made : ColumnCopy.make field target collects = .ok copy) :
    copy.source = field ∧ copy.dest = target ∧ copy.Keeps collects := by
  rcases Outcome.bind_eq_ok.1 made with ⟨strategy, resolved, same⟩
  cases same
  refine ⟨rfl, rfl, schema, ?_⟩
  cases collects with
  | true =>
      rw [schema] at resolved
      simp only [Strategy.resolve, Strategy.fit?, Schema.required, if_true] at resolved
      exact (Except.ok.inj resolved).symm
  | false =>
      rw [schema, Strategy.resolve] at resolved
      simp only [Bool.false_eq_true, if_false, if_true, Except.ok.injEq] at resolved ⊢
      rw [← resolved]
      cases field.schema.isScalar
      · exact .inr rfl
      · exact .inl rfl

/-- Without a destination, each column becomes a copy into a new field of the row type. -/
theorem copies_none_eq_ok (found : copies source none row columns = .ok (made, last)) :
    last.fields = row.fields ++ made.map (fun copy => (copy.dest.name, copy.dest.schema)) ∧
      ((row.fields.map Prod.fst).Nodup → (last.fields.map Prod.fst).Nodup) ∧
      List.Forall₂ (fun column copy => ColumnCopy.OfColumn source column copy) columns made := by
  induction columns generalizing row made with
  | nil =>
      cases found
      exact ⟨(List.append_nil _).symm, id, .nil⟩
  | cons column rest ih =>
      rcases Outcome.bind_eq_ok.1 found with ⟨wanted, ofColumn, found⟩
      split at found
      · cases found
      · rename_i field known
        rcases Outcome.bind_eq_ok.1 found with ⟨⟨target, middle⟩, placed, found⟩
        rcases Outcome.bind_eq_ok.1 found with ⟨copy, joined, found⟩
        rcases Outcome.bind_eq_ok.1 found with ⟨⟨others, end_⟩, behind, same⟩
        cases same
        rw [destination] at placed
        split at placed
        · cases placed
        · rename_i new
          cases placed
          rcases keeps_of_make rfl joined with ⟨rfl, into, keeps⟩
          rcases ih behind with ⟨fields, names, made⟩
          refine ⟨?_, fun distinct => names ?_, .cons ⟨wanted, ofColumn, known, ?_, keeps⟩ made⟩
          · rw [fields, RecordType.push, List.append_assoc, List.map_cons, into]
            rfl
          · have absent := RecordType.notMem_of_field?_eq_none (by simpa using new)
            rw [RecordType.push, List.map_append]
            exact List.nodup_append.2 ⟨distinct, List.nodup_singleton _, fun old inside other here =>
              by
                cases List.mem_singleton.1 here
                rintro rfl
                exact absent inside⟩
          · rw [into]

/-- A column that collects. -/
def Collecting (column : Column) : Prop :=
  ∃ wanted, ColumnSource.ofColumn column = .ok wanted ∧ wanted.aggregate = true

/-- Such a column never stands beside `*`. -/
theorem any_isStar_of_collecting (collecting : ∃ column ∈ columns, Collecting column)
    (single : ¬ 1 < columns.length) : columns.any Column.isStar = false := by
  rcases collecting with ⟨column, member, wanted, ofColumn, -⟩
  have only : columns = [column] := by
    cases columns with
    | nil => cases member
    | cons first rest =>
        cases rest with
        | nil => rw [List.mem_singleton.1 member]
        | cons second others => exact absurd (by simp) single
  cases column with
  | star => cases ofColumn
  | _ => rw [only]; rfl

/-- A column list with a collecting column and without a destination shares one row between all
leaves, which holds what each column shows of them. -/
theorem shows_of_compile {values : Schema} {projection : Projection}
    (compiled : compile values columns none = .ok projection)
    (collecting : ∃ column ∈ columns, Collecting column) :
    ∃ source, values.record? = some source ∧ projection.aggregate = true ∧
      ∀ leaves row, leaves.foldlM projection.rowOf projection.template = .ok row →
        ∃ entries, row = .object entries ∧
          List.Forall₂ (Shows source leaves) columns entries := by
  rw [compile] at compiled
  split at compiled
  · rename_i star
    split at compiled
    · cases compiled
    · rename_i single
      cases (any_isStar_of_collecting collecting single).symm.trans star
  · split at compiled
    · cases compiled
    · rename_i source known
      rcases Outcome.bind_eq_ok.1 compiled with ⟨⟨made, last⟩, found, same⟩
      cases same
      rcases copies_none_eq_ok found with ⟨fields, names, each⟩
      have distinct : (last.fields.map Prod.fst).Nodup := names List.nodup_nil
      have keeps : ∀ copy ∈ made, copy.Keeps copy.isAggregate := by
        intro copy member
        rcases Outcome.exists_item_of_mem each member with ⟨column, -, own⟩
        exact own.keeps
      have copied : (made.map (·.dest.name)).Nodup := by
        have distinct : (last.fields.map Prod.fst).Nodup := names List.nodup_nil
        rw [fields, List.nil_append, List.map_map] at distinct
        exact distinct
      have template : last.zero = .object (made.map (ColumnCopy.entry [])) := by
        rw [RecordType.zero, RecordType.schema, Schema.zero_record (names List.nodup_nil), fields,
          List.nil_append, List.map_map]
        exact congrArg Value.object
          (List.map_congr_left fun copy member => (ColumnCopy.entry_nil (keeps copy member)).symm)
      refine ⟨source, known, ?_, ?_⟩
      · rcases collecting with ⟨column, member, wanted, ofColumn, collects⟩
        rcases Outcome.exists_result_of_mem each member with ⟨copy, inside, other, same, -, -, own⟩
        cases ofColumn.symm.trans same
        exact List.any_eq_true.2 ⟨copy, inside, own.isAggregate.trans collects⟩
      · intro leaves row projected
        change leaves.foldlM _ last.zero = _ at projected
        rw [template] at projected
        refine ⟨_, foldlM_rowOf_eq_ok rfl copied keeps projected, ?_⟩
        rw [List.nil_append]
        exact List.forall₂_map_right_iff.2 (each.imp fun column copy own => own.shows leaves)

end Compiled

end Projection

end RecordQuery
