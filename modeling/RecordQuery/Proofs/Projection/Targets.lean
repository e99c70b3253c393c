import RecordQuery.Proofs.Projection.Collecting

/-!
# Fields that columns are copied into

Each column of a list asks for a field of the rows: under its label, or else the name of the field
that it reads. A row type that is made up from the list has every field once. A given destination is
only searched for each of the names, so two columns can ask for one field of it. As long as they do
not, every field of a row is what its own column makes of the leaves, whatever other columns there
are.
-/

namespace RecordQuery

open Sql (Column)

/-- The name of the field that a column is copied into. -/
def Sql.Column.target? : Column → Option String
  | .field name label => some (label.getD (unqualified name))
  | .call _ [.column name] label => some (label.getD (unqualified name))
  | .call _ [.qualified _ name] label => some (label.getD name)
  | _ => none

namespace ColumnSource

/-- What a column reads settles the name of the field that it is copied into. -/
theorem target?_of_ofColumn {column : Column} {wanted : ColumnSource}
    (found : ofColumn column = .ok wanted) :
    column.target? = some (wanted.label.getD wanted.field) := by
  rw [ofColumn.eq_def] at found
  split at found
  · cases found
    rfl
  · split at found
    · cases found
    · split at found <;> cases found <;> rfl
  · cases found
  · cases found

end ColumnSource

/-! ## One copy -/

namespace ColumnCopy

variable {copy : ColumnCopy} {leaf : Value} {given : Fields}

/-- The array in a slot with one more item. A slot that is empty or null holds none yet. -/
def collected (copy : ColumnCopy) (slot : Option Value) (item : Value) : QueryResult Value :=
  match slot with
  | none | some .null => .ok (.array [item])
  | some (.array items) => .ok (.array (items ++ [item]))
  | some other => .error (.execution copy.dest.name (.notArray other))

/-- What a copy writes into its slot, if it writes anything. -/
def written (copy : ColumnCopy) (leaf : Value) (slot : Option Value) :
    QueryResult (Option Value) := do
  match copy.strategy, ← copy.source.get leaf with
  | .sameScalar, some value => return some (← copy.checked value)
  | .sameValue, some value => return some value
  | .convert widen, some value => return some (← copy.convert widen value)
  | .collect widen, some value => return some (← copy.collected slot (← copy.convert widen value))
  | .collect _, none => return some (← copy.collected slot copy.missing)
  | _, none => return none

theorem append_eq_collected (item : Value) :
    copy.append (.object given) item =
      (fun stored => .object (given.insert copy.dest.name stored)) <$>
        copy.collected (given.get? copy.dest.name) item := by
  rw [append, Accessor.reach]
  cases given.get? copy.dest.name with
  | none =>
      simp only [Outcome.ok_bind, Accessor.set, Fields.insert_insert]
      rfl
  | some slot => cases slot <;> rfl

/-- A copy is one write into its slot, or none, and only what the slot holds matters to it. -/
theorem apply_eq_written :
    copy.apply leaf (.object given) =
      (fun stored => .object (stored.elim given (given.insert copy.dest.name))) <$>
        copy.written leaf (given.get? copy.dest.name) := by
  rw [apply, written]
  cases copy.source.get leaf with
  | error error => rfl
  | ok found =>
      simp only [Outcome.ok_bind]
      cases found with
      | none =>
          cases copy.strategy with
          | collect widen =>
              simp only [append_eq_collected]
              cases copy.collected (given.get? copy.dest.name) copy.missing <;> rfl
          | _ => rfl
      | some value =>
          cases copy.strategy with
          | sameScalar =>
              simp only
              cases copy.checked value <;> rfl
          | sameValue => rfl
          | convert widen =>
              simp only
              cases copy.convert widen value <;> rfl
          | collect widen =>
              simp only
              cases copy.convert widen value with
              | error error => rfl
              | ok item =>
                  simp only [Outcome.ok_bind, append_eq_collected]
                  cases copy.collected (given.get? copy.dest.name) item <;> rfl

/-- What the slot of a copy holds behind it: what was written, or what it held before. -/
theorem get?_elim_insert (stored : Option Value) (given : Fields) (name : String) :
    (stored.elim given (given.insert name)).get? name = stored.or (given.get? name) := by
  cases stored with
  | none => rfl
  | some value => exact Fields.get?_insert_self given name value

theorem get?_elim_insert_of_ne (stored : Option Value) (given : Fields) {name other : String}
    (different : other ≠ name) :
    (stored.elim given (given.insert name)).get? other = given.get? other := by
  cases stored with
  | none => rfl
  | some value => exact Fields.get?_insert_of_ne given value different

end ColumnCopy

/-! ## Copies into distinct fields -/

namespace Projection

/-- The names of the fields that the columns are copied into. -/
def targets (projection : Projection) : List String := projection.columns.map (·.dest.name)

/-- The projection with one of its columns alone. -/
def only (projection : Projection) (copy : ColumnCopy) : Projection :=
  { projection with columns := [copy] }

variable {columns : List ColumnCopy} {copy : ColumnCopy} {leaf row : Value} {given own : Fields}
  {name : String}

/-- Copies leave the fields alone that none of them is made into. -/
theorem get?_of_copyAll (copied : copyAll leaf (.object given) columns = (row, .ok ())) :
    ∃ after : Fields, row = .object after ∧
      ∀ name ∉ columns.map (·.dest.name), after.get? name = given.get? name := by
  induction columns generalizing given with
  | nil =>
      cases copied
      exact ⟨given, rfl, fun name _ => rfl⟩
  | cons first rest ih =>
      rw [copyAll, ColumnCopy.apply_eq_written] at copied
      cases written : first.written leaf (given.get? first.dest.name) with
      | error error =>
          rw [written] at copied
          cases copied
      | ok stored =>
          rw [written] at copied
          rcases ih copied with ⟨after, rfl, untouched⟩
          refine ⟨after, rfl, fun name outside => ?_⟩
          rw [List.map_cons, List.mem_cons, not_or] at outside
          rw [untouched name outside.2, ColumnCopy.get?_elim_insert_of_ne stored given outside.1]

/-- A field that one copy alone is made into holds behind all of them what the copy makes of it. -/
theorem get?_target_of_copyAll (distinct : (columns.map (·.dest.name)).Nodup)
    (member : copy ∈ columns)
    (copied : copyAll leaf (.object given) columns = (.object own, .ok ())) :
    ∃ stored, copy.written leaf (given.get? copy.dest.name) = .ok stored ∧
      own.get? copy.dest.name = stored.or (given.get? copy.dest.name) := by
  induction columns generalizing given with
  | nil => cases member
  | cons first rest ih =>
      rw [List.map_cons, List.nodup_cons] at distinct
      rw [copyAll, ColumnCopy.apply_eq_written] at copied
      cases written : first.written leaf (given.get? first.dest.name) with
      | error error =>
          rw [written] at copied
          cases copied
      | ok stored =>
          rw [written] at copied
          -- The copies behind this one leave its field alone, and so do those in front of it.
          rcases List.mem_cons.1 member with rfl | later
          · rcases get?_of_copyAll copied with ⟨after, same, untouched⟩
            cases same
            refine ⟨stored, written, ?_⟩
            rw [untouched _ distinct.1, ColumnCopy.get?_elim_insert]
          · have different : copy.dest.name ≠ first.dest.name := fun same =>
              distinct.1 (same ▸ List.mem_map_of_mem later)
            have kept := ColumnCopy.get?_elim_insert_of_ne stored given different
            rcases ih distinct.2 later copied with ⟨last, alone, here⟩
            exact ⟨last, kept ▸ alone, kept ▸ here⟩

section Rows

variable {projection : Projection} (copying : projection.verbatim = false)

include copying

theorem copyAll_of_rowOf (made : projection.rowOf (.object given) leaf = .ok row) :
    copyAll leaf (.object given) projection.columns = (row, .ok ()) := by
  simp only [rowOf, apply, copying, Bool.false_eq_true, if_false] at made
  rcases Outcome.bind_eq_ok.1 made with ⟨_, succeeded, same⟩
  exact Prod.ext (Except.ok.inj same) succeeded

/-- With one column alone a row gets what the copy writes. -/
theorem rowOf_only : (projection.only copy).rowOf (.object own) leaf =
    (fun stored => .object (stored.elim own (own.insert copy.dest.name))) <$>
      copy.written leaf (own.get? copy.dest.name) := by
  simp only [rowOf, apply, only, copying, Bool.false_eq_true, if_false, copyAll,
    ColumnCopy.apply_eq_written]
  cases copy.written leaf (own.get? copy.dest.name) <;> rfl

/-- Leaves leave the fields of a row alone that no column is copied into. -/
theorem exists_row {leaves : List Value}
    (made : leaves.foldlM projection.rowOf (.object given) = .ok row) :
    ∃ after : Fields, row = .object after ∧
      ∀ name ∉ projection.targets, after.get? name = given.get? name := by
  induction leaves generalizing given with
  | nil =>
      cases made
      exact ⟨given, rfl, fun name _ => rfl⟩
  | cons leaf rest ih =>
      rw [List.foldlM_cons] at made
      rcases Outcome.bind_eq_ok.1 made with ⟨next, first, made⟩
      rcases get?_of_copyAll (copyAll_of_rowOf copying first) with ⟨middle, rfl, untouched⟩
      rcases ih made with ⟨after, rfl, still⟩
      exact ⟨after, rfl, fun name outside => (still name outside).trans (untouched name outside)⟩

/-- A field that one column alone is copied into holds behind any number of leaves what it would
hold if there were no other columns. -/
theorem exists_row_only (distinct : projection.targets.Nodup) (member : copy ∈ projection.columns)
    {leaves : List Value} {after : Fields}
    (same : own.get? copy.dest.name = given.get? copy.dest.name)
    (made : leaves.foldlM projection.rowOf (.object given) = .ok (.object after)) :
    ∃ alone : Fields,
      leaves.foldlM (projection.only copy).rowOf (.object own) = .ok (.object alone) ∧
      alone.get? copy.dest.name = after.get? copy.dest.name := by
  induction leaves generalizing given own with
  | nil =>
      cases made
      exact ⟨own, rfl, same⟩
  | cons leaf rest ih =>
      rw [List.foldlM_cons] at made
      rcases Outcome.bind_eq_ok.1 made with ⟨next, first, made⟩
      have copied := copyAll_of_rowOf copying first
      rcases get?_of_copyAll copied with ⟨middle, rfl, -⟩
      rcases get?_target_of_copyAll distinct member copied with ⟨stored, written, here⟩
      rw [List.foldlM_cons, rowOf_only copying, same, written]
      refine ih ?_ made
      rw [ColumnCopy.get?_elim_insert, same, here]

end Rows

/-! ## The fields of a column list -/

/-- The fields that a column list asks for by name; `*` asks for every field of the destination. -/
def wanted (columns : List Column) (dest : Option RecordType) : List String :=
  if columns.any Column.isStar then dest.elim [] fun type => type.fields.map Prod.fst
  else columns.filterMap Column.target?

section Compiled

variable {source last type : RecordType} {dest : Option RecordType} {list : List Column}

theorem name_of_field? {field : Accessor} (found : source.field? name = some field) :
    field.name = name := by
  simpa using List.find?_some found

/-- A column is copied into the field of the name that it asks for. -/
theorem name_of_destination {schema : Schema} {target : Accessor}
    (placed : destination dest type name schema = .ok (target, last)) : target.name = name := by
  rw [destination.eq_def] at placed
  split at placed
  · split at placed
    · rename_i known
      cases placed
      exact name_of_field? known
    · cases placed
  · split at placed <;> cases placed
    rfl

theorem dest_of_make {field target : Accessor} {aggregate : Bool}
    (made : ColumnCopy.make field target aggregate = .ok copy) : copy.dest = target := by
  rcases Outcome.bind_eq_ok.1 made with ⟨strategy, -, same⟩
  cases same
  rfl

/-- The columns of a list are copied into the fields that they ask for, in order. -/
theorem targets_of_copies (found : copies source dest type list = .ok (columns, last)) :
    columns.map (·.dest.name) = list.filterMap Column.target? := by
  induction list generalizing type columns with
  | nil =>
      cases found
      rfl
  | cons column rest ih =>
      rcases Outcome.bind_eq_ok.1 found with ⟨wanted, ofColumn, found⟩
      split at found
      · cases found
      · rename_i field known
        rcases Outcome.bind_eq_ok.1 found with ⟨⟨target, middle⟩, placed, found⟩
        rcases Outcome.bind_eq_ok.1 found with ⟨copy, joined, found⟩
        rcases Outcome.bind_eq_ok.1 found with ⟨⟨others, end_⟩, behind, same⟩
        cases same
        have asked := ColumnSource.target?_of_ofColumn ofColumn
        rw [← name_of_field? known, ← name_of_destination placed] at asked
        rw [List.filterMap_cons_some asked, List.map_cons, dest_of_make joined, ih behind]

/-- Every field of a destination is filled by name. -/
theorem targets_of_copiesByName {fields : List Accessor}
    (found : copiesByName source fields = .ok columns) :
    columns.map (·.dest.name) = fields.map Accessor.name := by
  induction fields generalizing columns with
  | nil =>
      cases found
      rfl
  | cons field rest ih =>
      rw [copiesByName] at found
      split at found
      · cases found
      · rcases Outcome.bind_eq_ok.1 found with ⟨copy, joined, found⟩
        rcases Outcome.bind_eq_ok.1 found with ⟨others, behind, same⟩
        cases same
        rw [List.map_cons, List.map_cons, dest_of_make joined, ih behind]

variable {values : Schema} {projection : Projection}

/-- The fields that a compiled list is copied into are those that it asks for. Where the row type is
made up from the list, they are distinct. -/
theorem targets_of_compile (compiled : compile values list dest = .ok projection) :
    projection.targets = wanted list dest ∧ (dest = none → projection.targets.Nodup) := by
  rw [compile] at compiled
  rw [wanted]
  split at compiled
  · rename_i star
    rw [if_pos star]
    split at compiled
    · cases compiled
    · rw [ofStar.eq_def] at compiled
      split at compiled
      · cases compiled
        exact ⟨rfl, fun _ => List.nodup_nil⟩
      · rename_i into
        split at compiled
        · cases compiled
        · rcases Outcome.bind_eq_ok.1 compiled with ⟨made, found, same⟩
          cases same
          refine ⟨?_, fun same => by cases same⟩
          exact (targets_of_copiesByName found).trans (RecordType.names_accessorsFrom 0 into.fields)
  · rename_i named
    rw [if_neg named]
    split at compiled
    · cases compiled
    · rcases Outcome.bind_eq_ok.1 compiled with ⟨⟨made, last⟩, found, same⟩
      cases same
      refine ⟨targets_of_copies found, ?_⟩
      rintro rfl
      rcases copies_none_eq_ok found with ⟨fields, names, -⟩
      have distinct := names List.nodup_nil
      rw [fields, List.nil_append, List.map_map] at distinct
      exact distinct

/-- The columns of a compiled list are copied into distinct fields exactly where there is no
destination, or the list asks for no field of it twice: under no two labels or names of columns, or,
where it is `*`, under no two names of fields that the destination has. If they are, then whatever
leaves a row is filled with, each of these fields holds what it would hold if its column were the
only one, and all others are left alone. -/
theorem nodup_targets_iff (compiled : compile values list dest = .ok projection) :
    (projection.targets.Nodup ↔ dest = none ∨ (wanted list dest).Nodup) ∧
    (projection.targets.Nodup → projection.verbatim = false →
      ∀ (leaves : List Value) (given : Fields) (row : Value),
        leaves.foldlM projection.rowOf (.object given) = .ok row →
        ∃ after : Fields, row = .object after ∧
          (∀ copy ∈ projection.columns, ∃ alone : Fields,
            leaves.foldlM (projection.only copy).rowOf (.object given) = .ok (.object alone) ∧
              alone.get? copy.dest.name = after.get? copy.dest.name) ∧
          ∀ name ∉ projection.targets, after.get? name = given.get? name) := by
  rcases targets_of_compile compiled with ⟨asked, made⟩
  constructor
  · rw [← asked]
    exact ⟨.inr, fun distinct => distinct.elim made id⟩
  · intro distinct copying leaves given row filled
    rcases exists_row copying filled with ⟨after, rfl, untouched⟩
    exact ⟨after, rfl, fun copy member => exists_row_only copying distinct member rfl filled,
      untouched⟩

end Compiled

/-- The lowest and the highest value of a day. -/
def reading : RecordType := ⟨"Reading", [("Low", .scalar .int), ("High", .scalar .int)]⟩

/-- Both values. -/
def lowAndHigh : Value := .object [("Low", .ofInt64 1), ("High", .ofInt64 2)]

/-- The bounds of the values of a day. -/
def bounds : RecordType := ⟨"Bounds", [("Min", .scalar .int), ("Max", .scalar .int)]⟩

/-- Bounds that nothing is filled in for. -/
def unfilled : Fields := [("Min", .ofInt64 0), ("Max", .ofInt64 0)]

/-- Two columns under two labels: each bound is what it would be without the other column. -/
theorem nodup_targets_iff_bounds :
    ∃ (projection : Projection) (after : Fields),
      compile reading.schema [.field "Low" (some "Min"), .field "High" (some "Max")]
        (some bounds) = .ok projection ∧
      projection.targets.Nodup ∧ projection.template = .object unfilled ∧
      [lowAndHigh].foldlM projection.rowOf (.object unfilled) = .ok (.object after) ∧
      ∀ copy ∈ projection.columns, ∃ alone : Fields,
        [lowAndHigh].foldlM (projection.only copy).rowOf (.object unfilled) = .ok (.object alone) ∧
          alone.get? copy.dest.name = after.get? copy.dest.name := by
  have compiled : compile reading.schema
      [.field "Low" (some "Min"), .field "High" (some "Max")] (some bounds) = .ok _ := rfl
  obtain ⟨distinct, each⟩ := nodup_targets_iff compiled
  have nodup := distinct.2 (.inr (by decide))
  rcases each nodup rfl [lowAndHigh] unfilled
    (.object [("Min", .ofInt64 1), ("Max", .ofInt64 2)]) rfl with ⟨after, same, alone, -⟩
  exact ⟨_, after, compiled, nodup, rfl, congrArg _ same, alone⟩

/-- One value of a day. -/
def peak : RecordType := ⟨"Peak", [("Value", .scalar .int)]⟩

/-- A destination takes two columns for one field, and the row keeps the value of the last one. A
row type that is made up from the same list would have the field twice, and is refused. -/
theorem targets_shared :
    ∃ (projection : Projection) (after : Fields),
      compile reading.schema [.field "Low" (some "Value"), .field "High" (some "Value")]
        (some peak) = .ok projection ∧
      ¬projection.targets.Nodup ∧
      projection.rowOf projection.template lowAndHigh = .ok (.object after) ∧
      after.get? "Value" = some (.ofInt64 2) ∧
      compile reading.schema [.field "Low" (some "Value"), .field "High" (some "Value")] none =
        .error (.compile (.duplicateColumn "Value")) :=
  ⟨_, _, rfl, by decide, rfl, rfl, rfl⟩

end Projection

end RecordQuery
