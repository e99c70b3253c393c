import RecordQuery.Proofs.Table.Stage

/-!
# Nested SELECTs

A SELECT may read the rows of another one in place of a table. What such a nest shows can
be told SELECT by SELECT, from the innermost outwards. The main theorem says exactly when
one SELECT over the same table shows the same rows on every content of the file.
-/

namespace RecordQuery

namespace Stage

/-- The names of the columns. -/
def names (stage : Stage) : List String := stage.plan.columns.map OutputColumn.name

/-- The type of the rows. -/
def view (stage : Stage) (name : String) : RecordType :=
  ⟨name, stage.plan.columns.map fun column => (column.name, column.schema)⟩

/-- A row as a record whose fields are the columns. -/
def record (stage : Stage) (row : List Value) : Value := .object (stage.names.zip row)

/-- The row that a SELECT makes of a row of another one. Columns are taken by position, so
that one is told from another of the same name. -/
def pick (stage inner : Stage) (row : List Value) : TableResult (List Value) := do
  let _ ← stage.test (inner.record row)
  return stage.plan.columns.map fun column =>
    match column.source with
    | .field field => (field.index.bind (row[·]?)).getD .null
    | .constant value => value

end Stage

/-- SELECTs around each other; the innermost reads a table. -/
inductive Nest where
  | table (stage : Stage)
  | around (stage : Stage) (inner : Nest)

namespace Nest

/-- The outermost SELECT. -/
def stage : Nest → Stage
  | .table stage | .around stage _ => stage

/-- The rows that a nest shows of the records of a table: each SELECT filters the rows of
the one inside it, turns those that pass into rows of its own, and ends at its limit. -/
def rows : Nest → List (TableResult Value) → List (TableResult (List Value))
  | .table stage, records => stage.rows records
  | .around stage inner, records =>
      within stage.bound
        (((inner.rows records).filter (Stage.keeps (stage.passes ∘ inner.stage.record))).map
          (· >>= stage.pick inner.stage))

/-! ## One record -/

/-- The row of one record, made by each SELECT in turn. -/
def row : Nest → Value → TableResult (List Value)
  | .table stage, record => stage.row record
  | .around stage inner, record => inner.row record >>= stage.pick inner.stage

/-- Whether a record passes the conditions of all SELECTs. -/
def passes : Nest → Value → Bool
  | .table stage, record => stage.passes record
  | .around stage inner, record =>
      inner.passes record && Stage.keeps (stage.passes ∘ inner.stage.record) (inner.row record)

/-- The tightest limit of all SELECTs. -/
def bound : Nest → Option Nat
  | .table stage => stage.bound
  | .around stage inner => tighter stage.bound inner.bound

/-- No SELECT drops rows that another one inside it has counted for its limit. -/
def Final (table : Table) : Nest → Prop
  | .table _ => True
  | .around stage inner => inner.Final table ∧
      (inner.bound ≠ none → ∀ record, table.Holds record → inner.passes record = true →
        Stage.keeps (stage.passes ∘ inner.stage.record) (inner.row record) = true)

variable {table : Table} {nest : Nest} {flat : Stage}

theorem rows_table (stage : Stage) (records : List (TableResult Value)) :
    (Nest.table stage).rows records = within stage.bound
      ((records.filter (Stage.keeps stage.passes)).map (· >>= stage.row)) := rfl

/-- A nest with a limit of zero shows nothing. -/
theorem rows_of_bound_zero (nothing : nest.bound = some 0) (records : List (TableResult Value)) :
    nest.rows records = [] := by
  induction nest with
  | table stage =>
      have nothing : stage.bound = some 0 := nothing
      rw [rows_table, nothing, within_zero]
  | around stage inner ih =>
      rw [rows]
      rcases tighter_eq_zero.1 nothing with outer | inside
      · rw [outer, within_zero]
      · rw [ih inside, List.filter_nil, List.map_nil, within_nil]

/-- A nest with room shows the row of a single record, if it passes. -/
theorem rows_singleton (room : nest.bound ≠ some 0) (record : Value) :
    nest.rows [.ok record] = if nest.passes record then [nest.row record] else [] := by
  induction nest with
  | table stage =>
      have room : stage.bound ≠ some 0 := room
      rw [rows_table, passes]
      cases passed : stage.passes record with
      | true =>
          rw [List.filter_cons_of_pos (by exact passed), List.filter_nil, List.map_singleton,
            within_singleton room]
          rfl
      | false =>
          rw [List.filter_cons_of_neg (by simp [Stage.keeps, passed]), List.filter_nil,
            List.map_nil, within_nil]
          rfl
  | around stage inner ih =>
      rw [bound, ne_eq, tighter_eq_zero, not_or] at room
      rw [rows, ih room.2, passes]
      cases inner.passes record with
      | false => simp
      | true =>
          rw [if_pos rfl, Bool.true_and]
          cases kept : Stage.keeps (stage.passes ∘ inner.stage.record) (inner.row record) with
          | true =>
              rw [List.filter_cons_of_pos kept, List.filter_nil, List.map_singleton,
                within_singleton room.1]
              rfl
          | false =>
              rw [List.filter_cons_of_neg (by simp [kept]), List.filter_nil, List.map_nil,
                within_nil]
              rfl

/-- A nest with room shows an error that is met first. -/
theorem rows_error (room : nest.bound ≠ some 0) (error : TableError) :
    nest.rows [.error error] = [.error error] := by
  induction nest with
  | table stage => exact within_singleton room _
  | around stage inner ih =>
      rw [bound, ne_eq, tighter_eq_zero, not_or] at room
      rw [rows, ih room.2]
      exact within_singleton room.1 _

/-- Where no limit is counted in vain, the rows are those of the records that pass all
conditions, up to the tightest limit. -/
theorem rows_of_final (final : nest.Final table) {records : List (TableResult Value)}
    (held : ∀ record, .ok record ∈ records → table.Holds record) :
    nest.rows records =
      within nest.bound ((records.filter (Stage.keeps nest.passes)).map (· >>= nest.row)) := by
  induction nest with
  | table stage => rfl
  | around stage inner ih =>
      rcases final with ⟨within_, last⟩
      let kept : TableResult (List Value) → Bool := Stage.keeps (stage.passes ∘ inner.stage.record)
      let shown := (records.filter (Stage.keeps inner.passes)).map (· >>= inner.row)
      have early :
          (within inner.bound shown).filter kept = within inner.bound (shown.filter kept) := by
        cases limited : inner.bound with
        | none => rfl
        | some limit =>
            have all : ∀ item ∈ shown, kept item = true := by
              intro item member
              rcases List.mem_map.1 member with ⟨read, inside, rfl⟩
              rcases List.mem_filter.1 inside with ⟨present, passed⟩
              cases read with
              | error error => rfl
              | ok record => exact last (by simp [limited]) record (held record present) passed
            rw [List.filter_eq_self.2 all]
            exact List.filter_eq_self.2 fun item member => all item (List.mem_of_mem_take member)
      have both : shown.filter kept =
          (records.filter (Stage.keeps (Nest.around stage inner).passes)).map
          (· >>= inner.row) := by
        rw [List.filter_map, List.filter_filter]
        congr 1
        apply List.filter_congr
        intro read _
        cases read with
        | error error => rfl
        | ok record => exact Bool.and_comm _ _
      rw [rows, ih within_, early, both, ← within_map, within_within, List.map_map]
      congr 2
      funext read
      cases read <;> rfl

/-! ## One SELECT in place of a nest -/

/-- One SELECT lets the same records pass as a nest, with the same rows and the same
limit, and the nest counts none of them in vain. -/
structure SameRows (table : Table) (nest : Nest) (flat : Stage) : Prop where
  final : nest.Final table
  passes : ∀ record, table.Holds record → flat.passes record = nest.passes record
  row : ∀ record, table.Holds record → nest.passes record = true → flat.row record = nest.row record
  bound : ∀ record, table.Holds record → nest.passes record = true → flat.bound = nest.bound

/-- Neither asks for any row, or both do and agree on the rows. -/
def FoldsInto (table : Table) (nest : Nest) (flat : Stage) : Prop :=
  (nest.bound = some 0 ∧ flat.bound = some 0) ∨
    (nest.bound ≠ some 0 ∧ flat.bound ≠ some 0 ∧ nest.SameRows table flat)

/-- A nest that never swallows an error behind records that do not pass counts none of its
rows in vain. -/
theorem final_of_shown (room : nest.bound ≠ some 0)
    (shown : ∀ record, table.Holds record → nest.passes record = false → ∀ count, ∃ error,
      nest.rows (List.replicate count (.ok record) ++ [.error error]) ≠ []) :
    nest.Final table := by
  induction nest with
  | table stage => trivial
  | around stage inner ih =>
      rw [bound, ne_eq, tighter_eq_zero, not_or] at room
      have final : inner.Final table := by
        refine ih room.2 ?_
        intro record held failed count
        rcases shown record held (by rw [passes, failed, Bool.false_and]) count
          with ⟨error, something⟩
        refine ⟨error, fun nothing => something ?_⟩
        rw [rows, nothing, List.filter_nil, List.map_nil, within_nil]
      refine ⟨final, ?_⟩
      intro limited record held passed
      by_contra dropped
      have dropped : Stage.keeps (stage.passes ∘ inner.stage.record) (inner.row record) = false :=
        Bool.eq_false_iff.2 dropped
      rcases Option.ne_none_iff_exists'.1 limited with ⟨limit, known⟩
      obtain ⟨error, something⟩ :=
        shown record held (by rw [passes, passed, dropped, Bool.true_and]) limit
      apply something
      have counted : inner.rows (List.replicate limit (.ok record) ++ [.error error]) =
          List.replicate limit (inner.row record) := by
        rw [rows_of_final final]
        · rw [known, List.filter_append, List.filter_replicate_of_pos (by exact passed),
            List.map_append, List.map_replicate]
          exact List.take_left' List.length_replicate
        · intro other member
          rcases List.mem_append.1 member with copy | last
          · cases List.eq_of_mem_replicate copy
            exact held
          · cases List.mem_singleton.1 last
      rw [rows, counted, List.filter_replicate_of_neg (by simp [dropped]), List.map_nil, within_nil]

/-- Where no record passes, rooms of any size show the same. -/
theorem within_of_none_pass {first second : Option Nat} (firstRoom : first ≠ some 0)
    (secondRoom : second ≠ some 0) {test : Value → Bool} (content : Content)
    (none : ∀ record, table.Holds record → test record = false)
    (image : TableResult Value → TableResult (List Value)) :
    within first (((table.records content).filter (Stage.keeps test)).map image) =
      within second (((table.records content).filter (Stage.keeps test)).map image) := by
  have failed (list : List Value) (held : ∀ record ∈ list, table.Holds record) :
      (list.map Except.ok).filter (Stage.keeps test) = [] := by
    rw [List.filter_eq_nil_iff]
    intro read member
    rcases List.mem_map.1 member with ⟨record, inside, rfl⟩
    simp [Stage.keeps, none record (held record inside)]
  have held (record : Value) (member : .ok record ∈ table.records content) : table.Holds record :=
    Table.holds_of_mem_records member
  rcases table.records_shape content with ⟨list, whole | ⟨error, cut⟩⟩
  · rw [whole] at held ⊢
    rw [failed list fun record inside => held record (List.mem_map_of_mem inside), List.map_nil,
      within_nil, within_nil]
  · rw [cut] at held ⊢
    rw [List.filter_append,
      failed list fun record inside => held record
        (List.mem_append_left _ (List.mem_map_of_mem inside))]
    exact (within_singleton firstRoom _).trans (within_singleton secondRoom _).symm

/-! What follows where one SELECT shows on every content what a nest shows. -/

section Shown

variable (shown : ∀ content, flat.rows (table.records content) = nest.rows (table.records content))

include shown

/-- Both have room, or neither has: a line that cannot be read is shown by both or by
neither. -/
theorem bound_zero_of_rows_eq : flat.bound = some 0 ↔ nest.bound = some 0 := by
  have noRecord : ∀ record ∈ ([] : List Value), table.Holds record := by simp
  rcases table.exists_content_failing noRecord with ⟨content, error, failing⟩
  have onError : (Nest.table flat).rows [.error error] = nest.rows [.error error] := by
    have onContent := shown content
    rw [failing] at onContent
    exact onContent
  change (Nest.table flat).bound = some 0 ↔ nest.bound = some 0
  constructor
  all_goals
    intro none
    by_contra room
    rw [rows_of_bound_zero none, rows_error room] at onError
    cases onError

variable (room : nest.bound ≠ some 0)

include room

theorem rows_singleton_of_rows_eq {record : Value} (held : table.Holds record) :
    (if flat.passes record then [flat.row record] else []) =
      if nest.passes record then [nest.row record] else [] := by
  have flatRoom : (Nest.table flat).bound ≠ some 0 := mt (bound_zero_of_rows_eq shown).1 room
  have each : ∀ other ∈ [record], table.Holds other := by simpa using held
  rcases table.exists_content each with ⟨content, found⟩
  have onContent : (Nest.table flat).rows _ = nest.rows _ := shown content
  rw [found, List.map_singleton, rows_singleton flatRoom, rows_singleton room] at onContent
  exact onContent

theorem passes_of_rows_eq {record : Value} (held : table.Holds record) :
    flat.passes record = nest.passes record := by
  have single := rows_singleton_of_rows_eq shown room held
  cases first : flat.passes record with
  | true =>
      cases second : nest.passes record with
      | true => rfl
      | false =>
          rw [first, second] at single
          cases single
  | false =>
      cases second : nest.passes record with
      | true =>
          rw [first, second] at single
          cases single
      | false => rfl

theorem row_of_rows_eq {record : Value} (held : table.Holds record)
    (passed : nest.passes record = true) : flat.row record = nest.row record := by
  have single := rows_singleton_of_rows_eq shown room held
  rw [passes_of_rows_eq shown room held, passed] at single
  exact (List.cons.inj single).1

/-- The one SELECT shows an error behind any number of records that do not pass, so the
nest cannot have counted them. -/
theorem final_of_rows_eq : nest.Final table := by
  refine final_of_shown room ?_
  intro record held failed count
  have flatRoom : (Nest.table flat).bound ≠ some 0 := mt (bound_zero_of_rows_eq shown).1 room
  rcases table.exists_content_failing (Table.holds_of_mem_replicate held)
    with ⟨content, error, found⟩
  refine ⟨error, ?_⟩
  have onContent := shown content
  rw [found, List.map_replicate] at onContent
  rw [← onContent, Stage.rows, List.filter_append,
    List.filter_replicate_of_neg (by simp [Stage.keeps, passes_of_rows_eq shown room held, failed])]
  intro swallowed
  have kept : within (Nest.table flat).bound [(.error error : TableResult (List Value))] = [] :=
    swallowed
  rw [within_singleton flatRoom] at kept
  cases kept

/-- As many copies of a record that passes are shown as the limits allow. -/
theorem bound_of_rows_eq {record : Value} (held : table.Holds record)
    (passed : nest.passes record = true) : flat.bound = nest.bound := by
  apply eq_of_elim_min
  intro count
  rcases table.exists_content (Table.holds_of_mem_replicate held) with ⟨content, found⟩
  have counted := congrArg List.length (shown content)
  have inside (other : Value)
      (copy : (.ok other : TableResult Value) ∈ List.replicate count (.ok record)) :
      table.Holds other := by
    cases List.eq_of_mem_replicate copy
    exact held
  rw [found, List.map_replicate, Stage.rows, rows_of_final (final_of_rows_eq shown room) inside,
    List.filter_replicate_of_pos (by exact (passes_of_rows_eq shown room held).trans passed),
    List.filter_replicate_of_pos (by exact passed), List.map_replicate, List.map_replicate,
    within_replicate, within_replicate, List.length_replicate, List.length_replicate] at counted
  exact counted

end Shown

/-- A nest that shows what one SELECT shows folds into it. -/
theorem foldsInto_of_rows_eq
    (shown : ∀ content, flat.rows (table.records content) = nest.rows (table.records content)) :
    nest.FoldsInto table flat := by
  by_cases none : nest.bound = some 0
  · exact .inl ⟨none, (bound_zero_of_rows_eq shown).2 none⟩
  · refine .inr ⟨none, mt (bound_zero_of_rows_eq shown).1 none, ?_⟩
    constructor
    · exact final_of_rows_eq shown none
    · exact fun record held => passes_of_rows_eq shown none held
    · exact fun record held passed => row_of_rows_eq shown none held passed
    · exact fun record held passed => bound_of_rows_eq shown none held passed

theorem rows_eq_of_foldsInto (folds : nest.FoldsInto table flat) (content : Content) :
    flat.rows (table.records content) = nest.rows (table.records content) := by
  rcases folds with ⟨nothing, none⟩ | ⟨room, flatRoom, same⟩
  · have none : (Nest.table flat).bound = some 0 := none
    rw [rows_of_bound_zero nothing]
    exact rows_of_bound_zero none _
  · have held (record : Value) (member : .ok record ∈ table.records content) : table.Holds record :=
      Table.holds_of_mem_records member
    have passes : (table.records content).filter (Stage.keeps flat.passes) =
        (table.records content).filter (Stage.keeps nest.passes) := by
      apply List.filter_congr
      intro read member
      cases read with
      | error error => rfl
      | ok record => exact same.passes record (held record member)
    have row : ((table.records content).filter (Stage.keeps nest.passes)).map (· >>= flat.row) =
        ((table.records content).filter (Stage.keeps nest.passes)).map (· >>= nest.row) := by
      apply List.map_congr_left
      intro read member
      rcases List.mem_filter.1 member with ⟨inside, passed⟩
      cases read with
      | error error => rfl
      | ok record => exact same.row record (held record inside) passed
    rw [rows_of_final same.final held, Stage.rows, passes, row]
    by_cases some_ : ∃ record, table.Holds record ∧ nest.passes record = true
    · rcases some_ with ⟨record, inside, passed⟩
      rw [same.bound record inside passed]
    · refine within_of_none_pass flatRoom room content (fun record inside => ?_) _
      exact Bool.eq_false_iff.2 fun passed => some_ ⟨record, inside, passed⟩

/-- One SELECT shows the rows of a nest, on every content of the file, exactly when the
nest folds into it. -/
theorem rows_eq_iff_foldsInto :
    (∀ content, flat.rows (table.records content) = nest.rows (table.records content)) ↔
      nest.FoldsInto table flat :=
  ⟨foldsInto_of_rows_eq, rows_eq_of_foldsInto⟩

end Nest

end RecordQuery
