import RecordQuery.Proofs.Projection.Collecting
import RecordQuery.Proofs.Query.Select

/-!
# Queries that collect

A query with a collecting column gives one row, whatever its limit is and however few leaves there
are. All leaves share this row: a collecting column has an item for each of them, any other column
has the last value that was there.
-/

namespace RecordQuery.Query

variable {query : Query} {sql : String} {select : Sql.Select} {root : Schema}
  {dest : Option RecordType}

/-- The columns of a query are those of its text. -/
theorem projection_of_compile (compiled : compile sql root dest = .ok query)
    (parsed : Sql.parseSelect sql = .ok select) :
    Projection.compile query.route.leafSchema select.columns dest = .ok query.projection := by
  rcases Outcome.bind_eq_ok.1 compiled with ⟨other, reads, compiled⟩
  cases parsed.symm.trans reads
  rcases Outcome.bind_eq_ok.1 compiled with ⟨⟨route, binding⟩, -, compiled⟩
  rcases Outcome.bind_eq_ok.1 compiled with ⟨projection, made, same⟩
  cases same
  exact made

/-- Under any limit: all leaves go into the row that starts from the template, and it is the only
one. A fault of the walk counts behind those of the row. -/
theorem selectUpTo_of_collecting (collecting : query.projection.aggregate = true)
    (limit : Option Nat) (value : Value) (args : List Value) :
    query.selectUpTo limit value args = (do
      let trail := query.route.trail (← query.binding.expand args) value
      let row ← trail.items.foldlM query.projection.rowOf query.projection.template
      let _ ← trail.result
      return [row]) := by
  rw [selectUpTo]
  cases query.binding.expand args with
  | error error => rfl
  | ok arguments =>
      simp only [Outcome.ok_bind, collecting, Bool.not_true, Bool.false_eq_true, if_false]
      rw [Route.project_eq_follow]
      exact RowBuffer.finish_follow_of_shared _ ⟨rfl, rfl⟩

/-- A query with a collecting column and without a destination that succeeds gives one row, which
is also its first one, under every limit. The row has an entry for each column of the text in
order. That of a collecting column has as many items as there are leaves, and its items are the
values of its field in the leaves one by one, or zeros where these have none; that of any other
column is the last value of its field that is there, or zero. -/
theorem collects_one_row (compiled : compile sql root none = .ok query)
    (parsed : Sql.parseSelect sql = .ok select)
    (collecting : ∃ column ∈ select.columns, Projection.Collecting column) {value : Value}
    {args rows : List Value} (selected : query.selectAll value args = .ok rows) :
    ∃ source leaves entries, query.route.leafSchema.record? = some source ∧
      query.allLeaves value args = .ok leaves ∧ query.count value args = .ok leaves.length ∧
      List.Forall₂ (Projection.Shows source leaves) select.columns entries ∧
      rows = [.object entries] ∧
      ∀ limit, { query with limit }.selectAll value args = .ok [.object entries] ∧
        { query with limit }.selectFirst value args = .ok (some (.object entries)) := by
  rcases Projection.shows_of_compile (projection_of_compile compiled parsed) collecting
    with ⟨source, known, aggregate, shows⟩
  have alike (limit : Option Nat) : query.selectUpTo limit value args = .ok rows := by
    rw [selectUpTo_of_collecting aggregate, ← selectUpTo_of_collecting aggregate query.limit]
    exact selected
  rw [selectAll, selectUpTo_of_collecting aggregate] at selected
  rcases Outcome.bind_eq_ok.1 selected with ⟨arguments, expanded, selected⟩
  rcases Outcome.bind_eq_ok.1 selected with ⟨row, projected, selected⟩
  rcases Outcome.bind_eq_ok.1 selected with ⟨leaves, walked, same⟩
  have items : (query.route.trail arguments value).items = leaves := by
    rw [Trail.result] at walked
    split at walked
    · cases walked
    · exact Except.ok.inj walked
  rw [items] at projected
  rcases shows leaves row projected with ⟨entries, rfl, each⟩
  cases same
  have all : query.allLeaves value args = .ok leaves := by
    rw [allLeaves, expanded]
    exact walked
  refine ⟨source, leaves, entries, known, all, ?_, each, rfl, fun limit => ⟨alike limit, ?_⟩⟩
  · rw [count_eq_length_allLeaves, all]
    rfl
  · change (do return (← query.selectUpTo _ value args).head?) = _
    rw [alike]
    rfl

/-- The numbers of all active nodes, and the last of them. -/
def numbers : String :=
  "SELECT ARRAY_AGG(ID) AS All, ID AS Last FROM `/Items[Active]/Nodes` LIMIT 0"

/-- A catalogue with three active nodes. -/
def threeActive : Value :=
  .object [("Items", .array [item true [1, 2], .null, item false [3], item true [4]])]

/-- A limit of zero makes no difference. -/
theorem collects_one_row_numbers :
    ∃ query leaves entries, compile numbers catalogue none = .ok query ∧ query.limit = some 0 ∧
      query.allLeaves threeActive [] = .ok leaves ∧ leaves.length = 3 ∧
      query.selectAll threeActive [] = .ok [.object entries] := by
  have runs : (do
      let select ← Sql.parseSelect numbers
      let query ← compile numbers catalogue none
      let rows ← query.selectAll threeActive []
      let count ← query.count threeActive []
      return (select.columns.any fun column =>
        (ColumnSource.ofColumn column).toOption.any ColumnSource.aggregate,
          query.limit, rows.length, count)).toOption = some (true, some 0, 1, 3) := by
    decide +kernel
  rcases Outcome.bind_eq_ok.1 (Outcome.toOption_eq_some.1 runs) with ⟨select, parsed, runs⟩
  rcases Outcome.bind_eq_ok.1 runs with ⟨query, compiled, runs⟩
  rcases Outcome.bind_eq_ok.1 runs with ⟨rows, selected, runs⟩
  rcases Outcome.bind_eq_ok.1 runs with ⟨count, counted, runs⟩
  simp only [Outcome.pure_eq, Except.ok.injEq, Prod.mk.injEq] at runs
  rcases runs with ⟨collects, limit, -, rfl⟩
  rcases List.any_eq_true.1 collects with ⟨column, member, collects⟩
  rcases (Option.any_eq_true _ _).1 collects with ⟨wanted, ofColumn, collects⟩
  have collecting : Projection.Collecting column :=
    ⟨wanted, Outcome.toOption_eq_some.1 ofColumn, collects⟩
  obtain ⟨-, leaves, entries, -, all, length, -, rfl, -⟩ :=
    collects_one_row compiled parsed ⟨column, member, collecting⟩ selected
  have three : leaves.length = 3 := Except.ok.inj (length.symm.trans counted)
  exact ⟨query, leaves, entries, compiled, limit, all, three, selected⟩

end RecordQuery.Query
