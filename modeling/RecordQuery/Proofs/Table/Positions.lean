import RecordQuery.Proofs.Table.Asked
import RecordQuery.Proofs.Table.Folding
import RecordQuery.Route.Walk

/-!
# The arguments of a statement over a table

A run of a SELECT gives the arguments one after the other to the placeholders that the folded
SELECT asks for. The text numbers its placeholders from left to right. So every placeholder gets
the argument at its place in the text exactly when folding has kept all placeholders, once each and
in the order of the text.
-/

namespace RecordQuery

open Outcome
open Sql (Expr Column)

/-! ## What a run shows and asks for -/

/-- The outcome of a condition for a record, with a value given for each placeholder. Without a
condition every record passes. -/
def Scope.testWhere (scope : Scope) (given : Nat → Value) (record : Value) :
    Option Expr → QueryResult Bool
  | none => .ok true
  | some expr => scope.test given record expr

/-- A scan shows and asks for what a flat SELECT says when each placeholder has a given value. -/
structure Scan.Follows (scan : Scan) (now : Instant) (table : String) (select : Sql.Select)
    (given : Nat → Value) : Prop where
  columns : RowPlan.shownAll now scan.type given select.columns = .ok scan.plan.columns
  condition : ∀ record, Route.passes scan.filter record scan.arguments =
    Scope.testWhere ⟨scan.type, true, table⟩ given record select.filter

/-- A folded SELECT reads from a table. -/
theorem Sql.Select.exists_table_flatten (select : Select) :
    ∃ table, select.flatten.table? = some table := by
  fun_induction flatten select with
  | case1 columns name offset filter limit => exact ⟨name, rfl⟩
  | case2 columns inner offset filter limit ih => exact ih

namespace Connection

variable {connection : Connection} {files : Files} {now : Instant} {args : List Value}
  {cursor : Cursor} {table sql : String} {select : Sql.Select} {prepared : Prepared}
  {type : RecordType} {filter : Option Expr} {condition : Option Condition} {binding : Binding}

/-- A bound WHERE takes one argument for each of its placeholders. -/
theorem placeholders_of_bindFilter
    (found : bindFilter type table filter = .ok (condition, binding)) :
    binding.placeholders = (Sql.filterPlaceholders filter).length := by
  cases filter with
  | none =>
      cases found
      rfl
  | some expr =>
      rcases Outcome.bind_eq_ok.1 found with ⟨⟨test, bound⟩, compiled, same⟩
      cases same
      exact (Condition.states_of_ofExpr compiled).count.trans (Nat.zero_add _)

/-- A bound WHERE tests records by the arguments that its placeholders are given. -/
theorem passes_of_bindFilter {arguments : Arguments}
    (found : bindFilter type table filter = .ok (condition, binding))
    (expanded : binding.expand args = .ok arguments) {given : Nat → Value}
    (placed : (Sql.filterPlaceholders filter).map given = args) (record : Value) :
    Route.passes condition record arguments =
      Scope.testWhere ⟨type, true, table⟩ given record filter := by
  have ordered : binding.Ordered := (bindFilter_eq_ok found).1
  cases filter with
  | none =>
      cases found
      rfl
  | some expr =>
      rcases Outcome.bind_eq_ok.1 found with ⟨⟨test, bound⟩, compiled, same⟩
      cases same
      refine (Condition.states_of_ofExpr compiled).same (.refl _) ordered expanded given ?_ record
      rw [← placed]
      exact List.prefix_rfl

/-- A run that succeeds has one argument for each placeholder that the SELECT asks for. It follows
the SELECT when these have the arguments as their values. -/
theorem follows_of_query (flat : prepared.statement = .select select)
    (source : select.table? = some table)
    (found : connection.query files now prepared args = .ok cursor) :
    args.length = select.asked.length ∧
      ∀ given : Nat → Value, select.asked.map given = args →
        cursor.scan.Follows now table select given := by
  rcases query_eq_ok_iff.1 found with ⟨own, name, type, flat', source', -, ran⟩
  cases flat.symm.trans flat'
  cases source.symm.trans source'
  rcases runOver_eq_ok ran with
    ⟨plan, condition, binding, arguments, resource, compiled, bound, expanded, -, rfl⟩
  rcases RowPlan.compile_eq_ok_iff.1 compiled with ⟨enough, shows, consumed⟩
  have rest := (Binding.expand_eq_ok (bindFilter_eq_ok bound).1 expanded).1
  rw [List.length_drop, consumed, placeholders_of_bindFilter bound] at rest
  refine ⟨?_, fun given placed => ?_⟩
  · rw [Sql.Select.asked, List.length_append]
    change _ = RowPlan.askedCount select.columns + _
    omega
  · rw [Sql.Select.asked, List.map_append] at placed
    have front : (select.columns.flatMap Column.asked).map given <+: args.drop 0 := ⟨_, placed⟩
    have behind : (Sql.filterPlaceholders select.filter).map given = args.drop plan.consumed := by
      rw [consumed, ← placed]
      exact (List.drop_left' (List.length_map ..)).symm
    exact ⟨(RowPlan.shownAll_eq_shownFrom front).trans shows,
      passes_of_bindFilter bound expanded behind⟩

/-- The columns of a run take the arguments in turn. -/
theorem shownFrom_of_query (flat : prepared.statement = .select select)
    (source : select.table? = some table)
    (found : connection.query files now prepared args = .ok cursor) :
    RowPlan.shownFrom now cursor.scan.type args 0 select.columns =
      .ok cursor.scan.plan.columns := by
  rcases query_eq_ok_iff.1 found with ⟨own, name, type, flat', source', -, ran⟩
  cases flat.symm.trans flat'
  cases source.symm.trans source'
  rcases runOver_eq_ok ran with ⟨plan, -, -, -, -, compiled, -, -, -, rfl⟩
  exact (RowPlan.compile_eq_ok_iff.1 compiled).2.1

/-! ## Enough arguments -/

theorem spares_locateFor (table : String) (condition : Option Condition) :
    Spares TableError.OfCount (connection.locateFor files table condition) := by
  rw [locateFor]
  split
  · exact spares_ok _
  · refine spares_bind ?_ fun resource _ => spares_ok _
    rw [Resource.locate]
    split
    · exact spares_error id
    · split
      · exact spares_ok _
      · exact spares_error id
    · split
      · exact spares_ok _
      · exact spares_error id

/-- With one argument for each placeholder that the SELECT asks for, no run is refused for their
number. -/
theorem spares_query (flat : prepared.statement = .select select)
    (source : select.table? = some table) (enough : args.length = select.asked.length) :
    Spares TableError.OfCount (connection.query files now prepared args) := by
  rcases prepared with ⟨sql, statement⟩
  cases flat
  rw [Sql.Select.asked, List.length_append] at enough
  rw [query_eq_runOver source]
  refine spares_bind ?_ fun type _ => ?_
  · rw [typeOf]
    cases connection.types.lookup? table with
    | some type => exact spares_ok _
    | none => exact RowPlan.spares_detect table select.columns
  · have front : RowPlan.askedCount select.columns ≤ args.length := enough ▸ Nat.le_add_right _ _
    refine spares_bind (RowPlan.spares_compile front) fun plan compiled => ?_
    refine spares_bind (TableResult.spares_ofQuery ?_) fun pair bound => ?_
    · cases select.filter with
      | none => exact spares_ok _
      | some expr => exact spares_bind (Condition.spares_ofExpr expr .empty) fun _ _ => spares_ok _
    · rcases pair with ⟨condition, binding⟩
      have count := placeholders_of_bindFilter (TableResult.ofQuery_eq_ok.1 bound)
      have behind : (args.drop plan.consumed).length = binding.placeholders := by
        rw [List.length_drop, (RowPlan.compile_eq_ok_iff.1 compiled).2.2, count, enough]
        exact Nat.add_sub_cancel_left _ _
      refine spares_bind (TableResult.spares_ofQuery (Binding.spares_expand behind)) fun _ _ => ?_
      exact spares_bind (spares_locateFor table condition) fun resource _ => spares_ok _

/-! ## Arguments by position -/

/-- Every run of a statement has one argument for each placeholder of a text and gives each
placeholder the argument at its place, and no run with as many arguments is refused for their
number. -/
structure BindsByPosition (connection : Connection) (files : Files) (now : Instant)
    (prepared : Prepared) (table : String) (select : Sql.Select) (count : Nat) : Prop where
  length : ∀ {args : List Value} {cursor : Cursor},
    connection.query files now prepared args = .ok cursor → args.length = count
  places : ∀ {args : List Value} {cursor : Cursor},
    connection.query files now prepared args = .ok cursor →
    cursor.scan.Follows now table select fun index => args.getD index .null
  enough : ∀ {args : List Value}, args.length = count →
    Spares TableError.OfCount (connection.query files now prepared args)

/-- A SELECT that asks for its placeholders in order has each bound to the argument at its place. -/
theorem bindsByPosition_of_asked {count : Nat} (flat : prepared.statement = .select select)
    (source : select.table? = some table) (asked : select.asked = List.range count) :
    connection.BindsByPosition files now prepared table select count := by
  have width : select.asked.length = count := by rw [asked, List.length_range]
  refine ⟨fun found => ?_, fun {args cursor} found => ?_, fun enough => ?_⟩
  · exact (follows_of_query flat source found).1.trans width
  · rcases follows_of_query flat source found with ⟨length, follows⟩
    refine follows _ (List.ext_getElem (by rw [List.length_map, length]) fun place inside here => ?_)
    simp only [asked, List.getElem_map, List.getElem_range]
    rw [List.getD_eq_getElem?_getD, List.getElem?_eq_getElem here]
    rfl
  · exact spares_query flat source (enough.trans width.symm)

/-- A run that succeeds can be made again with as many other arguments, if the columns are shown
with these and all that are left for the condition are null. -/
theorem exists_query_of_null (flat : prepared.statement = .select select)
    (source : select.table? = some table)
    (found : connection.query files now prepared args = .ok cursor) {other : List Value}
    {made : List OutputColumn} (length : other.length = args.length)
    (shows : RowPlan.shownFrom now cursor.scan.type other 0 select.columns = .ok made)
    (null : ∀ value ∈ other.drop (RowPlan.askedCount select.columns), value = .null) :
    ∃ last, connection.query files now prepared other = .ok last ∧
      last.scan.type = cursor.scan.type ∧ last.scan.plan.columns = made := by
  rcases query_eq_ok_iff.1 found with ⟨own, name, type, flat', source', known, ran⟩
  cases flat.symm.trans flat'
  cases source.symm.trans source'
  rcases runOver_eq_ok ran with
    ⟨plan, condition, binding, arguments, resource, compiled, bound, expanded, located, rfl⟩
  rcases RowPlan.compile_eq_ok_iff.1 compiled with ⟨enough, -, consumed⟩
  have again : RowPlan.compile ⟨now, type, other⟩ select.columns =
      .ok ⟨made, RowPlan.askedCount select.columns⟩ :=
    RowPlan.compile_eq_ok_iff.2 ⟨length ▸ enough, shows, rfl⟩
  have count := (Binding.expand_eq_ok (bindFilter_eq_ok bound).1 expanded).1
  rw [List.length_drop, consumed, ← length, ← List.length_drop] at count
  cases filled : binding.expand (other.drop (RowPlan.askedCount select.columns)) with
  | error error =>
      rcases Binding.expand_eq_error count filled with
        ⟨group, -, slot, -, index, value, -, here, refused, -⟩
      rw [null value (List.mem_of_getElem? here)] at refused
      cases refused
  | ok filling =>
      let columns : RowPlan := ⟨made, RowPlan.askedCount select.columns⟩
      have runs : connection.runOver files now table select other type = .ok (.start
          { type, plan := columns, filter := condition, arguments := filling, resource,
            maxLineBytes := connection.options.maxLineBytes, limit := select.limit }) := by
        rw [runOver, again, Outcome.ok_bind, bound]
        simp only [TableResult.ofQuery, Outcome.ok_bind, filled, located]
        rfl
      exact ⟨_, query_eq_ok_iff.2 ⟨select, table, type, flat, source, known, runs⟩, rfl, rfl⟩

/-- Arguments of which one is a given value and all others are null. -/
theorem exists_single (value : Value) {place count : Nat} (inside : place < count) :
    ∃ others : List Value, others.length = count ∧ others.getD place .null = value ∧
      ∀ other, other ≠ place → others.getD other .null = .null := by
  refine ⟨(List.replicate count .null).set place value, ?_, ?_, fun other apart => ?_⟩
  · rw [List.length_set, List.length_replicate]
  · rw [List.getD_eq_getElem?_getD,
      List.getElem?_set_self (inside.trans_eq List.length_replicate.symm)]
    rfl
  · rw [List.getD_eq_getElem?_getD, List.getElem?_set_ne apart.symm, List.getElem?_replicate]
    split <;> rfl

/-- A SELECT that has each placeholder bound to the argument at its place asks for them in order, if
some run of it succeeds. -/
theorem asked_of_bindsByPosition {parsed : Sql.Select} {count : Nat}
    (numbered : parsed.placeholders = List.range count)
    (flat : prepared.statement = .select parsed.flatten)
    (source : parsed.flatten.table? = some table)
    (found : connection.query files now prepared args = .ok cursor)
    (binds : connection.BindsByPosition files now prepared table parsed.flatten count) :
    parsed.flatten.asked = List.range count := by
  by_contra other
  have all : parsed.flatten.asked.length = count :=
    (follows_of_query flat source found).1.symm.trans (binds.length found)
  rw [List.range_eq_range'] at numbered
  rcases parsed.asked_flatten numbered with ⟨place, width, row, -, high, before⟩
  rw [Nat.zero_add] at high
  obtain ⟨position, index, here, differs, inside⟩ := Sql.Select.exists_misplaced row high
    (fun column member index asks => (before column member index asks).2) all other
  have front : position < RowPlan.askedCount parsed.flatten.columns :=
    (List.getElem?_eq_some_iff.1 here).1
  have short : RowPlan.askedCount parsed.flatten.columns ≤ count := by
    rw [← all, Sql.Select.asked, List.length_append]
    exact Nat.le_add_right _ _
  -- A sample at that place and null elsewhere show that it went to another placeholder.
  rcases RowPlan.exists_telling (shownFrom_of_query flat source found) here with ⟨sample, tells⟩
  rcases exists_single sample (Nat.lt_of_lt_of_le front short) with
    ⟨others, length, there, elsewhere⟩
  rw [Nat.zero_add] at tells
  obtain ⟨telling, shows, wrong⟩ := tells others there elsewhere
  have null (value : Value)
      (left : value ∈ others.drop (RowPlan.askedCount parsed.flatten.columns)) : value = .null := by
    rcases List.getElem?_of_mem left with ⟨offset, own⟩
    rw [List.getElem?_drop] at own
    have apart : RowPlan.askedCount parsed.flatten.columns + offset ≠ position := by omega
    rw [← elsewhere _ apart, List.getD_eq_getElem?_getD, own]
    rfl
  rcases exists_query_of_null flat source found (length.trans (binds.length found).symm) shows null
    with ⟨last, again, same, columns⟩
  have placed := (binds.places again).columns
  rw [same, columns] at placed
  exact wrong _ (elsewhere index differs) placed

end Connection

namespace Prepared

/-- A prepared SELECT is the folded one of its text. -/
theorem exists_parsed_of_ofText {sql : String} {prepared : Prepared} {select : Sql.Select}
    (accepted : ofText sql = .ok prepared) (flat : prepared.statement = .select select) :
    ∃ parsed, Sql.parseSelect sql = .ok parsed ∧ select = parsed.flatten := by
  rw [ofText] at accepted
  split at accepted
  · cases accepted
  rcases Outcome.bind_eq_ok.1 accepted with ⟨-, -, accepted⟩
  rcases Outcome.bind_eq_ok.1 accepted with ⟨statement, read, same⟩
  cases statement with
  | register registration =>
      cases same
      cases flat
  | select parsed =>
      cases same
      cases flat
      refine ⟨parsed, ?_, rfl⟩
      rw [Sql.parseSelect, TableResult.ofQuery_eq_ok.1 read]
      rfl

theorem statement_of_select? {prepared : Prepared} {select : Sql.Select}
    (flat : prepared.select? = some select) : prepared.statement = .select select := by
  rw [select?] at flat
  split at flat
  · rename_i selected statement
    cases flat
    exact statement
  · cases flat

/-- The arguments of a SELECT over tables. A run takes one argument for each placeholder that the
folded SELECT asks for, first those of the column list and then those of the condition, and gives
them the arguments in this order. With as many no run is refused for their number. As soon as one
run succeeds, each placeholder of the text is bound to the argument at its place exactly when
the folded SELECT asks for all of them, in the order of the text. -/
theorem bindsByPosition_iff_asked {sql : String} {prepared : Prepared} {select : Sql.Select}
    (accepted : ofText sql = .ok prepared) (flat : prepared.statement = .select select) :
    ∃ parsed table, Sql.parseSelect sql = .ok parsed ∧ select = parsed.flatten ∧
      parsed.placeholders = List.range (Sql.placeholdersIn sql) ∧ select.table? = some table ∧
      ∀ (connection : Connection) (files : Files) (now : Instant),
        (∀ (args : List Value) (cursor : Cursor),
          connection.query files now prepared args = .ok cursor →
            args.length = select.asked.length ∧
            ∀ given : Nat → Value, select.asked.map given = args →
              cursor.scan.Follows now table select given) ∧
        (∀ args : List Value, args.length = select.asked.length →
          Spares TableError.OfCount (connection.query files now prepared args)) ∧
        (select.asked = List.range (Sql.placeholdersIn sql) →
          connection.BindsByPosition files now prepared table select (Sql.placeholdersIn sql)) ∧
        ∀ (args : List Value) (cursor : Cursor),
          connection.query files now prepared args = .ok cursor →
          (connection.BindsByPosition files now prepared table select (Sql.placeholdersIn sql) ↔
            select.asked = List.range (Sql.placeholdersIn sql)) := by
  rcases exists_parsed_of_ofText accepted flat with ⟨parsed, read, rfl⟩
  rcases parsed.exists_table_flatten with ⟨table, source⟩
  have numbered := Sql.placeholders_of_parseSelect read
  refine ⟨parsed, table, read, rfl, numbered, source, fun connection files now => ⟨?_, ?_, ?_, ?_⟩⟩
  · intro args cursor found
    exact Connection.follows_of_query flat source found
  · intro args enough
    exact Connection.spares_query flat source enough
  · exact Connection.bindsByPosition_of_asked flat source
  · intro args cursor found
    exact ⟨Connection.asked_of_bindsByPosition numbered flat source found,
      Connection.bindsByPosition_of_asked flat source⟩

/-- A cast and the condition behind it are kept in order. -/
theorem bindsByPosition_kept :
    ∃ prepared select,
      ofText "SELECT * FROM (SELECT CAST(? AS int) AS A FROM Foo WHERE Id > ?)" = .ok prepared ∧
        prepared.statement = .select select ∧
        ∀ (connection : Connection) (files : Files) (now : Instant),
          connection.BindsByPosition files now prepared "Foo" select 2 := by
  have known : (do
      let prepared ← ofText "SELECT * FROM (SELECT CAST(? AS int) AS A FROM Foo WHERE Id > ?)"
      return prepared.select?.map fun select : Sql.Select => (select.asked, select.table?)).toOption =
        some (some ([0, 1], some "Foo")) := by
    decide +kernel
  rcases Outcome.bind_eq_ok.1 (Outcome.toOption_eq_some.1 known) with ⟨prepared, accepted, same⟩
  rcases Option.map_eq_some_iff.1 (Except.ok.inj same) with ⟨select, flat, told⟩
  rcases Prod.mk.inj told with ⟨asked, table⟩
  have own := statement_of_select? flat
  obtain ⟨parsed, name, -, -, -, source, all⟩ := bindsByPosition_iff_asked accepted own
  cases source.symm.trans table
  refine ⟨prepared, select, accepted, own, fun connection files now => ?_⟩
  have two : Sql.placeholdersIn "SELECT * FROM (SELECT CAST(? AS int) AS A FROM Foo WHERE Id > ?)" =
      2 := by
    decide +kernel
  have kept := (all connection files now).2.2.1
  rw [two] at kept
  exact kept asked

/-- The name of a column with the number that it shows on all rows. -/
def numbered (column : OutputColumn) : String × Option Int64 :=
  match column.source with
  | .constant (.number number) => (column.name, number.signed?)
  | _ => (column.name, none)

/-- Two casts that the outer SELECT shows the other way round get each other's argument. -/
theorem not_bindsByPosition_swapped :
    ∃ prepared select cursor,
      ofText "SELECT B, A FROM (SELECT CAST(? AS int) AS A, CAST(? AS int) AS B FROM single)" =
        .ok prepared ∧
      prepared.statement = .select select ∧
      Connection.query Sql.Select.fooConnection Sql.Select.fooFiles ⟨0, 0⟩ prepared
        [.ofInt64 1, .ofInt64 2] = .ok cursor ∧
      cursor.scan.plan.columns.map numbered = [("B", some 1), ("A", some 2)] ∧
      ¬ Sql.Select.fooConnection.BindsByPosition Sql.Select.fooFiles ⟨0, 0⟩ prepared "single" select
        2 := by
  have known : (do
      let prepared ←
        ofText "SELECT B, A FROM (SELECT CAST(? AS int) AS A, CAST(? AS int) AS B FROM single)"
      let cursor ← Sql.Select.fooConnection.query Sql.Select.fooFiles ⟨0, 0⟩ prepared
        [.ofInt64 1, .ofInt64 2]
      let columns := (prepared.select?.map Sql.Select.columns).getD []
      let wanted ← RowPlan.shownAll ⟨0, 0⟩ cursor.scan.type
        (fun index => [Value.ofInt64 1, .ofInt64 2].getD index .null) columns
      return (cursor.scan.plan.columns.map numbered, wanted.map numbered)).toOption =
        some ([("B", some 1), ("A", some 2)], [("B", some 2), ("A", some 1)]) := by
    decide +kernel
  rcases Outcome.bind_eq_ok.1 (Outcome.toOption_eq_some.1 known) with ⟨prepared, accepted, known⟩
  rcases Outcome.bind_eq_ok.1 known with ⟨cursor, found, known⟩
  rcases Outcome.bind_eq_ok.1 known with ⟨wanted, shows, same⟩
  rcases Prod.mk.inj (Except.ok.inj same) with ⟨shown, asked⟩
  rcases Connection.query_eq_ok_iff.1 found with ⟨select, -, -, flat, -, -, -⟩
  refine ⟨prepared, select, cursor, accepted, flat, found, shown, fun binds => ?_⟩
  have placed := (binds.places found).columns
  rw [select?, flat] at shows
  cases shows.symm.trans placed
  rw [shown] at asked
  exact absurd asked (by decide)

end Prepared

end RecordQuery
