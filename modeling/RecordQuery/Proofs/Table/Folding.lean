import RecordQuery.Proofs.Route.Conforming
import RecordQuery.Proofs.Table.Nest
import RecordQuery.Proofs.Table.Run

/-!
# Folded SELECTs

A SELECT from another SELECT is run as one SELECT over the table of the innermost, in
which a clause of an outer SELECT replaces those inside it. The main theorem says exactly
when such a run shows what the nest asks for. It always does where all columns are shown
again and no second condition or limit is set; it does not where a condition is lost.
-/

namespace RecordQuery

open Sql (Select)

variable {now : Instant} {type : RecordType} {name sql : String} {select : Select} {stage : Stage}
  {nest : Nest} {connection : Connection} {files : Files} {table : Table} {args : List Value}
  {cursor : RecordQuery.Cursor}

/-! ## Binding the SELECTs of a nest -/

/-- What a WHERE is bound to is a condition on records of the type, over the slots and sets of its
binding. -/
theorem Connection.bindFilter_eq_ok {filter : Option Sql.Expr} {condition : Option Condition}
    {binding : Binding} (found : bindFilter type name filter = .ok (condition, binding)) :
    binding.Ordered ∧ ∀ test, condition = some test → test.Typed type binding.groups := by
  cases filter with
  | none =>
      cases found
      exact ⟨Binding.ordered_empty, by simp⟩
  | some expr =>
      rcases Outcome.bind_eq_ok.1 found with ⟨⟨made, last⟩, bound, same⟩
      cases same
      rcases Condition.ofExpr_eq_ok bound with ⟨grown, typed⟩
      refine ⟨grown.ordered Binding.ordered_empty, ?_⟩
      intro test same
      cases same
      exact typed

namespace Stage

/-- Binds the clauses of a SELECT to the type of what it reads. -/
def ofSelect (context : RowPlan.Context) (name : String) (select : Select) (args : List Value) :
    TableResult Stage := do
  let plan ← RowPlan.compile context select.columns
  let (filter, binding) ←
    TableResult.ofQuery (Connection.bindFilter context.type name select.filter)
  let arguments ← TableResult.ofQuery (binding.expand args)
  return ⟨plan, filter, arguments, select.limit⟩

/-- A SELECT is bound with some arguments for its columns and its condition. -/
def Binds (now : Instant) (type : RecordType) (name : String) (select : Select) (stage : Stage) :
    Prop :=
  ∃ casts args, ofSelect ⟨now, type, casts⟩ name select args = .ok stage

theorem ofSelect_eq_ok {context : RowPlan.Context} :
    ofSelect context name select args = .ok stage ↔
      RowPlan.compile context select.columns = .ok stage.plan ∧
        (∃ binding, Connection.bindFilter context.type name select.filter =
          .ok (stage.filter, binding) ∧ binding.expand args = .ok stage.arguments) ∧
        stage.limit = select.limit := by
  constructor
  · intro found
    rcases Outcome.bind_eq_ok.1 found with ⟨plan, compiled, found⟩
    rcases Outcome.bind_eq_ok.1 found with ⟨⟨filter, binding⟩, bound, found⟩
    rcases Outcome.bind_eq_ok.1 found with ⟨arguments, expanded, same⟩
    cases same
    have bound := TableResult.ofQuery_eq_ok.1 bound
    have expanded := TableResult.ofQuery_eq_ok.1 expanded
    exact ⟨compiled, ⟨binding, bound, expanded⟩, rfl⟩
  · rintro ⟨compiled, ⟨binding, bound, expanded⟩, limit⟩
    rw [ofSelect, compiled, TableResult.ofQuery_eq_ok.2 bound]
    simp only [Outcome.ok_bind, TableResult.ofQuery_eq_ok.2 expanded, ← limit]
    rfl

/-- The condition of a bound SELECT has an answer on every record of its type. -/
theorem Binds.answers (binds : stage.Binds now type name select) {given : Fields}
    (orders : type.Orders given) :
    ∃ passed, Route.passes stage.filter (.object given) stage.arguments = .ok passed := by
  rcases binds with ⟨casts, args, found⟩
  rcases ofSelect_eq_ok.1 found with ⟨-, ⟨binding, bound, expanded⟩, -⟩
  rcases Connection.bindFilter_eq_ok bound with ⟨ordered, typed⟩
  exact Route.passes_of_typed typed (Binding.fills_of_expand ordered expanded) orders

end Stage

/-- A nest holds the clauses of a SELECT and of those that it reads from. Each is bound to
the rows of the one inside it, the innermost to the records of the table. -/
inductive Sql.Select.Reads (now : Instant) (type : RecordType) (name : String) :
    Select → Nest → Prop
  | table {select : Select} {stage : Stage} (source : select.source = .table name)
      (binds : stage.Binds now type name select) : Reads now type name select (.table stage)
  | nested {select inner : Select} {nest : Nest} {stage : Stage}
      (source : select.source = .nested inner)
      (inside : Reads now type name inner nest)
      (binds : stage.Binds now (nest.stage.view name) name select) :
      Reads now type name select (.around stage nest)

/-! ## Runs of the folded SELECT -/

namespace Sql.Select

theorem flatten_of_table (source : select.source = .table name) : select.flatten = select := by
  rcases select with ⟨columns, source_, offset, filter, limit⟩
  cases source
  rw [flatten]

theorem flatten_of_nested {inner : Select} (source : select.source = .nested inner) :
    select.flatten = select.merge inner.flatten := by
  rcases select with ⟨columns, source_, offset, filter, limit⟩
  cases source
  rw [flatten]

/-- Folding ends at the table of the innermost SELECT. -/
theorem Reads.source_flatten (reads : select.Reads now type name nest) :
    select.flatten.source = .table name := by
  induction reads with
  | table source binds => rw [flatten_of_table source, source]
  | nested source inside binds ih =>
      rw [flatten_of_nested source]
      exact ih

end Sql.Select

namespace Connection

/-- A name stands for a table: its type is known on the connection, and its file is there. -/
structure Serves (connection : Connection) (files : Files) (name : String) (table : Table) :
    Prop where
  type : connection.types.lookup? name = some table.type
  resource : Resource.locate files connection.location.path name connection.options.extensions =
    .ok table.resource
  maxLineBytes : connection.options.maxLineBytes = table.maxLineBytes

/-- What a run is made of, be the type of the table known or told by the columns. -/
theorem binds_of_query {prepared : Prepared}
    (found : connection.query files now prepared args = .ok cursor) :
    ∃ select table scan, prepared.statement = .select select ∧ select.table? = some table ∧
      cursor = .start scan ∧ connection.typeOf table select.columns = .ok scan.type ∧
      scan.maxLineBytes = connection.options.maxLineBytes ∧
      scan.stage.Binds now scan.type table select ∧
      connection.locateFor files table scan.filter = .ok scan.resource := by
  rcases query_eq_ok_iff.1 found with ⟨select, table, type, statement, source, known, run⟩
  rcases runOver_eq_ok run with ⟨plan, filter, binding, arguments, place, compiled, bound,
    expanded, located, rfl⟩
  refine ⟨select, table, _, statement, source, rfl, known, rfl, ?_, located⟩
  exact ⟨args, args.drop plan.consumed,
    Stage.ofSelect_eq_ok.2 ⟨compiled, ⟨binding, bound, expanded⟩, rfl⟩⟩

/-- What the run of a SELECT over a table of a known type is made of. -/
theorem query_eq_ok (known : connection.types.lookup? name = some type)
    (source : select.source = .table name)
    (found : connection.query files now ⟨sql, .select select⟩ args = .ok cursor) :
    ∃ scan, cursor = .start scan ∧ scan.type = type ∧
      scan.maxLineBytes = connection.options.maxLineBytes ∧ scan.stage.Binds now type name select ∧
      connection.locateFor files name scan.filter = .ok scan.resource := by
  have reads : select.table? = some name := by rw [Select.table?, source]
  rcases binds_of_query found with
    ⟨other, table, scan, statement, same, started, typed, bytes, binds, located⟩
  cases statement
  cases reads.symm.trans same
  rw [typeOf, known] at typed
  cases typed
  exact ⟨scan, started, rfl, bytes, binds, located⟩

theorem locateFor_eq_ok {condition : Option Condition} {place : Option Resource}
    (serves : connection.Serves files name table)
    (found : connection.locateFor files name condition = .ok place) :
    (condition.bind Condition.constant? = some false ∧ place = none) ∨
      (condition.bind Condition.constant? ≠ some false ∧ place = some table.resource) := by
  rcases locateFor_eq_ok_iff.1 found with never | ⟨possible, resource, rfl, located⟩
  · exact .inl never
  · cases serves.resource.symm.trans located
    exact .inr ⟨possible, rfl⟩

variable (serves : connection.Serves files name table) (source : select.source = .table name)
  (found : connection.query files now ⟨sql, .select select⟩ args = .ok cursor)

include serves source found

/-- The run of a SELECT shows its rows of the records of the table. -/
theorem rows_of_query (content : Content) (later : Files) :
    (cursor.opened content).rows later = cursor.scan.stage.rows (table.records content) := by
  rcases query_eq_ok serves.type source found with ⟨scan, rfl, type, bytes, binds, place⟩
  have same : table = scan.table table.resource := by
    rw [Scan.table, type, bytes, serves.maxLineBytes]
  rcases locateFor_eq_ok serves place with ⟨never, unknown⟩ | ⟨possible, known⟩
  · have nothing : scan.stage.bound = some 0 := if_pos never
    rw [Cursor.rows_opened_none unknown, Cursor.start, Stage.rows, nothing, within_zero]
  · rw [same]
    refine Cursor.rows_opened known possible ?_ content
    intro record holds
    rw [← same] at holds
    rcases Table.admits_of_holds holds with ⟨given, rfl, admits⟩
    exact binds.answers admits.orders

/-- The file counts when the rows are asked for. -/
theorem rows_eq_opened (later : Files) :
    cursor.rows later = (cursor.opened (table.resource.content later)).rows later := by
  rcases query_eq_ok serves.type source found with ⟨scan, rfl, -, -, -, place⟩
  rcases locateFor_eq_ok serves place with ⟨-, unknown⟩ | ⟨-, known⟩
  · rw [Cursor.rows_start_none unknown, Cursor.rows_opened_none unknown]
  · exact Cursor.rows_start known

end Connection

/-! ## SELECTs that wrap a SELECT -/

/-- SELECTs of all columns around a SELECT from a table. Only the innermost has a
condition, and only one has a limit. -/
inductive Sql.Select.Wraps (name : String) : Select → Prop
  | table {select : Select} (source : select.source = .table name) : Wraps name select
  | nested {select inner : Select} (source : select.source = .nested inner)
      (inside : Wraps name inner)
      (columns : select.columns = [.star]) (filter : select.filter = none)
      (limit : select.limit = none ∨ inner.flatten.limit = none) : Wraps name select

namespace RecordType

/-- All fields by their positions make up the whole row. -/
theorem values_accessorsFrom {index : Nat} {fields : List (String × Schema)} {row : List Value}
    (length : row.length = index + fields.length) :
    ((accessorsFrom index fields).map fun field => (field.index.bind (row[·]?)).getD .null) =
      row.drop index := by
  induction fields generalizing index with
  | nil => exact (List.drop_eq_nil_of_le (Nat.le_of_eq length)).symm
  | cons field rest ih =>
      have inside : index < row.length := by
        rw [length, List.length_cons]
        omega
      have later : row.length = (index + 1) + rest.length := by
        rw [length, List.length_cons]
        omega
      rw [List.drop_eq_getElem_cons inside, ← ih later]
      simp [accessorsFrom, inside]

end RecordType

namespace Stage

/-- The SELECT of all columns of another one. -/
def all (inner : Stage) (name : String) (limit : Option Nat) : Stage where
  plan := ⟨(inner.view name).accessors.map fun field => .ofField field none, 0⟩
  filter := none
  arguments := .empty
  limit := limit

theorem names_all (inner : Stage) (limit : Option Nat) :
    (inner.all name limit).names = inner.names := by
  simp only [all, names, List.map_map]
  exact (RecordType.names_accessorsFrom 0 _).trans (List.map_map ..)

theorem all_binds (inner : Stage) (columns : select.columns = [.star])
    (filter : select.filter = none) :
    (inner.all name select.limit).Binds now (inner.view name) name select := by
  refine ⟨[], [], ofSelect_eq_ok.2 ⟨?_, ⟨.empty, ?_, rfl⟩, rfl⟩⟩
  · rw [columns]
    rfl
  · rw [filter]
    rfl

/-- The SELECT of all columns keeps whole rows. -/
theorem pick_all {inner : Stage} {limit : Option Nat} {row : List Value}
    (length : row.length = inner.names.length) :
    (inner.all name limit).pick inner row = .ok row := by
  have width : row.length = 0 + (inner.view name).fields.length := by
    rw [length, names, view, List.length_map, List.length_map, Nat.zero_add]
  have whole := RecordType.values_accessorsFrom width
  rw [pick]
  simp only [all, List.map_map]
  exact congrArg Except.ok whole

theorem length_row {record : Value} {row : List Value} (found : stage.row record = .ok row) :
    row.length = stage.names.length := by
  rcases Outcome.bind_eq_ok.1 found with ⟨_, -, made⟩
  rw [names, List.length_map]
  exact (Outcome.mapM_eq_ok.1 (TableResult.ofQuery_eq_ok.1 made)).length_eq.symm

theorem length_of_mem_rows {records : List (TableResult Value)} {row : List Value}
    (member : .ok row ∈ stage.rows records) : row.length = stage.names.length := by
  rcases List.mem_map.1 (mem_of_mem_within member) with ⟨read, -, found⟩
  rcases Outcome.bind_eq_ok.1 found with ⟨record, -, found⟩
  exact length_row found

end Stage

/-- Around a nest, the SELECT of all columns shows the rows of the nest up to its limit. -/
theorem Nest.rows_all {limit : Option Nat} {records : List (TableResult Value)}
    (whole : ∀ row, .ok row ∈ nest.rows records → row.length = nest.stage.names.length) :
    (Nest.around (nest.stage.all name limit) nest).rows records =
      within limit (nest.rows records) := by
  have kept (row : TableResult (List Value)) :
      Stage.keeps ((nest.stage.all name limit).passes ∘ nest.stage.record) row = true := by
    cases row <;> rfl
  have picked (row : TableResult (List Value)) (member : row ∈ nest.rows records) :
      (row >>= (nest.stage.all name limit).pick nest.stage) = row := by
    cases row with
    | error error => rfl
    | ok row => exact Stage.pick_all (whole row member)
  rw [rows, List.filter_eq_self.2 fun row _ => kept row, List.map_congr_left picked, List.map_id']
  rfl

namespace Sql.Select.Wraps

theorem source_flatten (wraps : select.Wraps name) : select.flatten.source = .table name := by
  induction wraps with
  | table source => rw [flatten_of_table source, source]
  | nested source inside columns filter limit ih =>
      rw [flatten_of_nested source]
      exact ih

/-- Of two limits of which one is missing, the other one is the tighter. -/
theorem bound_eq {plan : RowPlan} {filter : Option Condition} {arguments : Arguments}
    {outer inner : Option Nat} (one : outer = none ∨ inner = none) :
    (Stage.mk plan filter arguments (outer.or inner)).bound =
      tighter outer (Stage.mk plan filter arguments inner).bound := by
  rw [Stage.bound, Stage.bound]
  split
  · cases outer <;> simp [tighter]
  · rcases one with rfl | rfl
    · rfl
    · cases outer <;> rfl

/-- What is bound to a folded SELECT that wraps another one is what a nest of the SELECTs
asks for. -/
theorem exists_nest (wraps : select.Wraps name) {flat : Stage}
    (binds : flat.Binds now type name select.flatten) :
    ∃ nest, select.Reads now type name nest ∧ flat.names = nest.stage.names ∧
      ∀ records, flat.rows records = nest.rows records := by
  induction wraps generalizing flat with
  | table source =>
      rw [flatten_of_table source] at binds
      exact ⟨.table flat, .table source binds, rfl, fun records => rfl⟩
  | @nested select inner source inside columns filter limit ih =>
      rcases binds with ⟨casts, args, found⟩
      rcases Stage.ofSelect_eq_ok.1 found with ⟨compiled, bound, limited⟩
      rw [flatten_of_nested source] at compiled bound limited
      simp only [merge, columns, filter, Option.none_or] at compiled bound limited
      have unlimited : ({ flat with limit := inner.flatten.limit } : Stage).Binds now type name
          inner.flatten := ⟨casts, args, Stage.ofSelect_eq_ok.2 ⟨compiled, bound, rfl⟩⟩
      rcases ih unlimited with ⟨nest, reads, names, same⟩
      refine ⟨.around (nest.stage.all name select.limit) nest,
        .nested source reads (Stage.all_binds _ columns filter), ?_, ?_⟩
      · exact names.trans (Stage.names_all nest.stage select.limit).symm
      · intro records
        have whole (row : List Value) (member : .ok row ∈ nest.rows records) :
            row.length = nest.stage.names.length := by
          rw [← same records] at member
          exact (Stage.length_of_mem_rows member).trans (congrArg List.length names)
        rw [Nest.rows_all whole, ← same records, Stage.rows, Stage.rows, within_within,
          ← bound_eq limit, ← limited]
        rfl

/-- A SELECT that wraps another one shows what the nest asks for, whatever the file holds
when its rows are asked for. -/
theorem shows_nest (wraps : select.Wraps name) (serves : connection.Serves files name table)
    (found : connection.query files now ⟨sql, .select select.flatten⟩ args = .ok cursor) :
    ∃ nest, select.Reads now table.type name nest ∧ cursor.scan.stage.names = nest.stage.names ∧
      ∀ later, cursor.rows later = nest.rows (table.records (table.resource.content later)) := by
  have source := wraps.source_flatten
  rcases Connection.query_eq_ok serves.type source found with ⟨scan, rfl, -, -, binds, -⟩
  rcases wraps.exists_nest binds with ⟨nest, reads, names, same⟩
  refine ⟨nest, reads, names, ?_⟩
  intro later
  rw [Connection.rows_eq_opened serves source found, ← same]
  exact Connection.rows_of_query serves source found _ later

end Sql.Select.Wraps

/-! ## The main theorem -/

/-- The folded SELECT runs, and shows on every content of the file what the nest of
SELECTs asks for, exactly when it runs under the same column names and the nest folds into
it: no inner limit counts rows that a condition around it drops, the condition that is
left lets just those records pass that pass them all and gives them the same rows, and the
limit that is left is the tightest. -/
theorem Sql.Select.shows_nest_iff_foldsInto (serves : connection.Serves files name table)
    (reads : select.Reads now table.type name nest) :
    (∃ cursor, connection.query files now ⟨sql, .select select.flatten⟩ args = .ok cursor ∧
      cursor.scan.stage.names = nest.stage.names ∧
      ∀ content, (cursor.opened content).rows files = nest.rows (table.records content)) ↔
    ∃ cursor, connection.query files now ⟨sql, .select select.flatten⟩ args = .ok cursor ∧
      cursor.scan.stage.names = nest.stage.names ∧
      nest.FoldsInto table cursor.scan.stage := by
  have source := reads.source_flatten
  constructor
  · rintro ⟨cursor, found, names, same⟩
    refine ⟨cursor, found, names, Nest.rows_eq_iff_foldsInto.1 ?_⟩
    intro content
    rw [← Connection.rows_of_query serves source found, same]
  · rintro ⟨cursor, found, names, folds⟩
    refine ⟨cursor, found, names, ?_⟩
    intro content
    rw [Connection.rows_of_query serves source found]
    exact Nest.rows_eq_iff_foldsInto.2 folds content

/-! ## Two runs -/

namespace Sql.Select

/-- Records with a number and a name. -/
def foo : RecordType := ⟨"Foo", [("Id", .scalar .int), ("Name", .scalar .string)]⟩

/-- A directory with one record, of the number one. -/
def fooFiles : Files where
  workingDirectory := "/"
  at? path :=
    if path == "data/Foo.json" then
      some (.file "\x7b\"Id\":1,\"Name\":\"one\"\x7d".toUTF8.toList)
    else none

def fooTable : Table := ⟨foo, ⟨"Foo", some "data/Foo.json", .json, false⟩, 1024⟩

def fooConnection : Connection where
  location := ⟨"data", "data"⟩
  options := ⟨1024, Resource.extensions⟩
  types := .register .empty "Foo" foo

/-- `SELECT Id, Name FROM Foo WHERE Id > 1`. -/
def large : Select :=
  ⟨[.field "Id" none, .field "Name" none], .table "Foo", 0,
    some (.binary (.compare .gt) (.column "Id") (.integer 1)), none⟩

/-- `SELECT * FROM (SELECT Id, Name FROM Foo WHERE Id > 1) LIMIT 2`. -/
def someLarge : Select := ⟨[.star], .nested large, 0, none, some 2⟩

/-- `SELECT * FROM (SELECT Id, Name FROM Foo WHERE Id > 1) WHERE Id < 5`. -/
def medium : Select :=
  ⟨[.star], .nested large, 0, some (.binary (.compare .lt) (.column "Id") (.integer 5)), none⟩

theorem serves_foo : fooConnection.Serves fooFiles "Foo" fooTable where
  type := rfl
  resource := Outcome.toOption_eq_some.1 (by decide +kernel)
  maxLineBytes := rfl

theorem wraps_someLarge : someLarge.Wraps "Foo" :=
  .nested rfl (.table rfl) rfl rfl (.inr rfl)

/-- Up to two large numbers are shown as asked for. -/
theorem shows_nest_someLarge :
    ∃ nest, someLarge.Reads ⟨0, 0⟩ foo "Foo" nest ∧
      ∃ cursor,
        fooConnection.query fooFiles ⟨0, 0⟩ ⟨"", .select someLarge.flatten⟩ [] = .ok cursor ∧
        cursor.scan.stage.names = nest.stage.names ∧
        ∀ content,
          (cursor.opened content).rows fooFiles = nest.rows (fooTable.records content) := by
  have runs :
      (fooConnection.query fooFiles ⟨0, 0⟩ ⟨"", .select someLarge.flatten⟩ []).isOk = true := by
    decide +kernel
  rcases Outcome.exists_of_isOk runs with ⟨cursor, found⟩
  obtain ⟨scan, rfl, -, -, binds, -⟩ :=
    Connection.query_eq_ok serves_foo.type wraps_someLarge.source_flatten found
  rcases wraps_someLarge.exists_nest binds with ⟨nest, reads, names, same⟩
  refine ⟨nest, reads, (shows_nest_iff_foldsInto serves_foo reads).2 ?_⟩
  exact ⟨_, found, names, Nest.foldsInto_of_rows_eq fun content => same _⟩

/-- The outer condition takes the place of the inner one, so a record that the inner one
rules out is shown. -/
theorem shows_ruled_out :
    ∃ nest, medium.Reads ⟨0, 0⟩ foo "Foo" nest ∧
      ∃ cursor, fooConnection.query fooFiles ⟨0, 0⟩ ⟨"", .select medium.flatten⟩ [] = .ok cursor ∧
        (cursor.rows fooFiles).length = 1 ∧
        nest.rows (fooTable.records (fooTable.resource.content fooFiles)) = [] := by
  have runs : (do
      let inner ← Stage.ofSelect ⟨⟨0, 0⟩, foo, []⟩ "Foo" large []
      let outer ← Stage.ofSelect ⟨⟨0, 0⟩, inner.view "Foo", []⟩ "Foo" medium []
      let cursor ← fooConnection.query fooFiles ⟨0, 0⟩ ⟨"", .select medium.flatten⟩ []
      let records := fooTable.records (fooTable.resource.content fooFiles)
      return ((cursor.rows fooFiles).length,
        ((Nest.around outer (.table inner)).rows records).length)).toOption = some (1, 0) := by
    decide +kernel
  rcases Outcome.bind_eq_ok.1 (Outcome.toOption_eq_some.1 runs) with ⟨inner, binds, runs⟩
  rcases Outcome.bind_eq_ok.1 runs with ⟨outer, outside, runs⟩
  rcases Outcome.bind_eq_ok.1 runs with ⟨cursor, found, counts⟩
  rcases Prod.mk.inj (Except.ok.inj counts) with ⟨shown, asked⟩
  refine ⟨.around outer (.table inner), ?_, cursor, found, shown, List.length_eq_zero_iff.1 asked⟩
  exact .nested rfl (.table rfl ⟨[], [], binds⟩) ⟨[], [], outside⟩

end Sql.Select

end RecordQuery
