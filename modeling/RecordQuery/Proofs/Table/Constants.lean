import RecordQuery.Proofs.Table.Casts
import RecordQuery.Proofs.Table.Folding

/-!
# Tables of constants

Where no record type is known for a table, the column list tells one. Every column then shows one
value on all rows, whatever the records are. The condition is still asked of the records, whose
fields have the names of the columns and hold what the lines hold, or zeros where these have
nothing. The main theorem says exactly when the run shows what it would show if the condition were
asked of its rows.
-/

namespace RecordQuery

open Sql (Expr Column Select)

/-! ## Columns that show one value -/

namespace ScalarKind

theorem compares_of_kind? {kind : ScalarKind} {value : Value} (known : value.kind? = some kind) :
    kind.compares value = true := by
  rw [Value.kind?.eq_def] at known
  split at known <;> cases known <;> rfl

theorem orders_ofExtDouble (x : ExtDouble) :
    (Value.ofExtDouble x).isNull = true ∨ ScalarKind.float.compares (.ofExtDouble x) = true := by
  cases x with
  | finite x => exact .inr rfl
  | infinite negative => exact .inl rfl

/-- A cast gives null or a value that comparisons of its kind can order. A time may be no instance
of its kind, where its year has no four digits. -/
theorem orders_of_cast? {kind : ScalarKind} {given value : Value}
    (cast : kind.cast? given = some value) : value.isNull = true ∨ kind.compares value = true := by
  rw [cast?.eq_def] at cast
  split at cast
  case h_1 => cases cast; exact .inl rfl
  case h_5 =>
      split at cast
      · cases cast; exact .inr rfl
      · split at cast <;> cases cast
        exact .inr rfl
  case h_6 | h_10 | h_11 =>
      rcases Option.map_eq_some_iff.1 cast with ⟨_, -, rfl⟩
      exact .inr rfl
  case h_8 =>
      rcases Option.map_eq_some_iff.1 cast with ⟨literal, -, rfl⟩
      cases literal with
      | number x => exact orders_ofExtDouble x
      | notANumber => exact .inl rfl
  case h_12 => cases cast
  all_goals
    cases cast
    exact .inr rfl

end ScalarKind

/-- A column of a kind that shows the same value, or null, on all rows. -/
structure OutputColumn.Constant (kind : ScalarKind) (column : OutputColumn) (value : Value) :
    Prop where
  schema : column.schema = .scalar kind
  source : column.source = .constant value
  orders : value.isNull = true ∨ kind.compares value = true

/-- A field of a record type with the column of its name that shows one value. -/
def OutputColumn.Fills (field : String × Schema) (column : OutputColumn) : Prop :=
  ∃ kind value, field = (column.name, .scalar kind) ∧ column.Constant kind value

namespace RowPlan

variable {table : String} {now : Instant} {type : RecordType} {args : List Value}
  {column : Column} {columns : List Column}

/-- A column that tells a field of the table shows one value for it. -/
theorem fills_of_detect {label : String} {kind : ScalarKind} {given : Nat → Value}
    {made : List OutputColumn} (detected : column.detect table = .ok (label, kind))
    (shows : shown now type given column = .ok made) :
    ∃ one, made = [one] ∧ OutputColumn.Fills (label, .scalar kind) one := by
  cases column with
  | star => cases detected
  | field name own => cases detected
  | expression expr own =>
      rcases Outcome.bind_eq_ok.1 detected with ⟨name, labelled, detected⟩
      rcases Outcome.bind_eq_ok.1 shows with ⟨one, built, same⟩
      rcases Outcome.bind_eq_ok.1 built with ⟨_, same', built⟩
      cases same
      cases labelled.symm.trans same'
      cases literal : expr.literal? with
      | none =>
          rw [literal] at built
          cases built
      | some value =>
          rw [literal, Option.bind_some] at detected
          rw [literal] at built
          cases known : value.kind? with
          | none =>
              rw [known] at detected
              cases detected
          | some kind =>
              simp only [known] at detected built
              cases detected
              cases built
              exact ⟨_, rfl, kind, value, rfl, rfl, rfl, .inr (ScalarKind.compares_of_kind? known)⟩
  | call name parts own =>
      rcases Outcome.bind_eq_ok.1 detected with ⟨function, named, detected⟩
      simp only [shown, named, Outcome.ok_bind] at shows
      cases function with
      | now =>
          cases detected
          cases shows
          exact ⟨_, rfl, .time, _, rfl, rfl, rfl, .inr rfl⟩
      | cast =>
          rcases Outcome.bind_eq_ok.1 detected with ⟨⟨kind, source⟩, split, same⟩
          cases same
          simp only [split, Outcome.ok_bind] at shows
          rcases Outcome.bind_eq_ok.1 shows with ⟨start, -, shows⟩
          rcases Outcome.bind_eq_ok.1 shows with ⟨value, cast, same⟩
          cases same
          have orders := ScalarKind.orders_of_cast? (ScalarKind.cast_eq_ok_iff.1 cast)
          exact ⟨_, rfl, kind, value, rfl, rfl, rfl, orders⟩

theorem fills_of_shownFrom {fields : List (String × ScalarKind)} {taken : Nat}
    {made : List OutputColumn} (detected : columns.mapM (Column.detect table) = .ok fields)
    (shows : shownFrom now type args taken columns = .ok made) :
    List.Forall₂ OutputColumn.Fills (fields.map fun field => (field.1, .scalar field.2)) made := by
  induction columns generalizing fields taken made with
  | nil =>
      cases detected
      cases shows
      exact .nil
  | cons column rest ih =>
      rw [List.mapM_cons] at detected
      rcases Outcome.bind_eq_ok.1 detected with ⟨⟨label, kind⟩, detects, detected⟩
      rcases Outcome.bind_eq_ok.1 detected with ⟨others, detectsRest, same⟩
      cases same
      rcases Outcome.bind_eq_ok.1 shows with ⟨first, showsFirst, shows⟩
      rcases Outcome.bind_eq_ok.1 shows with ⟨behind, showsRest, same⟩
      cases same
      rcases fills_of_detect detects showsFirst with ⟨one, rfl, fills⟩
      exact .cons fills (ih detectsRest showsRest)

/-- The type that a column list tells has just the fields that its columns fill. -/
theorem fills_of_compile {plan : RowPlan} (detected : RecordType.detect table columns = .ok type)
    (compiled : compile ⟨now, type, args⟩ columns = .ok plan) :
    type.name = table ∧ List.Forall₂ OutputColumn.Fills type.fields plan.columns := by
  rcases Outcome.bind_eq_ok.1 detected with ⟨fields, detects, same⟩
  cases same
  exact ⟨rfl, fills_of_shownFrom detects (compile_eq_ok_iff.1 compiled).2.1⟩

end RowPlan

/-! ## Their rows -/

section Rows

variable {fields : List (String × Schema)} {columns : List OutputColumn}

/-- Columns that fill fields show one row for all records. -/
theorem OutputColumn.exists_row (fills : List.Forall₂ Fills fields columns) :
    ∃ row, List.Forall₂ (fun column value => column.source = .constant value) columns row ∧
      ∀ record, columns.mapM (·.value record) = (.ok row : QueryResult (List Value)) := by
  induction fills with
  | nil => exact ⟨[], .nil, fun record => rfl⟩
  | cons first _ ih =>
      rcases first with ⟨kind, value, -, constant⟩
      rcases ih with ⟨row, pairs, made⟩
      refine ⟨value :: row, .cons constant.source pairs, fun record => ?_⟩
      rw [List.mapM_cons, made, OutputColumn.value, constant.source]
      rfl

theorem OutputColumn.fields_of_fills (fills : List.Forall₂ Fills fields columns) :
    fields = columns.map fun column => (column.name, column.schema) := by
  induction fills with
  | nil => rfl
  | cons first _ ih =>
      rcases first with ⟨kind, value, rfl, constant⟩
      rw [List.map_cons, constant.schema, ih]

/-- Columns of distinct names fill the fields of a record type without parts. -/
theorem OutputColumn.distinct_of_fills {name : String} (fills : List.Forall₂ Fills fields columns)
    (distinct : (columns.map OutputColumn.name).Nodup) : (Schema.record name fields).Distinct := by
  constructor
  · rw [fields_of_fills fills, List.map_map]
    exact distinct
  · clear distinct
    induction fills with
    | nil => simp
    | cons first _ ih =>
        rcases first with ⟨kind, value, rfl, -⟩
        intro field member
        rcases List.mem_cons.1 member with rfl | later
        · exact .scalar kind
        · exact ih field later

/-- In a row under distinct names, every column holds a value of its field. -/
theorem OutputColumn.orders_of_fills {name : String} {row : List Value}
    (fills : List.Forall₂ Fills fields columns)
    (pairs : List.Forall₂ (fun column value => column.source = .constant value) columns row)
    (distinct : (columns.map OutputColumn.name).Nodup) :
    RecordType.Orders ⟨name, fields⟩ ((columns.map OutputColumn.name).zip row) := by
  induction fills generalizing row with
  | nil =>
      intro field member
      cases member
  | @cons first column fields columns fill fills ih =>
      cases pairs with
      | @cons _ value _ values own others =>
          rcases fill with ⟨kind, _, rfl, constant⟩
          cases own.symm.trans constant.source
          rw [List.map_cons, List.nodup_cons] at distinct
          intro field member other known shown found
          rw [List.map_cons, List.zip_cons_cons, Fields.get?, List.lookup_cons] at found
          rcases List.mem_cons.1 member with rfl | later
          · cases known
            rw [beq_self_eq_true] at found
            cases found
            exact constant.orders
          · have here : field.1 ∈ columns.map OutputColumn.name := by
              rw [fields_of_fills fills] at later
              rcases List.mem_map.1 later with ⟨behind, inside, rfl⟩
              exact List.mem_map_of_mem inside
            have different : (field.1 == column.name) = false :=
              beq_eq_false_iff_ne.2 fun same => distinct.1 (same ▸ here)
            rw [different] at found
            exact ih others distinct.2 field later other known shown found

end Rows

/-! ## Asking the rows -/

/-- `SELECT * FROM (SELECT columns FROM table) WHERE condition LIMIT limit` for a SELECT of these
clauses: the same rows, with the condition asked of them. -/
def Sql.Select.onRows (select : Select) : Select :=
  ⟨[.star], .nested { select with filter := none, limit := none }, select.sourceOffset,
    select.filter, select.limit⟩

namespace Stage

/-- The columns of a SELECT alone. -/
def unfiltered (stage : Stage) : Stage :=
  { stage with filter := none, arguments := .empty, limit := none }

/-- A SELECT with its condition asked of its rows. -/
def onRows (stage : Stage) (name : String) : Nest :=
  .around { stage.unfiltered.all name stage.limit with
      filter := stage.filter
      arguments := stage.arguments } (.table stage.unfiltered)

variable {stage : Stage} {name : String} {table : Table} {row : List Value} {holds : Bool}

/-- That is what such a SELECT around the columns asks for. -/
theorem reads_onRows {now : Instant} {type : RecordType} {select : Select}
    (source : select.source = .table name) (binds : stage.Binds now type name select)
    (same : stage.view name = type) : select.onRows.Reads now type name (stage.onRows name) := by
  rcases binds with ⟨casts, args, found⟩
  rcases ofSelect_eq_ok.1 found with ⟨compiled, ⟨binding, bound, expanded⟩, limited⟩
  refine .nested rfl (.table source ⟨casts, [], ofSelect_eq_ok.2 ?_⟩)
    ⟨[], args, ofSelect_eq_ok.2 ?_⟩
  · exact ⟨compiled, ⟨.empty, rfl, rfl⟩, rfl⟩
  · refine ⟨rfl, ⟨binding, ?_, expanded⟩, limited⟩
    change Connection.bindFilter (stage.view name) name select.filter = _
    rw [same]
    exact bound

theorem bound_onRows : (stage.onRows name).bound = stage.bound := by
  change tighter stage.bound none = stage.bound
  cases stage.bound <;> rfl

variable (constant : ∀ record, stage.plan.row record = .ok row)
  (answered : stage.test (stage.record row) = .ok holds)

include constant

theorem row_unfiltered (record : Value) : stage.unfiltered.row record = .ok row := by
  change TableResult.ofQuery (stage.plan.row record) = _
  rw [constant]
  rfl

theorem length_of_constant : row.length = stage.names.length := by
  have whole := length_row (row_unfiltered constant .null)
  exact whole

include answered

/-- Each record passes as its row does. -/
theorem passes_onRows (record : Value) : (stage.onRows name).passes record = holds := by
  change Stage.keeps (stage.passes ∘ stage.record) (stage.unfiltered.row record) = holds
  rw [row_unfiltered constant, keeps, Function.comp_apply, passes, answered]

theorem row_onRows (record : Value) : (stage.onRows name).row record = .ok row := by
  have whole : (stage.unfiltered.all name stage.limit).pick stage.unfiltered row = .ok row :=
    pick_all (length_of_constant constant)
  change stage.unfiltered.row record >>= _ = _
  rw [row_unfiltered constant, Outcome.ok_bind, pick]
  change stage.test (stage.record row) >>= _ = _
  rw [answered]
  exact whole

/-- Asking the records comes to the same as asking the rows exactly when no row is wanted, or each
record answers like the row. -/
theorem foldsInto_onRows_iff
    (total : ∀ record, table.Holds record → ∃ passed, stage.test record = .ok passed) :
    (stage.onRows name).FoldsInto table stage ↔
      stage.bound = some 0 ∨ ∀ record, table.Holds record → stage.test record = .ok holds := by
  have told {record : Value} {passed : Bool} (tested : stage.test record = .ok passed) :
      stage.passes record = passed := by
    rw [passes, tested]
  rw [Nest.FoldsInto, bound_onRows]
  constructor
  · rintro (⟨nothing, -⟩ | ⟨-, -, same⟩)
    · exact .inl nothing
    · refine .inr fun record held => ?_
      rcases total record held with ⟨passed, tested⟩
      have alike := same.passes record held
      rw [passes_onRows constant answered, told tested] at alike
      rw [tested, alike]
  · intro agree
    by_cases nothing : stage.bound = some 0
    · exact .inl ⟨nothing, nothing⟩
    · have each := agree.resolve_left nothing
      refine .inr ⟨nothing, nothing, ⟨trivial, fun limited => absurd rfl limited⟩, ?_, ?_, ?_⟩
      · intro record held
        rw [passes_onRows constant answered, told (each record held)]
      · intro record held passed
        rw [row_onRows constant answered, Stage.row, each record held, constant]
        rfl
      · exact fun record held passed => bound_onRows.symm

/-- On a single record: the run and the rows agree exactly when no row is wanted, or the record
answers like the row. -/
theorem rows_singleton_onRows_iff {record : Value} {passed : Bool}
    (tested : stage.test record = .ok passed) :
    stage.rows [.ok record] = (stage.onRows name).rows [.ok record] ↔
      stage.bound = some 0 ∨ passed = holds := by
  have own : (Nest.table stage).passes record = passed := by
    rw [Nest.passes, passes, tested]
  by_cases nothing : stage.bound = some 0
  · have both : (stage.onRows name).bound = some 0 := bound_onRows.trans nothing
    have alone : (Nest.table stage).bound = some 0 := nothing
    have none : stage.rows [.ok record] = [] := Nest.rows_of_bound_zero alone _
    rw [none, Nest.rows_of_bound_zero both]
    exact ⟨fun _ => .inl nothing, fun _ => rfl⟩
  · have room : (Nest.table stage).bound ≠ some 0 := nothing
    have shown : stage.rows [.ok record] = if passed then [stage.row record] else [] := by
      rw [← own]
      exact Nest.rows_singleton room record
    rw [shown, Nest.rows_singleton (by rwa [bound_onRows]), passes_onRows constant answered,
      row_onRows constant answered, Stage.row, tested, constant]
    cases passed <;> cases holds <;> simp [nothing, TableResult.ofQuery]

end Stage

/-! ## Conditions that do not depend on the record -/

namespace Condition

variable {left right condition : Condition} {value passed : Bool}

/-- A conjunction is settled by a part that is false, or by both. -/
theorem constant?_and_eq_some : (and left right).constant? = some value ↔
    (value = false ∧ (left.constant? = some false ∨ right.constant? = some false)) ∨
      (value = true ∧ left.constant? = some true ∧ right.constant? = some true) := by
  rw [constant?]
  rcases left.constant? with _ | _ | _ <;> rcases right.constant? with _ | _ | _ <;>
    cases value <;> simp

/-- A disjunction is settled by a part that is true, or by both. -/
theorem constant?_or_eq_some : (or left right).constant? = some value ↔
    (value = true ∧ (left.constant? = some true ∨ right.constant? = some true)) ∨
      (value = false ∧ left.constant? = some false ∧ right.constant? = some false) := by
  rw [constant?]
  rcases left.constant? with _ | _ | _ <;> rcases right.constant? with _ | _ | _ <;>
    cases value <;> simp

/-- A condition that does not depend on the record answers in the same way on all of them. -/
theorem eq_of_constant? {record : Value} {arguments : Arguments}
    (known : condition.constant? = some value)
    (evaluated : condition.evaluate record arguments = .ok passed) : passed = value := by
  induction condition generalizing value passed with
  | literal own =>
      cases known
      cases evaluated
      rfl
  | not operand ih =>
      rcases Option.map_eq_some_iff.1 known with ⟨own, inner, rfl⟩
      rcases Outcome.bind_eq_ok.1 evaluated with ⟨first, inside, same⟩
      cases same
      rw [ih inner inside]
  | and left right ihLeft ihRight =>
      rcases Outcome.bind_eq_ok.1 evaluated with ⟨first, before, evaluated⟩
      rcases constant?_and_eq_some.1 known with ⟨rfl, never | never⟩ | ⟨rfl, always, also⟩
      · rw [ihLeft never before] at evaluated
        exact (Except.ok.inj evaluated).symm
      · cases first with
        | true => exact ihRight never evaluated
        | false => exact (Except.ok.inj evaluated).symm
      · rw [ihLeft always before] at evaluated
        exact ihRight also evaluated
  | or left right ihLeft ihRight =>
      rcases Outcome.bind_eq_ok.1 evaluated with ⟨first, before, evaluated⟩
      rcases constant?_or_eq_some.1 known with ⟨rfl, always | always⟩ | ⟨rfl, never, also⟩
      · rw [ihLeft always before] at evaluated
        exact (Except.ok.inj evaluated).symm
      · cases first with
        | true => exact (Except.ok.inj evaluated).symm
        | false => exact ihRight always evaluated
      · rw [ihLeft never before] at evaluated
        exact ihRight also evaluated
  | isNull | guarded | compare | member => cases known

end Condition

/-! ## The built-in table -/

/-- Objects that conform to a type pass its check. -/
theorem Scan.check_of_conforms {type : RecordType} {given : Fields}
    (conforms : type.schema.Conforms (.object given)) :
    Scan.check type (.object given) = .ok none := by
  have each (fields : List Accessor)
      (declared : ∀ field ∈ fields, (field.name, field.schema) ∈ type.fields) :
      Scan.check.checkFields (.object given) fields = .ok none := by
    induction fields with
    | nil => rfl
    | cons field rest ih =>
        have later := ih fun other member => declared other (List.mem_cons_of_mem _ member)
        rw [Scan.check.checkFields.eq_def]
        dsimp only
        split
        · exact later
        · rename_i known
          rcases Accessor.get_of_conforms (declared field List.mem_cons_self) conforms
            with ⟨found, read, held⟩
          rw [read, Outcome.ok_bind]
          cases found with
          | none => exact later
          | some value =>
              rcases held value rfl with ⟨present, fits⟩
              dsimp only
              rw [if_pos (fits.accepts_of_kind? known present)]
              exact later
  rw [check, each type.accessors fun field => RecordType.mem_of_mem_accessorsFrom]
  rfl

/-- An object without fields is filled with zeros. -/
theorem RecordType.conform_empty (type : RecordType) : type.conform (.object []) = type.zero := by
  have each (fields : List (String × Schema)) :
      Schema.conformFields fields [] = Schema.zeroFields fields := by
    induction fields with
    | nil => rfl
    | cons field rest ih =>
        rw [Schema.conformFields, Schema.zeroFields]
        exact congrArg _ ih
  rw [conform, RecordType.zero, schema, Schema.zero, ← each]
  rfl

/-- The built-in table holds one record, of zeros. -/
theorem Table.records_builtIn {table : Table} (distinct : table.type.schema.Distinct)
    (builtIn : table.resource.path? = none) (format : table.resource.format = .json)
    (room : 2 ≤ table.maxLineBytes) (files : Files) :
    table.records (table.resource.content files) = [.ok table.type.zero] := by
  have conforms := Schema.conforms_zero distinct
  obtain ⟨given, zero⟩ := conforms.fields (by rw [RecordType.schema, Schema.zero]; rfl)
  have checked : Scan.check table.type table.type.zero = .ok none := by
    rw [RecordType.zero, zero]
    exact Scan.check_of_conforms (zero ▸ conforms)
  have bytes : Resource.builtInText.toUTF8.toList = [0x7b, 0x7d] := by decide +kernel
  rw [Resource.content, builtIn, records]
  dsimp only
  rw [bytes, Content.lines_of_unended (by decide) room (by decide), recordsFrom, read, format,
    Line.record?_braces]
  simp only [RecordType.conform_empty, checked]
  rfl

/-! ## Runs over one row -/

namespace Scan

variable {scan : Scan} {resource : Resource} {row : List Value} {holds : Bool} {name : String}
  (known : scan.resource = some resource)
  (possible : scan.filter.bind Condition.constant? ≠ some false)
  (total : ∀ record, (scan.table resource).Holds record →
    ∃ passed, Route.passes scan.filter record scan.arguments = .ok passed)
  (constant : ∀ record, scan.plan.row record = .ok row)
  (answered : scan.stage.test (scan.stage.record row) = .ok holds)

include known possible total constant answered

/-- Over a file: the run shows its rows exactly when the condition answers on each record as on the
row. -/
theorem rows_opened_iff (files : Files) :
    (∀ content, ((Cursor.start scan).opened content).rows files =
      (scan.stage.onRows name).rows ((scan.table resource).records content)) ↔
    scan.limit = some 0 ∨
      ∀ record, (scan.table resource).Holds record → scan.stage.test record = .ok holds := by
  have bound : scan.stage.bound = scan.limit := if_neg possible
  have answers (record : Value) (held : (scan.table resource).Holds record) :
      ∃ passed, scan.stage.test record = .ok passed := by
    rcases total record held with ⟨passed, tested⟩
    exact ⟨passed, TableResult.ofQuery_eq_ok.2 tested⟩
  simp only [Cursor.rows_opened known possible total]
  rw [← bound]
  exact Nest.rows_eq_iff_foldsInto.trans (Stage.foldsInto_onRows_iff constant answered answers)

/-- Over the built-in table: the one record that counts has a zero in every field. -/
theorem rows_builtIn_iff (distinct : scan.type.schema.Distinct) (builtIn : resource.path? = none)
    (format : resource.format = .json) (room : 2 ≤ scan.maxLineBytes) (later : Files) :
    (Cursor.start scan).rows later =
      (scan.stage.onRows name).rows ((scan.table resource).records (resource.content later)) ↔
    scan.limit = some 0 ∨ scan.stage.test scan.type.zero = .ok holds := by
  have bound : scan.stage.bound = scan.limit := if_neg possible
  have single : (scan.table resource).records (resource.content later) = [.ok scan.type.zero] :=
    Table.records_builtIn distinct builtIn format room later
  have held : (scan.table resource).Holds scan.type.zero :=
    Table.holds_of_mem_records (single ▸ List.mem_singleton_self _)
  rcases total _ held with ⟨passed, tested⟩
  have tested : scan.stage.test scan.type.zero = .ok passed := TableResult.ofQuery_eq_ok.2 tested
  rw [Cursor.rows_start known, Cursor.rows_opened known possible total, single, tested,
    Except.ok.injEq, ← bound]
  exact Stage.rows_singleton_onRows_iff constant answered tested

end Scan

/-! ## The main theorem -/

namespace Connection

variable {connection : Connection} {files : Files} {now : Instant} {args : List Value}
  {cursor : RecordQuery.Cursor} {name sql : String} {select : Select}

/-- A table that is built in has lines like a file of records. -/
theorem format_of_locate {directory : String} {extensions : List String} {resource : Resource}
    (located : Resource.locate files directory name extensions = .ok resource)
    (builtIn : resource.path? = none) : resource.format = .json := by
  rw [Resource.locate] at located
  split at located
  · cases located
  · split at located
    · cases located
      cases builtIn
    · cases located
  · split at located
    · cases located
      rfl
    · cases located

/-- What the column list tells about a table of no known type: its fields are the columns, and all
records show one row, on which the condition has an answer. -/
theorem constant_of_detect {scan : Scan}
    (detected : RecordType.detect name select.columns = .ok scan.type)
    (binds : scan.stage.Binds now scan.type name select) (distinct : scan.stage.names.Nodup) :
    scan.stage.view name = scan.type ∧ scan.type.schema.Distinct ∧
      ∃ row holds, (∀ record, scan.plan.row record = .ok row) ∧
        scan.stage.test (scan.stage.record row) = .ok holds := by
  rcases binds with ⟨casts, others, made⟩
  rcases RowPlan.fills_of_compile detected (Stage.ofSelect_eq_ok.1 made).1 with ⟨named, fills⟩
  have fields := OutputColumn.fields_of_fills fills
  have view : scan.stage.view name = scan.type := by
    rw [Stage.view, ← fields, ← named]
  refine ⟨view, OutputColumn.distinct_of_fills fills distinct, ?_⟩
  rcases OutputColumn.exists_row fills with ⟨row, pairs, shown⟩
  have orders : scan.type.Orders (scan.stage.names.zip row) :=
    OutputColumn.orders_of_fills fills pairs distinct
  rcases Stage.Binds.answers ⟨casts, others, made⟩ orders with ⟨holds, answered⟩
  exact ⟨row, holds, shown, TableResult.ofQuery_eq_ok.2 answered⟩

/-- Where no type is known for a table, all of its records show one row, under the names of the
fields that the column list tells. The run shows what it would show with the condition asked of
the rows exactly when no row is wanted, or each record that a line can hold answers the condition
like the row. The built-in table has one record, in which every field is zero. A run without a file
shows nothing, and its condition does not hold of the row. -/
theorem rows_eq_onRows_iff
    (found : connection.query files now ⟨sql, .select select⟩ args = .ok cursor)
    (source : select.source = .table name) (unknown : connection.types.lookup? name = none)
    (distinct : cursor.scan.stage.names.Nodup) :
    select.onRows.Reads now cursor.scan.type name (cursor.scan.stage.onRows name) ∧
    ∃ row holds, (∀ record, cursor.scan.plan.row record = .ok row) ∧
      cursor.scan.stage.test (cursor.scan.stage.record row) = .ok holds ∧
      (cursor.scan.resource = none → holds = false ∧ ∀ later, cursor.rows later = []) ∧
      ∀ resource, cursor.scan.resource = some resource →
        ((∀ content, (cursor.opened content).rows files =
            (cursor.scan.stage.onRows name).rows
              ((cursor.scan.table resource).records content)) ↔
          cursor.scan.limit = some 0 ∨ ∀ record, (cursor.scan.table resource).Holds record →
            cursor.scan.stage.test record = .ok holds) ∧
        (resource.path? = none → 2 ≤ cursor.scan.maxLineBytes → ∀ later,
          (cursor.rows later = (cursor.scan.stage.onRows name).rows
              ((cursor.scan.table resource).records (resource.content later)) ↔
            cursor.scan.limit = some 0 ∨
              cursor.scan.stage.test cursor.scan.type.zero = .ok holds)) := by
  rcases binds_of_query found with
    ⟨other, table, scan, statement, reads, rfl, typed, -, binds, located⟩
  cases statement
  have reads' : select.table? = some name := by rw [Select.table?, source]
  cases reads'.symm.trans reads
  rw [typeOf, unknown] at typed
  change scan.stage.names.Nodup at distinct
  rcases constant_of_detect typed binds distinct with ⟨view, fields, row, holds, shown, answered⟩
  refine ⟨Stage.reads_onRows source binds view, row, holds, shown, answered, ?_⟩
  rcases locateFor_eq_ok_iff.1 located with ⟨never, nowhere⟩ | ⟨possible, place, here, there⟩
  · refine ⟨fun _ => ⟨?_, fun later => Cursor.rows_start_none nowhere⟩, fun resource known => ?_⟩
    · rcases Option.bind_eq_some_iff.1 never with ⟨test, filter, false_⟩
      have evaluated := TableResult.ofQuery_eq_ok.1 answered
      change Route.passes scan.filter _ scan.arguments = _ at evaluated
      rw [filter] at evaluated
      exact Condition.eq_of_constant? false_ evaluated
    · cases nowhere.symm.trans known
  · refine ⟨fun nowhere => ?_, fun resource known => ?_⟩
    · cases here.symm.trans nowhere
    · cases here.symm.trans known
      have total (record : Value) (held : (scan.table place).Holds record) :
          ∃ passed, Route.passes scan.filter record scan.arguments = .ok passed := by
        rcases Table.admits_of_holds held with ⟨given, rfl, admits⟩
        exact binds.answers admits.orders
      refine ⟨Scan.rows_opened_iff here possible total shown answered files, ?_⟩
      intro builtIn room later
      exact Scan.rows_builtIn_iff here possible total shown answered fields builtIn
        (format_of_locate there builtIn) room later

/-- `SELECT 1 AS ID FROM single WHERE ID IS NOT NULL`. -/
def present : Select :=
  ⟨[.expression (.integer 1) (some "ID")], .table "single", 0, some (.isNotNull (.column "ID")),
    none⟩

/-- The condition holds of the record of zeros as it holds of the row. -/
theorem rows_eq_onRows_iff_present :
    ∃ cursor resource,
      Select.fooConnection.query Select.fooFiles ⟨0, 0⟩ ⟨"", .select present⟩ [] = .ok cursor ∧
      cursor.rows Select.fooFiles = (cursor.scan.stage.onRows "single").rows
        ((cursor.scan.table resource).records (resource.content Select.fooFiles)) := by
  have runs : (do
      let cursor ← Select.fooConnection.query Select.fooFiles ⟨0, 0⟩ ⟨"", .select present⟩ []
      let row ← TableResult.ofQuery (cursor.scan.plan.row .null)
      let first ← cursor.scan.stage.test (cursor.scan.stage.record row)
      let second ← cursor.scan.stage.test cursor.scan.type.zero
      return (first, second, cursor.scan.stage.names, cursor.scan.maxLineBytes,
        cursor.scan.resource)).toOption =
          some (true, true, ["ID"], 1024, some ⟨"single", none, .json, false⟩) := by
    decide +kernel
  rcases Outcome.bind_eq_ok.1 (Outcome.toOption_eq_some.1 runs) with ⟨cursor, found, runs⟩
  rcases Outcome.bind_eq_ok.1 runs with ⟨row, made, runs⟩
  rcases Outcome.bind_eq_ok.1 runs with ⟨first, onRow, runs⟩
  rcases Outcome.bind_eq_ok.1 runs with ⟨second, onZero, runs⟩
  simp only [Outcome.pure_eq, Except.ok.injEq, Prod.mk.injEq] at runs
  rcases runs with ⟨rfl, rfl, names, bytes, known⟩
  have unknown : Select.fooConnection.types.lookup? "single" = none :=
    Option.isNone_iff_eq_none.1 (by decide +kernel)
  have distinct : cursor.scan.stage.names.Nodup := by
    rw [names]
    decide
  obtain ⟨-, own, holds, shown, answered, -, agree⟩ :=
    rows_eq_onRows_iff found rfl unknown distinct
  cases (shown .null).symm.trans (TableResult.ofQuery_eq_ok.1 made)
  cases onRow.symm.trans answered
  refine ⟨cursor, _, found, ((agree _ known).2 rfl ?_ Select.fooFiles).2 (.inr onZero)⟩
  rw [bytes]
  decide

/-- The row with the number one satisfies the condition, but is not shown: the condition is asked of
a record with the number zero. -/
theorem rows_hidden_by_zero :
    ∃ prepared cursor row,
      Prepared.ofText "SELECT ID FROM (SELECT 1 AS ID FROM single) t WHERE ID = 1" =
        .ok prepared ∧
      Select.fooConnection.query Select.fooFiles ⟨0, 0⟩ prepared [] = .ok cursor ∧
      cursor.scan.plan.row cursor.scan.type.zero = .ok row ∧
      row.map (fun value : Value => value.number?.bind Number.signed?) = [some 1] ∧
      cursor.scan.stage.test (cursor.scan.stage.record row) = .ok true ∧
      cursor.rows Select.fooFiles = [] := by
  have runs : (do
      let prepared ← Prepared.ofText "SELECT ID FROM (SELECT 1 AS ID FROM single) t WHERE ID = 1"
      let cursor ← Select.fooConnection.query Select.fooFiles ⟨0, 0⟩ prepared []
      let row ← TableResult.ofQuery (cursor.scan.plan.row cursor.scan.type.zero)
      let holds ← cursor.scan.stage.test (cursor.scan.stage.record row)
      return (row.map fun value : Value => value.number?.bind Number.signed?, holds,
        (cursor.rows Select.fooFiles).length)).toOption = some ([some 1], true, 0) := by
    decide +kernel
  rcases Outcome.bind_eq_ok.1 (Outcome.toOption_eq_some.1 runs) with ⟨prepared, text, runs⟩
  rcases Outcome.bind_eq_ok.1 runs with ⟨cursor, found, runs⟩
  rcases Outcome.bind_eq_ok.1 runs with ⟨row, made, runs⟩
  rcases Outcome.bind_eq_ok.1 runs with ⟨holds, answered, runs⟩
  simp only [Outcome.pure_eq, Except.ok.injEq, Prod.mk.injEq] at runs
  rcases runs with ⟨one, rfl, none⟩
  exact ⟨prepared, cursor, row, text, found, TableResult.ofQuery_eq_ok.1 made, one, answered,
    List.length_eq_zero_iff.1 none⟩

end Connection

end RecordQuery
