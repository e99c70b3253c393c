import RecordQuery.Proofs.Table.Casts
import RecordQuery.Proofs.Table.Constants
import RecordQuery.Proofs.Table.Faults

/-!
# Settled conditions

A condition whose outcome does not depend on the record is settled before a file is opened. Where
it is false, the run has no file, and its caller cannot tell it from a run that reads the whole file
and finds no row in it. Where it is true, the run shows what it would show without a condition.
-/

namespace RecordQuery

/-! ## Lines under a settled condition -/

/-- Every line of the file, as it is at this moment, is blank or holds a record. -/
def Table.Readable (table : Table) (files : Files) : Prop :=
  ∀ record ∈ table.records (table.resource.content files), ∃ value, record = .ok value

namespace Scan

variable {scan : Scan} {resource : Resource} {value : Bool}

/-- A settled condition has its outcome on every record that is read. -/
theorem test_of_constant? (answers : scan.Answers)
    (settled : scan.filter.bind Condition.constant? = some value) {number : Nat} {line : Line}
    {record : Value} (read : (scan.table resource).read number line = .ok (some record)) :
    scan.stage.test record = .ok value := by
  rcases Table.admits_of_read read with ⟨given, rfl, admits⟩
  rcases answers given admits with ⟨passed, tested⟩
  rcases Option.bind_eq_some_iff.1 settled with ⟨filter, known, constant⟩
  have evaluated : filter.evaluate (.object given) scan.arguments = .ok passed := by
    rwa [known] at tested
  rw [← Condition.eq_of_constant? constant evaluated]
  exact TableResult.ofQuery_eq_ok.2 tested

/-! ### Conditions that are false -/

/-- Lines that can be read contribute nothing under a condition that is false. -/
theorem contributions_of_false (answers : scan.Answers)
    (never : scan.filter.bind Condition.constant? = some false) (number : Nat) (lines : List Line)
    (readable : ∀ record ∈ (scan.table resource).recordsFrom number lines,
      ∃ value, record = .ok value) :
    scan.contributions resource number lines = [] := by
  induction lines generalizing number with
  | nil => rfl
  | cons line rest ih =>
      rw [contributions_cons, lineRow]
      rw [Table.recordsFrom] at readable
      cases read : (scan.table resource).read number line with
      | error error =>
          rw [read] at readable
          rcases readable _ List.mem_cons_self with ⟨value, same⟩
          cases same
      | ok record =>
          rw [read] at readable
          cases record with
          | none => exact ih (number + 1) readable
          | some record =>
              simp only [Outcome.ok_bind, test_of_constant? answers never read]
              apply ih (number + 1)
              intro other inside
              exact readable other (List.mem_cons_of_mem _ inside)

/-- The run with the file of its table. -/
def withFile (scan : Scan) (resource : Resource) : Scan := { scan with resource := some resource }

/-- A run that would read its file under a condition that is false shows nothing. -/
theorem shows_withFile_of_false (answers : scan.Answers)
    (never : scan.filter.bind Condition.constant? = some false) {files : Files}
    (readable : (scan.table resource).Readable files) :
    (scan.withFile resource).shows files = [] := by
  have nothing : (scan.withFile resource).contributions resource 1
      ((resource.content files).lines (scan.withFile resource).maxLineBytes) = [] :=
    @contributions_of_false (scan.withFile resource) resource answers never 1 _ readable
  simp only [shows, withFile] at nothing ⊢
  rw [nothing]
  exact within_nil scan.limit

theorem shows_of_none (nowhere : scan.resource = none) (files : Files) : scan.shows files = [] := by
  rw [shows, nowhere]

theorem showsTo_of_none (nowhere : scan.resource = none) (calls : List Call) :
    scan.showsTo calls = [] := by
  cases calls with
  | nil => rfl
  | cons call rest =>
      cases call with
      | close => rfl
      | next later => exact shows_of_none nowhere later

/-! ### Conditions that are true -/

/-- The run without its condition. -/
def withoutFilter (scan : Scan) : Scan := { scan with filter := none, arguments := .empty }

/-- A line contributes the same without a condition that is true. -/
theorem lineRow_withoutFilter (answers : scan.Answers)
    (always : scan.filter.bind Condition.constant? = some true) (number : Nat) (line : Line) :
    scan.withoutFilter.lineRow resource number line = scan.lineRow resource number line := by
  rw [lineRow, lineRow]
  change ((scan.table resource).read number line >>= _) = _
  cases read : (scan.table resource).read number line with
  | error error => rfl
  | ok record =>
      cases record with
      | none => rfl
      | some record =>
          simp only [Outcome.ok_bind, test_of_constant? answers always read]
          rfl

theorem shows_withoutFilter (answers : scan.Answers)
    (always : scan.filter.bind Condition.constant? = some true) (files : Files) :
    scan.withoutFilter.shows files = scan.shows files := by
  have same (resource : Resource) (number : Nat) (lines : List Line) :
      scan.withoutFilter.contributions resource number lines =
        scan.contributions resource number lines := by
    simp only [contributions, lineRow_withoutFilter answers always]
  have place : scan.withoutFilter.resource = scan.resource := rfl
  rw [shows, shows, place]
  cases scan.resource with
  | none => rfl
  | some resource =>
      simp only [same]
      rfl

end Scan

/-- Runs that show the same of the file as it is at the first call answer all calls in one way. -/
theorem Cursor.answers_start_congr {scan other : Scan} {calls : List Call}
    (same : ∀ later rest, calls = .next later :: rest → scan.shows later = other.shows later) :
    (start scan).answers calls = (start other).answers calls := by
  have alike : scan.showsTo calls = other.showsTo calls := by
    cases calls with
    | nil => rfl
    | cons call rest =>
        cases call with
        | close => rfl
        | next later => exact same later rest rfl
  rw [answers_start_eq_drained, answers_start_eq_drained, alike]

/-! ## Arguments that are left out -/

namespace RowPlan

variable {now : Instant} {type : RecordType} {args : List Value} {plan : RowPlan}
  {columns : List Sql.Column}

/-- A column list does not look behind the arguments that it takes. -/
theorem shownFrom_take {taken count : Nat} (enough : taken + askedCount columns ≤ count) :
    shownFrom now type (args.take count) taken columns = shownFrom now type args taken columns := by
  induction columns generalizing taken with
  | nil => rfl
  | cons column rest ih =>
      rw [askedCount_cons] at enough
      have first : shown now type (fun _ => (args.take count).getD taken .null) column =
          shown now type (fun _ => args.getD taken .null) column := by
        apply shown_congr
        intro index inside
        have asks : 0 < column.asked.length := List.length_pos_of_mem inside
        have early : taken < count := by omega
        rw [List.getD_eq_getElem?_getD, List.getElem?_take_of_lt early,
          List.getD_eq_getElem?_getD]
      rw [shownFrom, shownFrom, first, ih (by omega)]

/-- It is bound as well where the others are left out. -/
theorem compile_take (compiled : compile ⟨now, type, args⟩ columns = .ok plan) :
    compile ⟨now, type, args.take plan.consumed⟩ columns = .ok plan := by
  rcases compile_eq_ok_iff.1 compiled with ⟨enough, shown, consumed⟩
  refine compile_eq_ok_iff.2 ⟨?_, ?_, consumed⟩
  · rw [List.length_take]
    omega
  · rw [shownFrom_take (by omega), shown]

end RowPlan

/-! ## The main theorem -/

namespace Connection

variable {connection : Connection} {files : Files} {now : Instant} {args : List Value}
  {cursor : RecordQuery.Cursor} {sql : String} {select : Sql.Select}

/-- A run whose steps succeed is made. -/
theorem runOver_of_steps {table : String} {type : RecordType} {plan : RowPlan}
    {filter : Option Condition} {binding : Binding} {arguments : Arguments}
    {resource : Option Resource}
    (compiled : RowPlan.compile ⟨now, type, args⟩ select.columns = .ok plan)
    (bound : bindFilter type table select.filter = .ok (filter, binding))
    (expanded : binding.expand (args.drop plan.consumed) = .ok arguments)
    (located : connection.locateFor files table filter = .ok resource) :
    connection.runOver files now table select args type =
      .ok (.start { type, plan, filter, arguments, resource,
                    maxLineBytes := connection.options.maxLineBytes, limit := select.limit }) := by
  rw [runOver, compiled, Outcome.ok_bind, bound]
  simp only [TableResult.ofQuery_eq_ok.2 rfl, Outcome.ok_bind, expanded, located]
  rfl

/-- Without a condition that is true, and without the arguments for it, a run is made as well. -/
theorem query_withoutFilter
    (found : connection.query files now ⟨sql, .select select⟩ args = .ok cursor)
    (always : cursor.scan.filter.bind Condition.constant? = some true) :
    connection.query files now ⟨sql, .select { select with filter := none }⟩
      (args.take cursor.scan.plan.consumed) = .ok (.start cursor.scan.withoutFilter) := by
  rcases query_eq_ok_iff.1 found with ⟨_, table, type, statement, source, typed, run⟩
  cases statement
  rcases runOver_eq_ok run with
    ⟨plan, filter, binding, arguments, place, compiled, -, -, located, rfl⟩
  have located' : connection.locateFor files table none = .ok place := by
    rcases locateFor_eq_ok_iff.1 located with ⟨never, -⟩ | ⟨-, resource, rfl, there⟩
    · cases never.symm.trans always
    · exact locateFor_eq_ok_iff.2 (.inr ⟨nofun, resource, rfl, there⟩)
  have left : (args.take plan.consumed).drop plan.consumed = [] := by
    apply List.drop_eq_nil_of_le
    exact List.length_take_le _ _
  refine query_eq_ok_iff.2 ⟨_, table, type, rfl, source, typed, ?_⟩
  refine runOver_of_steps (RowPlan.compile_take compiled) rfl ?_ located'
  change Binding.empty.expand ((args.take plan.consumed).drop plan.consumed) = _
  rw [left]
  rfl

/-- Settled conditions are sound and cannot be seen. Where the outcome of a condition is known, no
evaluation has the other one. A run whose condition is false has no file, answers no call with a
row, and cannot be told from the run that reads the file of its table, where that can be located and
every line of it can be read when the first row is asked for. A run whose condition is true answers
all calls as the run without a condition and without the arguments for it. -/
theorem answers_settled :
    (∀ (condition : Condition) value record arguments, condition.constant? = some value →
      condition.evaluate record arguments = .ok value ∨
        ∃ error, condition.evaluate record arguments = .error error) ∧
    ∀ (connection : Connection) files now sql select args cursor,
      connection.query files now ⟨sql, .select select⟩ args = .ok cursor →
      (cursor.scan.filter.bind Condition.constant? = some false →
        cursor.scan.resource = none ∧
        (∀ calls, ∀ answer ∈ cursor.answers calls, answer = none) ∧
        ∀ table resource, select.table? = some table →
          Resource.locate files connection.location.path table connection.options.extensions =
            .ok resource →
          ∀ calls, (∀ later rest, calls = .next later :: rest →
              (cursor.scan.table resource).Readable later) →
            (Cursor.start (cursor.scan.withFile resource)).answers calls = cursor.answers calls) ∧
      (cursor.scan.filter.bind Condition.constant? = some true →
        ∃ other, connection.query files now ⟨sql, .select { select with filter := none }⟩
            (args.take cursor.scan.plan.consumed) = .ok other ∧
          other.scan.plan = cursor.scan.plan ∧
          ∀ calls, other.answers calls = cursor.answers calls) := by
  constructor
  · intro condition value record arguments settled
    cases evaluated : condition.evaluate record arguments with
    | error error => exact .inr ⟨error, rfl⟩
    | ok passed => exact .inl (congrArg Except.ok (Condition.eq_of_constant? settled evaluated))
  · intro connection files now sql select args cursor found
    obtain ⟨scan, rfl, answers⟩ : ∃ scan, cursor = .start scan ∧ scan.Answers :=
      ⟨cursor.scan, answers_of_query found⟩
    constructor
    · intro never
      have nowhere : scan.resource = none := resource_of_query found never
      refine ⟨nowhere, ?_, ?_⟩
      · intro calls answer inside
        rw [Cursor.answers_start_eq_drained, Scan.showsTo_of_none nowhere] at inside
        exact eq_none_of_mem_drained_nil inside
      · intro table resource source located calls readable
        apply Cursor.answers_start_congr
        intro later rest first
        calc (scan.withFile resource).shows later = [] :=
              Scan.shows_withFile_of_false answers never (readable later rest first)
          _ = scan.shows later := (Scan.shows_of_none nowhere later).symm
    · intro always
      refine ⟨_, query_withoutFilter found always, rfl, ?_⟩
      intro calls
      apply Cursor.answers_start_congr
      intro later _ _
      exact Scan.shows_withoutFilter answers always later

/-- `SELECT Id FROM Foo WHERE Id > ? AND 1 > 2`. -/
def never : Sql.Select :=
  ⟨[.field "Id" none], .table "Foo", 0,
    some (.binary .and (.binary (.compare .gt) (.column "Id") (.placeholder 0))
      (.binary (.compare .gt) (.integer 1) (.integer 2))), none⟩

/-- `SELECT Id FROM Foo WHERE Id > ? OR 1 < 2`. -/
def always : Sql.Select :=
  ⟨[.field "Id" none], .table "Foo", 0,
    some (.binary .or (.binary (.compare .gt) (.column "Id") (.placeholder 0))
      (.binary (.compare .lt) (.integer 1) (.integer 2))), none⟩

theorem answers_settled_foo :
    (∃ cursor resource,
      Sql.Select.fooConnection.query Sql.Select.fooFiles ⟨0, 0⟩ ⟨"", .select never⟩ [.ofInt64 0] =
        .ok cursor ∧
      cursor.scan.resource = none ∧
      (Cursor.start (cursor.scan.withFile resource)).answers
          [.next Sql.Select.fooFiles, .next Sql.Select.fooFiles] =
        cursor.answers [.next Sql.Select.fooFiles, .next Sql.Select.fooFiles]) ∧
    ∃ cursor other,
      Sql.Select.fooConnection.query Sql.Select.fooFiles ⟨0, 0⟩ ⟨"", .select always⟩ [.ofInt64 5] =
        .ok cursor ∧
      Sql.Select.fooConnection.query Sql.Select.fooFiles ⟨0, 0⟩
        ⟨"", .select { always with filter := none }⟩ [] = .ok other ∧
      other.answers [.next Sql.Select.fooFiles, .next Sql.Select.fooFiles] =
        cursor.answers [.next Sql.Select.fooFiles, .next Sql.Select.fooFiles] := by
  constructor
  · have runs : (do
        let cursor ← Sql.Select.fooConnection.query Sql.Select.fooFiles ⟨0, 0⟩
          ⟨"", .select never⟩ [.ofInt64 0]
        let resource ← Resource.locate Sql.Select.fooFiles "data" "Foo" Resource.extensions
        return (cursor.scan.filter.bind Condition.constant?,
          ((cursor.scan.table resource).records (resource.content Sql.Select.fooFiles)).all
            (·.isOk), resource)).toOption =
              some (some false, true, ⟨"Foo", some "data/Foo.json", .json, false⟩) := by
      decide +kernel
    rcases Outcome.bind_eq_ok.1 (Outcome.toOption_eq_some.1 runs) with ⟨cursor, found, runs⟩
    rcases Outcome.bind_eq_ok.1 runs with ⟨resource, located, runs⟩
    simp only [Outcome.pure_eq, Except.ok.injEq, Prod.mk.injEq] at runs
    rcases runs with ⟨settled, whole, -⟩
    have readable : (cursor.scan.table resource).Readable Sql.Select.fooFiles := by
      intro record inside
      exact Outcome.exists_of_isOk (List.all_eq_true.1 whole record inside)
    obtain ⟨nowhere, -, alike⟩ := (answers_settled.2 _ _ _ _ _ _ _ found).1 settled
    refine ⟨cursor, resource, found, nowhere, alike "Foo" resource rfl located _ ?_⟩
    intro later rest first
    cases first
    exact readable
  · have runs : (do
        let cursor ← Sql.Select.fooConnection.query Sql.Select.fooFiles ⟨0, 0⟩
          ⟨"", .select always⟩ [.ofInt64 5]
        return (cursor.scan.filter.bind Condition.constant?,
          cursor.scan.plan.consumed)).toOption = some (some true, 0) := by
      decide +kernel
    rcases Outcome.bind_eq_ok.1 (Outcome.toOption_eq_some.1 runs) with ⟨cursor, found, runs⟩
    simp only [Outcome.pure_eq, Except.ok.injEq, Prod.mk.injEq] at runs
    rcases runs with ⟨settled, consumed⟩
    obtain ⟨other, made, -, alike⟩ := (answers_settled.2 _ _ _ _ _ _ _ found).2 settled
    rw [consumed] at made
    exact ⟨cursor, other, found, made, alike _⟩

end Connection

end RecordQuery
