import RecordQuery.Proofs.Table.Records
import RecordQuery.Route.Walk
import RecordQuery.Table.Connection

/-!
# Rows of one SELECT

A SELECT filters the records that it reads, turns those that pass into rows, and ends at
its limit. The cursor of a run goes through the lines of the file one by one, but gives
just these rows.
-/

namespace RecordQuery

/-- A SELECT bound to what it reads. -/
structure Stage where
  plan : RowPlan
  filter : Option Condition
  arguments : Arguments
  limit : Option Nat

namespace Stage

/-- How many rows are asked for; none where the condition rules out every record. -/
def bound (stage : Stage) : Option Nat :=
  if stage.filter.bind Condition.constant? = some false then some 0 else stage.limit

/-- The answer of the condition on a record. -/
def test (stage : Stage) (record : Value) : TableResult Bool :=
  .ofQuery (Route.passes stage.filter record stage.arguments)

/-- Whether a record is shown: it passes the condition, or the condition fails on it. -/
def passes (stage : Stage) (record : Value) : Bool :=
  match stage.test record with
  | .ok passed => passed
  | .error _ => true

/-- What is read and passes a test. An error always does. -/
def keeps {α : Type} (test : α → Bool) : TableResult α → Bool
  | .ok item => test item
  | .error _ => true

/-- The row of a record. -/
def row (stage : Stage) (record : Value) : TableResult (List Value) := do
  let _ ← stage.test record
  .ofQuery (stage.plan.row record)

/-- The rows of records. -/
def rows (stage : Stage) (records : List (TableResult Value)) : List (TableResult (List Value)) :=
  within stage.bound ((records.filter (keeps stage.passes)).map (· >>= stage.row))

end Stage

namespace Scan

/-- The table that a run goes through, once its file is known. -/
def table (scan : Scan) (resource : Resource) : Table := ⟨scan.type, resource, scan.maxLineBytes⟩

/-- The SELECT of a run. -/
def stage (scan : Scan) : Stage := ⟨scan.plan, scan.filter, scan.arguments, scan.limit⟩

variable {scan : Scan} {resource : Resource}

/-- What lines contribute without a limit. Nothing counts behind a failure. -/
def found (scan : Scan) (resource : Resource) (number : Nat) :
    List Line → List (TableResult (List Value))
  | [] => []
  | line :: rest =>
      match scan.readLine resource number line with
      | .nothing => found scan resource (number + 1) rest
      | .failed error => [.error error]
      | .row row => row :: found scan resource (number + 1) rest

theorem readLine_eq (number : Nat) (line : Line) :
    scan.readLine resource number line =
      match (scan.table resource).read number line with
      | .error error => .failed error
      | .ok none => .nothing
      | .ok (some record) => scan.select record := by
  cases line with
  | unreadable fault => rfl
  | tooLong => rfl
  | text bytes =>
      rw [readLine, Table.read, table]
      cases Line.record? resource.format bytes with
      | error fault => rfl
      | ok value =>
          cases value with
          | none => rfl
          | some value =>
              simp only [readRecord]
              cases check scan.type (scan.type.conform value) with
              | error error => rfl
              | ok fault => cases fault <;> rfl

/-- A record on which the condition gives an answer contributes its row, or nothing. -/
theorem select_eq {record : Value} {passed : Bool}
    (tested : Route.passes scan.filter record scan.arguments = .ok passed) :
    scan.select record = if passed then .row (scan.stage.row record) else .nothing := by
  have decided : scan.stage.test record = .ok passed := TableResult.ofQuery_eq_ok.2 tested
  rw [select, Stage.row, decided]
  cases known : scan.filter with
  | none =>
      rw [known] at tested
      cases tested
      rfl
  | some test =>
      rw [known, Route.passes] at tested
      simp only [tested]
      cases passed <;> rfl

/-- Where the condition gives an answer on every record, lines contribute the rows of the
records that pass. -/
theorem found_eq (number : Nat) (lines : List Line)
    (total : ∀ record, .ok record ∈ (scan.table resource).recordsFrom number lines →
      ∃ passed, Route.passes scan.filter record scan.arguments = .ok passed) :
    scan.found resource number lines =
      (((scan.table resource).recordsFrom number lines).filter (Stage.keeps scan.stage.passes)).map
        (· >>= scan.stage.row) := by
  induction lines generalizing number with
  | nil => rfl
  | cons line rest ih =>
      rw [Table.recordsFrom] at total ⊢
      rw [found, readLine_eq]
      cases read : (scan.table resource).read number line with
      | error error => rfl
      | ok record =>
          rw [read] at total
          cases record with
          | none => exact ih (number + 1) total
          | some record =>
              have later :=
                ih (number + 1) fun other member => total other (List.mem_cons_of_mem _ member)
              rcases total record List.mem_cons_self with ⟨passed, tested⟩
              have decided : scan.stage.test record = .ok passed :=
                TableResult.ofQuery_eq_ok.2 tested
              have answer : scan.stage.passes record = passed := by
                rw [Stage.passes, decided]
              simp only [select_eq tested]
              cases passed with
              | true =>
                  rw [List.filter_cons_of_pos (by rw [Stage.keeps, answer]), List.map_cons, ← later]
                  rfl
              | false =>
                  rw [List.filter_cons_of_neg (by simp [Stage.keeps, answer]), ← later]
                  rfl

end Scan

namespace Cursor

variable {files : Files} {scan : Scan} {resource : Resource}

/-- The cursor in front of the lines of a content. -/
def opened (cursor : Cursor) (content : Content) : Cursor :=
  { cursor with progress := .reading 1 (content.lines cursor.scan.maxLineBytes) }

theorem takeRows_of_isFull {cursor : Cursor} (full : cursor.isFull = true) (fuel : Nat) :
    cursor.takeRows files fuel = [] := by
  cases fuel with
  | zero => rfl
  | succ fuel => simp [takeRows, next, full]

theorem takeRows_close (cursor : Cursor) (fuel : Nat) : cursor.close.takeRows files fuel = [] := by
  cases fuel with
  | zero => rfl
  | succ fuel =>
      rw [takeRows, next]
      split
      · rfl
      · rename_i same
        split at same <;> cases same

theorem next_reading {cursor : Cursor} {number : Nat} {lines : List Line}
    (known : cursor.scan.resource = some resource)
    (reading : cursor.progress = .reading number lines)
    (room : cursor.isFull = false) : cursor.next files = cursor.advance resource number lines := by
  rw [next, room, known, reading]
  rfl

/-- Lines are read in the same way wherever the cursor stood. -/
theorem advance_progress (produced number : Nat) (lines : List Line) (first second : Progress) :
    advance ⟨scan, produced, first⟩ resource number lines =
      advance ⟨scan, produced, second⟩ resource number lines := by
  induction lines generalizing number with
  | nil => rfl
  | cons line rest ih =>
      rw [advance, advance]
      cases scan.readLine resource number line with
      | nothing => exact ih (number + 1)
      | failed error => rfl
      | row row => rfl

/-- What lines contribute, up to the limit. -/
theorem takeRows_reading (known : scan.resource = some resource) (produced number fuel : Nat)
    {lines : List Line} (enough : lines.length ≤ fuel) :
    takeRows files fuel ⟨scan, produced, .reading number lines⟩ =
      within (scan.limit.map (· - produced)) (scan.found resource number lines) := by
  induction lines generalizing produced number fuel with
  | nil =>
      rw [Scan.found, within_nil]
      cases full : (Cursor.mk scan produced (.reading number [])).isFull with
      | true => exact takeRows_of_isFull full fuel
      | false =>
          cases fuel with
          | zero => rfl
          | succ fuel => rw [takeRows, next_reading known rfl full, advance]
  | cons line rest ih =>
      cases full : (Cursor.mk scan produced (.reading number (line :: rest))).isFull with
      | true =>
          rw [takeRows_of_isFull full, within_of_full full]
      | false =>
          cases fuel with
          | zero => cases enough
          | succ fuel =>
              have enough : rest.length ≤ fuel := Nat.le_of_succ_le_succ enough
              rw [takeRows, next_reading known rfl full, advance, Scan.found]
              cases read : scan.readLine resource number line with
              | nothing =>
                  have skipped := ih produced (number + 1) (fuel + 1) (Nat.le_succ_of_le enough)
                  have full : (Cursor.mk scan produced (.reading (number + 1) rest)).isFull =
                      false :=
                    full
                  rw [takeRows, next_reading known rfl full,
                    advance_progress produced (number + 1) rest _ (.reading number (line :: rest))]
                    at skipped
                  exact skipped
              | failed error =>
                  rw [within_of_room full, within_nil]
                  exact congrArg (Except.error error :: ·) (takeRows_close _ fuel)
              | row row =>
                  rw [within_of_room full]
                  exact congrArg (row :: ·) (ih (produced + 1) (number + 1) fuel enough)

/-- A cursor over a file gives the rows of the records of its table. -/
theorem rows_opened (known : scan.resource = some resource)
    (open_ : scan.filter.bind Condition.constant? ≠ some false)
    (total : ∀ record, (scan.table resource).Holds record →
      ∃ passed, Route.passes scan.filter record scan.arguments = .ok passed) (content : Content) :
    ((start scan).opened content).rows files =
      scan.stage.rows ((scan.table resource).records content) := by
  change takeRows files (content.lines scan.maxLineBytes).length
    ⟨scan, 0, .reading 1 (content.lines scan.maxLineBytes)⟩ = _
  have found := Scan.found_eq 1 (content.lines scan.maxLineBytes) fun record member =>
    total record (Table.holds_of_mem_records member)
  have limit : scan.limit.map (· - 0) = scan.stage.bound := by
    rw [Stage.bound]
    change _ = if scan.filter.bind Condition.constant? = some false then some 0 else scan.limit
    rw [if_neg open_]
    cases scan.limit <;> rfl
  rw [takeRows_reading known 0 1 _ (Nat.le_refl _), found, limit]
  rfl

/-- Where the condition rules out every record, no file is looked for, and there are no
rows. -/
theorem rows_opened_none (unknown : scan.resource = none) (content : Content) :
    ((start scan).opened content).rows files = [] := by
  change takeRows files (content.lines scan.maxLineBytes).length
    ⟨scan, 0, .reading 1 (content.lines scan.maxLineBytes)⟩ = []
  cases (content.lines scan.maxLineBytes).length with
  | zero => rfl
  | succ fuel =>
      cases full : (Cursor.mk scan 0 (.reading 1 (content.lines scan.maxLineBytes))).isFull <;>
        simp [takeRows, next, full, unknown]

theorem rows_start_none (unknown : scan.resource = none) : (start scan).rows files = [] := by
  have remaining : (start scan).remaining files = 0 := by
    simp [remaining, start, unknown]
  rw [rows, remaining]
  rfl

/-- A cursor that has not been opened reads the content that its file has when the first
row is asked for. -/
theorem rows_start (known : scan.resource = some resource) :
    (start scan).rows files = ((start scan).opened (resource.content files)).rows files := by
  have same : (start scan).remaining files =
      ((start scan).opened (resource.content files)).remaining files := by
    simp [remaining, start, opened, known]
  rw [rows, rows, same]
  cases full : (start scan).isFull with
  | true =>
      have also : ((start scan).opened (resource.content files)).isFull = true := full
      rw [takeRows_of_isFull full, takeRows_of_isFull also]
  | false =>
      have also : ((start scan).opened (resource.content files)).isFull = false := full
      have first : (start scan).next files =
          ((start scan).opened (resource.content files)).next files := by
        rw [next_reading known rfl also, opened, start,
          advance_progress 0 1 _ (.reading 1 _) .unopened]
        change (Cursor.mk scan 0 .unopened).isFull = false at full
        simp only [next, full, known]
        rfl
      cases ((start scan).opened (resource.content files)).remaining files with
      | zero => rfl
      | succ fuel => rw [takeRows, takeRows, first]

end Cursor

end RecordQuery
