import RecordQuery.Proofs.Table.Run
import RecordQuery.Proofs.Table.Stage

/-!
# Calls on a cursor

The caller of a run asks for one row after the other, and may close the cursor at any time. The
main theorem says what the caller sees: the rows of the file in the order of its lines, up to the
limit or the first error, and nothing more. It also says how far the file is read.
-/

namespace RecordQuery

/-! ## What the lines of a file show -/

section Results

variable {α : Type}

/-- What a step shows: its value or its failure, or nothing where it has no value. -/
def TableResult.shown : TableResult (Option α) → Option (TableResult α)
  | .ok none => none
  | .ok (some value) => some (.ok value)
  | .error error => some (.error error)

/-- Everything up to the first error, which counts. -/
def upToError : List (TableResult α) → List (TableResult α)
  | [] => []
  | .ok value :: rest => .ok value :: upToError rest
  | .error error :: _ => [.error error]

/-- No error has anything behind it. -/
def ErrorsLast (results : List (TableResult α)) : Prop :=
  results.Pairwise fun first _ => ∃ value, first = .ok value

theorem errorsLast_upToError (results : List (TableResult α)) : ErrorsLast (upToError results) := by
  induction results with
  | nil => exact .nil
  | cons first rest ih =>
      cases first with
      | ok value => exact .cons (fun _ _ => ⟨value, rfl⟩) ih
      | error error => exact .cons (fun _ inside => absurd inside List.not_mem_nil) .nil

theorem ErrorsLast.within {results : List (TableResult α)} (last : ErrorsLast results)
    (limit : Option Nat) : ErrorsLast (within limit results) := by
  cases limit with
  | none => exact last
  | some limit => exact last.sublist (List.take_sublist limit results)

end Results

/-- A row has a value for every column, whatever the record. -/
theorem RowPlan.exists_row (plan : RowPlan) (given : Fields) :
    ∃ row, plan.row (.object given) = .ok row := by
  have each (columns : List OutputColumn) :
      ∃ row, columns.mapM (·.value (.object given)) = (.ok row : QueryResult (List Value)) := by
    induction columns with
    | nil => exact ⟨[], rfl⟩
    | cons column rest ih =>
        rcases ih with ⟨row, made⟩
        rw [List.mapM_cons, made, OutputColumn.value]
        cases column.source with
        | field field => exact ⟨_, rfl⟩
        | constant value => exact ⟨_, rfl⟩
  exact each plan.columns

namespace Scan

variable {scan : Scan} {resource : Resource}

/-- The row of one line. A blank line has none, nor has a record that does not pass the
condition. -/
def lineRow (scan : Scan) (resource : Resource) (number : Nat) (line : Line) :
    TableResult (Option (List Value)) := do
  match ← (scan.table resource).read number line with
  | none => return none
  | some record =>
      if ← scan.stage.test record then return some (← .ofQuery (scan.plan.row record))
      else return none

/-- What lines contribute each, where the first has a number. -/
def contributions (scan : Scan) (resource : Resource) (number : Nat) (lines : List Line) :
    List (TableResult (List Value)) :=
  (lines.zipIdx number).filterMap fun (line, number) => (scan.lineRow resource number line).shown

/-- The rows that a run shows of its file: what the lines contribute, in order, up to the first
error and the limit. -/
def shows (scan : Scan) (files : Files) : List (TableResult (List Value)) :=
  match scan.resource with
  | none => []
  | some resource =>
      within scan.limit <| upToError <|
        scan.contributions resource 1 ((resource.content files).lines scan.maxLineBytes)

theorem contributions_cons (number : Nat) (line : Line) (rest : List Line) :
    scan.contributions resource number (line :: rest) =
      (scan.lineRow resource number line).shown.toList ++
        scan.contributions resource (number + 1) rest := by
  rw [contributions, contributions, List.zipIdx_cons, List.filterMap_cons]
  dsimp only
  cases (scan.lineRow resource number line).shown <;> rfl

theorem contributions_append (number : Nat) (first second : List Line) :
    scan.contributions resource number (first ++ second) =
      scan.contributions resource number first ++
        scan.contributions resource (number + first.length) second := by
  rw [contributions, List.zipIdx_append, List.filterMap_append]
  rfl

/-- The three ways in which a line is read. -/
theorem readLine_eq_lineRow (number : Nat) (line : Line) :
    scan.readLine resource number line =
      match scan.lineRow resource number line with
      | .error error => .failed error
      | .ok none => .nothing
      | .ok (some row) => .row (.ok row) := by
  rw [readLine_eq, lineRow]
  cases found : (scan.table resource).read number line with
  | error error => rfl
  | ok record =>
      cases record with
      | none => rfl
      | some record =>
          rcases Table.admits_of_read found with ⟨given, rfl, -⟩
          rcases scan.plan.exists_row given with ⟨row, made⟩
          simp only [Outcome.ok_bind, select, Stage.test, stage, made]
          cases scan.filter with
          | none => rfl
          | some filter =>
              simp only [Route.passes]
              cases filter.evaluate (.object given) scan.arguments with
              | error error => rfl
              | ok passed => cases passed <;> rfl

/-- Lines contribute what they show one by one, up to the first error. -/
theorem found_eq_upToError (number : Nat) (lines : List Line) :
    scan.found resource number lines =
      upToError (scan.contributions resource number lines) := by
  induction lines generalizing number with
  | nil => rfl
  | cons line rest ih =>
      rw [found, readLine_eq_lineRow, contributions_cons]
      cases scan.lineRow resource number line with
      | error error => rfl
      | ok row =>
          cases row with
          | none => exact ih (number + 1)
          | some row => exact congrArg (.ok row :: ·) (ih (number + 1))

end Scan

/-! ## Calls -/

/-- What a caller does with a cursor: ask for the next row, where the files count as they are at
this moment, or close it. -/
inductive Call where
  | next (files : Files)
  | close

/-- The answers to calls where some rows are there to be asked for. A row is given once, and none
behind a close. -/
def drained (rows : List (TableResult (List Value))) :
    List Call → List (Option (TableResult (List Value)))
  | [] => []
  | .next _ :: calls => rows.head? :: drained rows.tail calls
  | .close :: calls => drained [] calls

/-- Without rows every answer is none. -/
theorem eq_none_of_mem_drained_nil {calls : List Call} {answer : Option (TableResult (List Value))}
    (inside : answer ∈ drained [] calls) : answer = none := by
  induction calls with
  | nil => cases inside
  | cons call rest ih =>
      cases call with
      | close => exact ih inside
      | next files =>
          rcases List.mem_cons.1 inside with same | later
          · exact same
          · exact ih later

/-- Behind an answer that is no row, every answer is none. -/
theorem eq_none_of_drained {rows : List (TableResult (List Value))} (last : ErrorsLast rows)
    {calls : List Call} {before after : List (Option (TableResult (List Value)))}
    {answer : Option (TableResult (List Value))}
    (answers : drained rows calls = before ++ answer :: after)
    (noRow : ∀ row, answer ≠ some (.ok row)) : ∀ later ∈ after, later = none := by
  induction calls generalizing rows before with
  | nil =>
      rw [drained] at answers
      cases List.append_eq_nil_iff.1 answers.symm |>.2
  | cons call rest ih =>
      cases call with
      | close => exact ih .nil answers
      | next files =>
          rw [drained] at answers
          have tail : ErrorsLast rows.tail := last.sublist (List.tail_sublist rows)
          cases before with
          | cons first before =>
              rcases List.cons.inj answers with ⟨-, answers⟩
              exact ih tail answers
          | nil =>
              rcases List.cons.inj answers with ⟨same, answers⟩
              intro later inside
              rw [← answers] at inside
              -- The answer is none at the end of the rows, or an error, which is the last row.
              have nothing : rows.tail = [] := by
                cases rows with
                | nil => rfl
                | cons first others =>
                    cases others with
                    | nil => rfl
                    | cons second others =>
                        rcases List.rel_of_pairwise_cons last List.mem_cons_self with ⟨row, rfl⟩
                        exact absurd same.symm (noRow row)
              rw [nothing] at inside
              exact eq_none_of_mem_drained_nil inside

namespace Cursor

variable {scan : Scan} {resource : Resource} {files : Files}

/-- The cursor after a call. -/
def call (cursor : Cursor) : Call → Cursor
  | .next files => (cursor.next files).2
  | .close => cursor.close

/-- The cursor after calls. -/
def after (cursor : Cursor) (calls : List Call) : Cursor := calls.foldl call cursor

theorem after_next (cursor : Cursor) (files : Files) (calls : List Call) :
    cursor.after (.next files :: calls) = (cursor.next files).2.after calls := rfl

/-- What a cursor answers to calls; closing it has no answer. -/
def answers (cursor : Cursor) : List Call → List (Option (TableResult (List Value)))
  | [] => []
  | .next files :: calls => (cursor.next files).1 :: (cursor.next files).2.answers calls
  | .close :: calls => cursor.close.answers calls

/-- The rows that can still be asked for, if the file is opened against some files. -/
def pending (files : Files) (cursor : Cursor) : List (TableResult (List Value)) :=
  match cursor.progress, cursor.scan.resource with
  | .closed, _ => []
  | _, none => []
  | .unopened, some resource =>
      within (cursor.scan.limit.map (· - cursor.produced)) <| cursor.scan.found resource 1
        ((resource.content files).lines cursor.scan.maxLineBytes)
  | .reading number lines, some resource =>
      within (cursor.scan.limit.map (· - cursor.produced)) (cursor.scan.found resource number lines)

@[simp] theorem pending_close (cursor : Cursor) : cursor.close.pending files = [] := rfl

theorem pending_reading (known : scan.resource = some resource) (produced number : Nat)
    (lines : List Line) :
    pending files ⟨scan, produced, .reading number lines⟩ =
      within (scan.limit.map (· - produced)) (scan.found resource number lines) := by
  simp only [pending, known]

theorem pending_of_isFull {cursor : Cursor} (full : cursor.isFull = true) :
    cursor.pending files = [] := by
  rw [pending]
  split
  · rfl
  · rfl
  · exact within_of_full full _
  · exact within_of_full full _

/-- Reading on gives the first of the rows behind it and leaves the others, of which none hangs on
the files any more. -/
theorem advance_pending (known : scan.resource = some resource) {produced : Nat}
    (room : scan.limit.any (· ≤ produced) = false) (progress : Progress) (number : Nat)
    (lines : List Line) :
    let rows := within (scan.limit.map (· - produced)) (scan.found resource number lines)
    (advance ⟨scan, produced, progress⟩ resource number lines).1 = rows.head? ∧
      ∀ files, (advance ⟨scan, produced, progress⟩ resource number lines).2.pending files =
        rows.tail := by
  induction lines generalizing number with
  | nil => simp [advance, Scan.found]
  | cons line rest ih =>
      rw [advance, Scan.found]
      cases scan.readLine resource number line with
      | nothing => exact ih (number + 1)
      | failed error => simp [within_of_room room]
      | row row =>
          simp only [within_of_room room]
          exact ⟨rfl, fun files => pending_reading known (produced + 1) (number + 1) rest⟩

/-- A call for the next row takes the first of the pending rows, and what is left does not hang on
the files any more. -/
theorem next_pending (cursor : Cursor) (files : Files) :
    (cursor.next files).1 = (cursor.pending files).head? ∧
      ∀ later, (cursor.next files).2.pending later = (cursor.pending files).tail := by
  rw [next]
  cases full : cursor.isFull with
  | true => simp [pending_of_isFull full]
  | false =>
      rcases cursor with ⟨scan, produced, progress⟩
      change scan.limit.any (· ≤ produced) = false at full
      simp only [Bool.false_eq_true, if_false]
      cases known : scan.resource with
      | none => cases progress <;> simp [pending, known, close]
      | some resource =>
          cases progress with
          | closed => simp [pending]
          | unopened =>
              simp only [pending, known]
              exact advance_pending known full .unopened 1 _
          | reading number lines =>
              simp only [pending, known]
              exact advance_pending known full (.reading number lines) number lines

/-- Once the pending rows do not hang on the files, calls are answered from them. -/
theorem answers_of_pending {cursor : Cursor} {rows : List (TableResult (List Value))}
    (settled : ∀ files, cursor.pending files = rows) (calls : List Call) :
    cursor.answers calls = drained rows calls := by
  induction calls generalizing cursor rows with
  | nil => rfl
  | cons call rest ih =>
      cases call with
      | close => exact ih fun files => rfl
      | next files =>
          rcases cursor.next_pending files with ⟨answer, left⟩
          rw [settled files] at answer left
          rw [answers, drained, answer, ih left]

theorem pending_start (scan : Scan) (files : Files) : (start scan).pending files = scan.shows files := by
  rw [Scan.shows, pending]
  cases known : scan.resource with
  | none => simp [start, known]
  | some resource =>
      simp only [start, known, Scan.found_eq_upToError]
      cases scan.limit <;> rfl

/-! ## How far a file is read -/

/-- Reading on ends with the cursor closed, or behind a line that gives a row. The lines up to that
one contribute nothing else. -/
theorem advance_cases (produced number : Nat) (progress : Progress) (lines : List Line) :
    (advance ⟨scan, produced, progress⟩ resource number lines).2.progress = .closed ∨
      ∃ read line row rest, lines = read ++ line :: rest ∧
        scan.lineRow resource (number + read.length) line = .ok (some row) ∧
        scan.contributions resource number (read ++ [line]) = [.ok row] ∧
        advance ⟨scan, produced, progress⟩ resource number lines =
          (some (.ok row), ⟨scan, produced + 1, .reading (number + (read.length + 1)) rest⟩) := by
  induction lines generalizing number with
  | nil => exact .inl rfl
  | cons line rest ih =>
      rw [advance, Scan.readLine_eq_lineRow]
      cases made : scan.lineRow resource number line with
      | error error => exact .inl rfl
      | ok row =>
          cases row with
          | some row =>
              refine .inr ⟨[], line, row, rest, rfl, made, ?_, rfl⟩
              rw [List.nil_append, Scan.contributions_cons, made]
              rfl
          | none =>
              rcases ih (number + 1) with closed | ⟨read, last, row, others, rfl, found, single, same⟩
              · exact .inl closed
              · refine .inr ⟨line :: read, last, row, others, rfl, ?_, ?_, ?_⟩
                · rw [List.length_cons, ← found, Nat.add_right_comm, Nat.add_assoc]
                · rw [List.cons_append, Scan.contributions_cons, made, single]
                  rfl
                · have position : number + (read.length + 1 + 1) = number + 1 + (read.length + 1) := by
                    omega
                  rw [List.length_cons, position]
                  exact same

/-- A closed cursor stays closed. -/
theorem after_of_closed {cursor : Cursor} (closed : cursor.progress = .closed) (calls : List Call) :
    (cursor.after calls).progress = .closed := by
  induction calls generalizing cursor with
  | nil => exact closed
  | cons call rest ih =>
      refine ih ?_
      cases call with
      | close => rfl
      | next files =>
          rw [Cursor.call, next, closed]
          split <;> exact closed

/-- Behind a line that gave a row, the last of the lines that are read gives one, be it this line or
one of those behind it. -/
theorem Scan.exists_row_of_last {number : Nat} {read more : List Line} {line : Line}
    {row : List Value}
    (found : scan.lineRow resource (number + read.length) line = .ok (some row))
    (last : ∀ before final, more = before ++ [final] → ∃ row,
      scan.lineRow resource (number + (read.length + 1) + before.length) final = .ok (some row))
    (before : List Line) (final : Line) (ends : read ++ line :: more = before ++ [final]) :
    ∃ row, scan.lineRow resource (number + before.length) final = .ok (some row) := by
  rcases List.eq_nil_or_concat' more with rfl | ⟨front, tail, rfl⟩
  · rcases List.append_inj' ends rfl with ⟨rfl, same⟩
    cases same
    exact ⟨row, found⟩
  · rw [← List.cons_append, ← List.append_assoc] at ends
    rcases List.append_inj' ends rfl with ⟨rfl, same⟩
    cases same
    have position : number + (read ++ line :: front).length =
        number + (read.length + 1) + front.length := by
      rw [List.length_append, List.length_cons]
      omega
    rw [position]
    exact last front final rfl

/-- As long as the file is being read, the rows that were given are what the lines that were read
contribute, and the last of these lines gave the last of the rows. -/
theorem after_reading (known : scan.resource = some resource) (calls : List Call)
    {produced number later : Nat} {lines rest : List Line}
    (reading : (after ⟨scan, produced, .reading number lines⟩ calls).progress =
      .reading later rest) :
    ∃ read, lines = read ++ rest ∧ later = number + read.length ∧
      (answers ⟨scan, produced, .reading number lines⟩ calls).reduceOption =
        scan.contributions resource number read ∧
      ∀ before line, read = before ++ [line] →
        ∃ row, scan.lineRow resource (number + before.length) line = .ok (some row) := by
  induction calls generalizing produced number lines with
  | nil =>
      cases reading
      exact ⟨[], rfl, rfl, rfl, by simp⟩
  | cons call calls ih =>
      cases call with
      | close =>
          have closed : (close ⟨scan, produced, .reading number lines⟩).progress = .closed := rfl
          cases (after_of_closed closed calls).symm.trans reading
      | next files =>
          rw [after_next] at reading
          rw [answers]
          cases full : (Cursor.mk scan produced (.reading number lines)).isFull with
          | true =>
              have idle : next files ⟨scan, produced, .reading number lines⟩ =
                  (none, ⟨scan, produced, .reading number lines⟩) := by
                rw [next, full]
                rfl
              rw [idle] at reading ⊢
              exact ih reading
          | false =>
              rw [next_reading known rfl full] at reading ⊢
              rcases advance_cases produced number (.reading number lines) lines with
                closed | ⟨read, line, row, others, rfl, found, single, same⟩
              · cases (after_of_closed closed calls).symm.trans reading
              · rw [same] at reading ⊢
                rcases ih reading with ⟨more, rfl, position, given, last⟩
                refine ⟨read ++ line :: more, ?_, ?_, ?_, ?_⟩
                · rw [List.append_assoc, List.cons_append]
                · rw [position, List.length_append, List.length_cons]
                  omega
                · rw [List.append_cons, Scan.contributions_append, single, List.length_append]
                  exact congrArg (.ok row :: ·) given
                · exact Scan.exists_row_of_last found last

/-- A file that is not asked for is never opened: there is no resource, or no row is wanted. -/
theorem not_reading_of_idle (idle : scan.limit = some 0 ∨ scan.resource = none) (calls : List Call)
    {number : Nat} {rest : List Line} :
    ((start scan).after calls).progress ≠ .reading number rest := by
  have each (produced : Nat) (progress : Progress)
      (shut : progress = .unopened ∨ progress = .closed) :
      (after ⟨scan, produced, progress⟩ calls).progress ≠ .reading number rest := by
    induction calls generalizing progress with
    | nil =>
        intro reading
        rcases shut with rfl | rfl <;> cases reading
    | cons call calls ih =>
        cases call with
        | close => exact ih .closed (.inr rfl)
        | next files =>
            have kept : (next files ⟨scan, produced, progress⟩).2 = ⟨scan, produced, progress⟩ ∨
                (next files ⟨scan, produced, progress⟩).2 = ⟨scan, produced, .closed⟩ := by
              rw [next]
              split
              · exact .inl rfl
              · rename_i room
                have unknown : scan.resource = none :=
                  idle.resolve_left fun zero => room (by simp [isFull, zero])
                rcases shut with rfl | rfl <;> simp [unknown, close]
            rw [after_next]
            rcases kept with same | same
            · rw [same]
              exact ih progress shut
            · rw [same]
              exact ih .closed (.inr rfl)
  exact each 0 .unopened (.inl rfl)

end Cursor

/-- A run whose condition rules out every record has no file to read. -/
theorem Connection.resource_of_query {connection : Connection} {files : Files} {now : Instant}
    {prepared : Prepared} {args : List Value} {scan : Scan}
    (found : connection.query files now prepared args = .ok (.start scan))
    (never : scan.filter.bind Condition.constant? = some false) : scan.resource = none := by
  rcases query_eq_ok_iff.1 found with ⟨select, table, type, -, -, -, run⟩
  rcases runOver_eq_ok run with ⟨plan, filter, binding, arguments, resource, -, -, -, located, same⟩
  cases same
  rcases locateFor_eq_ok_iff.1 located with ⟨-, nowhere⟩ | ⟨possible, -⟩
  · exact nowhere
  · exact absurd never possible

/-! ## Whole runs -/

namespace Scan

/-- The rows that a run shows to its caller: those of its file as it is at the first call. -/
def showsTo (scan : Scan) : List Call → List (TableResult (List Value))
  | .next files :: _ => scan.shows files
  | _ => []

/-- The file was opened at the first call and read up to the line that gave the last of some rows;
the other lines that were read have no row beside these. -/
def HasRead (scan : Scan) (calls : List Call) (rest : List Line)
    (rows : List (TableResult (List Value))) : Prop :=
  ∃ files later resource read line row, calls = .next files :: later ∧
    scan.resource = some resource ∧
    (resource.content files).lines scan.maxLineBytes = read ++ line :: rest ∧
    scan.lineRow resource (1 + read.length) line = .ok (some row) ∧
    scan.contributions resource 1 (read ++ [line]) = rows

end Scan

namespace Cursor

theorem answers_start_eq_drained (scan : Scan) (calls : List Call) :
    (start scan).answers calls = drained (scan.showsTo calls) calls := by
  cases calls with
  | nil => rfl
  | cons call calls =>
      cases call with
      | close => exact answers_of_pending (fun _ => rfl) calls
      | next files =>
          rcases (start scan).next_pending files with ⟨answer, left⟩
          rw [answers, answer, answers_of_pending left calls, pending_start]
          rfl

theorem errorsLast_showsTo (scan : Scan) (calls : List Call) : ErrorsLast (scan.showsTo calls) := by
  cases calls with
  | nil => exact .nil
  | cons call calls =>
      cases call with
      | close => exact .nil
      | next files =>
          rw [Scan.showsTo, Scan.shows]
          cases scan.resource with
          | none => exact .nil
          | some resource => exact (errorsLast_upToError _).within scan.limit

/-- Nothing is read behind the line that gave the last row. -/
theorem hasRead_of_reading {scan : Scan} {calls : List Call} {number : Nat} {rest : List Line}
    (reading : ((start scan).after calls).progress = .reading number rest) :
    scan.HasRead calls rest ((start scan).answers calls).reduceOption := by
  cases calls with
  | nil => cases reading
  | cons call calls =>
      cases call with
      | close =>
          have closed : (start scan).close.progress = .closed := rfl
          cases (after_of_closed closed calls).symm.trans reading
      | next files =>
          have asked : scan.limit ≠ some 0 := fun none =>
            not_reading_of_idle (.inl none) (.next files :: calls) reading
          cases known : scan.resource with
          | none => cases not_reading_of_idle (.inr known) (.next files :: calls) reading
          | some resource =>
              have first : (start scan).next files = advance (start scan) resource 1
                  ((resource.content files).lines scan.maxLineBytes) := by
                have room : (start scan).isFull = false := by
                  cases limit : scan.limit with
                  | none => simp [isFull, start, limit]
                  | some limit' =>
                      cases limit' with
                      | zero => exact absurd limit asked
                      | succ more => simp [isFull, start, limit]
                rw [next, room]
                simp [start, known]
              rw [after_next, first] at reading
              rw [answers, first]
              rcases advance_cases 0 1 .unopened ((resource.content files).lines scan.maxLineBytes)
                with closed | ⟨read, line, row, others, split, found, single, same⟩
              · cases (after_of_closed closed calls).symm.trans reading
              · rw [start, same] at reading ⊢
                rcases after_reading known calls reading with ⟨more, rfl, -, given, last⟩
                rcases List.eq_nil_or_concat' (read ++ line :: more) with none | ⟨front, tail, ends⟩
                · cases (List.append_eq_nil_iff.1 none).2
                · rcases Scan.exists_row_of_last found last front tail ends with ⟨final, made⟩
                  refine ⟨files, calls, resource, front, tail, final, rfl, known, ?_, made, ?_⟩
                  · rw [split, List.append_cons front, ← ends, List.append_assoc]
                    rfl
                  · rw [← ends, List.append_cons, Scan.contributions_append, single,
                      List.length_append]
                    exact (congrArg (.ok row :: ·) given).symm

/-- What a caller of a run sees. The lines are decoded, conformed, checked and tested in the order
of the file, and every record that passes gives its row, up to the limit or the first error; behind
an answer that is no row, and behind a close, there is nothing. No line is read behind the one that
gave the last row, and where no row is asked for the file is not opened. -/
theorem answers_start (scan : Scan) (calls : List Call) :
    (start scan).answers calls = drained (scan.showsTo calls) calls ∧
      (∀ before answer after, (start scan).answers calls = before ++ answer :: after →
        (∀ row, answer ≠ some (.ok row)) → ∀ later ∈ after, later = none) ∧
      (∀ before after, calls = before ++ .close :: after →
        ∀ answer ∈ ((start scan).after (before ++ [.close])).answers after, answer = none) ∧
      (∀ number rest, ((start scan).after calls).progress = .reading number rest →
        scan.HasRead calls rest ((start scan).answers calls).reduceOption) ∧
      (scan.limit = some 0 ∨ scan.resource = none →
        (∀ answer ∈ (start scan).answers calls, answer = none) ∧
          ∀ number rest, ((start scan).after calls).progress ≠ .reading number rest) ∧
      ∀ (connection : Connection) (files : Files) (now : Instant) (prepared : Prepared)
        (args : List Value), connection.query files now prepared args = .ok (start scan) →
        scan.filter.bind Condition.constant? = some false → scan.resource = none := by
  have queue := answers_start_eq_drained scan calls
  refine ⟨queue, ?_, ?_, ?_, ?_, ?_⟩
  · intro before answer after found noRow
    rw [queue] at found
    exact eq_none_of_drained (errorsLast_showsTo scan calls) found noRow
  · intro before after _ answer inside
    have closed : (start scan).after (before ++ [.close]) = ((start scan).after before).close := by
      rw [Cursor.after, List.foldl_append]
      rfl
    have nothing (files : Files) : ((start scan).after before).close.pending files = [] := rfl
    rw [closed, answers_of_pending nothing after] at inside
    exact eq_none_of_mem_drained_nil inside
  · intro number rest reading
    exact hasRead_of_reading reading
  · intro idle
    refine ⟨?_, fun number rest => not_reading_of_idle idle calls⟩
    intro answer inside
    have nothing : scan.showsTo calls = [] := by
      cases calls with
      | nil => rfl
      | cons call calls =>
          cases call with
          | close => rfl
          | next files =>
              rw [Scan.showsTo, Scan.shows]
              cases known : scan.resource with
              | none => rfl
              | some resource =>
                  rcases idle with zero | none
                  · rw [zero]
                    rfl
                  · cases none.symm.trans known
    rw [queue, nothing] at inside
    exact eq_none_of_mem_drained_nil inside
  · intro connection files now prepared args found never
    exact Connection.resource_of_query found never

end Cursor

end RecordQuery
