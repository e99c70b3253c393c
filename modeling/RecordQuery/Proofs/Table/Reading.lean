import Mathlib.Data.List.Forall2
import Mathlib.Data.List.ReduceOption
import RecordQuery.Proofs.Table.Lines
import RecordQuery.Table.Cursor

/-!
# Reading records line by line

A reader of records takes one line at a time: it looks at one byte more than a line may have, counts
the line, passes over it where it is blank, and gives the record or the fault that it finds. The
lines that it takes are the parts of the content between line ends, whether or not there is an end
behind the last of them. A cursor goes through the records that such a reader gives.
-/

namespace RecordQuery

namespace Content

/-! ## Lines of a text -/

/-- The lines of a text as its line ends part them, however long they are. A line end at the end
starts no further line. -/
def physicalLines (bytes : List UInt8) : List (List UInt8) :=
  let parts := bytes.splitOn lineEnd
  if parts.getLast? = some [] then parts.dropLast else parts

/-- The lines in front of the first one that is too long. -/
def shortLines (limit : Nat) (bytes : List UInt8) : List (List UInt8) :=
  (physicalLines bytes).takeWhile fun line => line.length ≤ limit

/-- The first line of a text and what is behind its end. Only a last line can be without one. -/
inductive Starts : (bytes line behind : List UInt8) → Prop
  | ended {line behind : List UInt8} (clean : lineEnd ∉ line) :
      Starts (line ++ lineEnd :: behind) line behind
  | last {line : List UInt8} (clean : lineEnd ∉ line) (present : line ≠ []) : Starts line line []

variable {bytes line behind : List UInt8} {limit : Nat}

theorem exists_starts (present : bytes ≠ []) : ∃ line behind, Starts bytes line behind := by
  by_cases inside : lineEnd ∈ bytes
  · rcases List.eq_append_cons_of_mem inside with ⟨line, behind, rfl, clean⟩
    exact ⟨line, behind, .ended clean⟩
  · exact ⟨bytes, [], .last inside present⟩

/-- An attempt to read that finds something consumes it. -/
theorem length_lt_of_takeLine {rest : List UInt8} {ended : Bool}
    (found : takeLine limit bytes = (line, ended, rest))
    (consumed : ¬(line.isEmpty && !ended) = true) : rest.length < bytes.length := by
  have total := length_takeLine limit bytes
  simp only [found] at total
  have some_ : 0 < line.length + ended.toNat := by
    cases ended <;> cases line <;> simp at consumed ⊢
  omega

/-- A line that is too long is cut off. -/
theorem takeLine_of_long (clean : lineEnd ∉ line) (long : limit ≤ line.length)
    (behind : List UInt8) :
    takeLine limit (line ++ behind) = (line.take limit, false, line.drop limit ++ behind) := by
  induction limit generalizing line with
  | zero => rfl
  | succ limit ih =>
      cases line with
      | nil => cases long
      | cons byte line =>
          rw [List.mem_cons, not_or] at clean
          have other : (byte == lineEnd) = false := by simpa using fun same => clean.1 same.symm
          rw [List.cons_append, takeLine, other, ih clean.2 (Nat.le_of_succ_le_succ long)]
          rfl

namespace Starts

theorem length_lt (starts : Starts bytes line behind) : behind.length < bytes.length := by
  cases starts with
  | ended clean =>
      rw [List.length_append, List.length_cons]
      omega
  | last clean present => exact List.length_pos_iff.2 present

theorem physicalLines_eq (starts : Starts bytes line behind) :
    physicalLines bytes = line :: physicalLines behind := by
  cases starts with
  | ended clean =>
      have parts : (line ++ lineEnd :: behind).splitOn lineEnd =
          line :: behind.splitOn lineEnd := by
        rw [List.splitOn_eq_splitOnP, List.splitOn_eq_splitOnP]
        refine List.splitOnP_append_cons_of_forall_mem (fun byte member => ?_) _ (by simp) _
        exact beq_eq_false_iff_ne.2 fun same => clean (same ▸ member)
      have others := List.splitOn_ne_nil lineEnd behind
      rw [physicalLines, physicalLines, parts, List.dropLast_cons_of_ne_nil others,
        List.getLast?_cons, List.getLast?_eq_some_getLast others, Option.getD_some]
      exact (apply_ite (line :: ·) _ _ _).symm
  | last clean present =>
      rw [physicalLines, List.splitOn_eq_singleton clean]
      exact if_neg (by simpa using present)

theorem shortLines_of_short (starts : Starts bytes line behind) (short : line.length ≤ limit) :
    shortLines limit bytes = line :: shortLines limit behind := by
  rw [shortLines, starts.physicalLines_eq, List.takeWhile_cons_of_pos (by simpa using short),
    shortLines]

theorem shortLines_of_long (starts : Starts bytes line behind) (long : limit < line.length) :
    shortLines limit bytes = [] := by
  rw [shortLines, starts.physicalLines_eq, List.takeWhile_cons_of_neg (by simpa using long)]

/-- An attempt to read takes the whole first line, unless it is too long. -/
theorem takeLine_of_short (starts : Starts bytes line behind) (short : line.length ≤ limit) :
    ∃ ended, takeLine (limit + 1) bytes = (line, ended, behind) ∧ (line = [] → ended = true) := by
  cases starts with
  | ended clean =>
      exact ⟨true, takeLine_of_clean clean (Nat.lt_succ_of_le short) behind, fun _ => rfl⟩
  | last clean present =>
      have whole := takeLine_of_unended clean (Nat.le_succ_of_le short)
      exact ⟨false, whole, fun same => absurd same present⟩

theorem exists_takeLine_of_long (starts : Starts bytes line behind) (long : limit < line.length) :
    ∃ rest, takeLine (limit + 1) bytes = (line.take (limit + 1), false, rest) := by
  cases starts with
  | ended clean => exact ⟨_, takeLine_of_long clean long _⟩
  | last clean present =>
      have cut := takeLine_of_long clean long []
      rw [List.append_nil] at cut
      exact ⟨_, cut⟩

theorem lines_of_short (starts : Starts bytes line behind) (short : line.length ≤ limit) :
    lines limit ⟨bytes, none⟩ = .text line :: lines limit ⟨behind, none⟩ := by
  cases starts with
  | ended clean => exact lines_cons clean short behind none
  | last clean present => rw [lines_of_unended clean short present, lines_nil]

theorem lines_of_long (starts : Starts bytes line behind) (long : limit < line.length) :
    lines limit ⟨bytes, none⟩ = [.tooLong] := by
  rcases starts.exists_takeLine_of_long long with ⟨rest, cut⟩
  rw [lines]
  split
  · rename_i found
    cases cut.symm.trans found
  · rename_i found
    cases cut.symm.trans found
    rw [if_pos (by rw [List.length_take]; omega)]

end Starts

/-- A text is empty, or it is a first line and a text behind that. -/
@[elab_as_elim]
theorem induction_on_lines {motive : List UInt8 → Prop} (bytes : List UInt8) (nil : motive [])
    (starts : ∀ bytes line behind, Starts bytes line behind → motive behind → motive bytes) :
    motive bytes := by
  by_cases finished : bytes = []
  · exact finished ▸ nil
  · rcases exists_starts finished with ⟨line, behind, first⟩
    exact starts bytes line behind first (induction_on_lines behind nil starts)
termination_by bytes.length
decreasing_by exact first.length_lt

end Content

/-! ## A reader -/

/-- What a line tells: nothing where it is blank, the object that its text stands for, or else the
fault of the line of this number. -/
inductive Line.Reports (format : Format) (label : String) (number : Nat) (bytes : List UInt8) :
    Option (TableResult Value) → Prop
  | blank {chars : List Char} (decoded : Text.ofBytes? bytes = some chars)
      (blank : Text.trimChars chars = []) : Reports format label number bytes none
  | object {chars : List Char} {value : Value} (decoded : Text.ofBytes? bytes = some chars)
      (present : Text.trimChars chars ≠ []) (read : format.read (Text.trimChars chars) = some value)
      (object : value.isObject = true) : Reports format label number bytes (some (.ok value))
  | noText (undecodable : Text.ofBytes? bytes = none) :
      Reports format label number bytes (some (.error (.line label number .undecodable)))
  | noValue {chars : List Char} (decoded : Text.ofBytes? bytes = some chars)
      (present : Text.trimChars chars ≠ []) (unread : format.read (Text.trimChars chars) = none) :
      Reports format label number bytes (some (.error (.line label number .undecodable)))
  | noObject {chars : List Char} {value : Value} (decoded : Text.ofBytes? bytes = some chars)
      (present : Text.trimChars chars ≠ []) (read : format.read (Text.trimChars chars) = some value)
      (other : value.isObject = false) :
      Reports format label number bytes (some (.error (.line label number .notObject)))

/-- A reader of the records of a text: the bytes that are still to be read, and how many lines are
consumed. -/
structure RecordReader where
  format : Format
  label : String
  maxLineBytes : Nat
  bytes : List UInt8
  line : Nat

/-- A reader of the bytes of a resource. -/
def Resource.reader (resource : Resource) (limit : Nat) (bytes : List UInt8) : RecordReader :=
  ⟨resource.format, resource.label, limit, bytes, 0⟩

namespace RecordReader

/-- The reader behind one more line. -/
def behind (reader : RecordReader) (bytes : List UInt8) : RecordReader :=
  { reader with bytes, line := reader.line + 1 }

/-- What the line that was consumed last is answered with, if it is answered. -/
def report (reader : RecordReader) (bytes : List UInt8) : Option (TableResult Value) :=
  match Line.record? reader.format bytes with
  | .error fault => some (.error (.line reader.label reader.line fault))
  | .ok record => record.map .ok

/-- The next record or fault, or none at the end of the text. -/
def next (reader : RecordReader) : Option (TableResult Value) × RecordReader :=
  match _found : Content.takeLine (reader.maxLineBytes + 1) reader.bytes with
  | (line, ended, rest) =>
      let onward := reader.behind rest
      if _finished : line.isEmpty && !ended then (none, reader)
      else if !ended && reader.maxLineBytes < line.length then
        (some (.error (.resource (.longLine onward.line reader.label reader.maxLineBytes))), onward)
      else
        match onward.report line with
        | none => next onward
        | some answer => (some answer, onward)
termination_by reader.bytes.length
decreasing_by exact Content.length_lt_of_takeLine _found _finished

/-- The answers of a number of calls in a row. -/
def calls : Nat → RecordReader → List (Option (TableResult Value))
  | 0, _ => []
  | count + 1, reader => reader.next.1 :: calls count reader.next.2

variable {reader : RecordReader} {line rest : List UInt8}

theorem reports_report (reader : RecordReader) (bytes : List UInt8) :
    Line.Reports reader.format reader.label reader.line bytes (reader.report bytes) := by
  rw [report, Line.record?]
  cases decoded : Text.ofBytes? bytes with
  | none => exact .noText decoded
  | some chars =>
      dsimp only
      by_cases blank : Text.trimChars chars = []
      · rw [if_pos (List.isEmpty_iff.2 blank)]
        exact .blank decoded blank
      · rw [if_neg (mt List.isEmpty_iff.1 blank)]
        cases read : reader.format.read (Text.trimChars chars) with
        | none => exact .noValue decoded blank read
        | some value =>
            cases object : value.isObject with
            | true => simpa [object] using .object decoded blank read object
            | false => simpa [object] using .noObject decoded blank read object

/-! ## One call -/

theorem next_of_nil (finished : reader.bytes = []) : reader.next = (none, reader) := by
  rw [next]
  split
  rename_i found
  rw [finished] at found
  cases found
  rfl

theorem next_of_short (starts : Content.Starts reader.bytes line rest)
    (short : line.length ≤ reader.maxLineBytes) :
    reader.next = match (reader.behind rest).report line with
      | none => (reader.behind rest).next
      | some answer => (some answer, reader.behind rest) := by
  rcases starts.takeLine_of_short short with ⟨ended, taken, atEnd⟩
  rw [next]
  split
  rename_i found
  cases taken.symm.trans found
  have present : ¬(line.isEmpty && !ended) = true := by
    rw [Bool.and_eq_true, List.isEmpty_iff]
    rintro ⟨same, unended⟩
    rw [atEnd same] at unended
    cases unended
  have fits : ¬(!ended && reader.maxLineBytes < line.length) = true := by
    simp [Nat.not_lt.2 short]
  rw [dif_neg present, if_neg fits]

theorem next_of_long (reader : RecordReader) (starts : Content.Starts reader.bytes line rest)
    (long : reader.maxLineBytes < line.length) :
    reader.next.1 = some (.error (.resource
      (.longLine (reader.line + 1) reader.label reader.maxLineBytes))) := by
  rcases starts.exists_takeLine_of_long long with ⟨rest, taken⟩
  have length : (line.take (reader.maxLineBytes + 1)).length = reader.maxLineBytes + 1 := by
    rw [List.length_take]
    omega
  rw [next]
  split
  rename_i found
  cases taken.symm.trans found
  rw [dif_neg, if_pos]
  · rfl
  · simp [length]
  · rw [Bool.not_false, Bool.and_true, List.isEmpty_iff_length_eq_zero, length]
    exact Nat.succ_ne_zero _

/-- A call that answers has consumed a line. -/
theorem length_next {answer : TableResult Value} {onward : RecordReader}
    (found : reader.next = (some answer, onward)) : onward.bytes.length < reader.bytes.length := by
  fun_induction next reader with
  | case1 => cases found
  | case2 reader line ended rest taken behind consumed =>
      rw [← (Prod.mk.inj found).2]
      exact Content.length_lt_of_takeLine taken consumed
  | case3 reader line ended rest taken behind consumed short blank ih =>
      exact Nat.lt_trans (ih found) (Content.length_lt_of_takeLine taken consumed)
  | case4 reader line ended rest taken behind consumed =>
      rw [← (Prod.mk.inj found).2]
      exact Content.length_lt_of_takeLine taken consumed

/-! ## Calls in a row -/

theorem calls_congr {other : RecordReader} (same : reader.next = other.next) (count : Nat) :
    calls count reader = calls count other := by
  cases count with
  | zero => rfl
  | succ count => rw [calls, calls, same]

/-- A line is answered in its place, or passed over. -/
theorem calls_of_short (reader : RecordReader) (starts : Content.Starts reader.bytes line rest)
    (short : line.length ≤ reader.maxLineBytes) (count : Nat) :
    calls (((reader.behind rest).report line).toList.length + count) reader =
      ((reader.behind rest).report line).toList.map some ++ calls count (reader.behind rest) := by
  have step := next_of_short starts short
  cases report : (reader.behind rest).report line with
  | none =>
      rw [report] at step
      simpa using calls_congr step count
  | some answer =>
      rw [report] at step
      rw [Option.toList_some, List.length_singleton, Nat.add_comm, calls, step]
      rfl

theorem calls_of_nil (finished : reader.bytes = []) (count : Nat) :
    calls count reader = List.replicate count none := by
  induction count with
  | zero => rfl
  | succ count ih => rw [calls, next_of_nil finished, ih, List.replicate_succ]

/-- Calls answer the lines in front of the first one that is too long, each in its place unless it
is blank, and lead to a reader of what is behind these lines. -/
theorem exists_calls (reader : RecordReader) :
    ∃ (reports : List (Option (TableResult Value))) (rest : List UInt8),
      List.Forall₂ (fun line report =>
          Line.Reports reader.format reader.label line.2 line.1 report)
        ((Content.shortLines reader.maxLineBytes reader.bytes).zipIdx (reader.line + 1)) reports ∧
      Content.physicalLines reader.bytes =
        Content.shortLines reader.maxLineBytes reader.bytes ++ Content.physicalLines rest ∧
      (rest = [] ∨ ∃ line behind, Content.Starts rest line behind ∧
        reader.maxLineBytes < line.length) ∧
      ∀ count, calls (reports.reduceOption.length + count) reader =
        reports.reduceOption.map some ++ calls count { reader with
          bytes := rest
          line := reader.line + (Content.shortLines reader.maxLineBytes reader.bytes).length } := by
  -- On the lines that are left. The reader behind the first of them has counted one more.
  induction text : reader.bytes using Content.induction_on_lines generalizing reader with
  | nil =>
      refine ⟨[], [], .nil, rfl, .inl rfl, fun count => ?_⟩
      rw [List.reduceOption_nil, List.length_nil, Nat.zero_add]
      cases reader
      cases text
      rfl
  | starts bytes line behind starts ih =>
      rcases Nat.lt_or_ge reader.maxLineBytes line.length with long | short
      · rw [starts.shortLines_of_long long]
        refine ⟨[], bytes, .nil, rfl, .inr ⟨line, behind, starts, long⟩, fun count => ?_⟩
        rw [List.reduceOption_nil, List.length_nil, Nat.zero_add]
        cases reader
        cases text
        rfl
      · rcases ih (reader.behind behind) rfl with ⟨reports, rest, reported, lines, ends, run⟩
        dsimp only [RecordReader.behind] at reported lines ends run
        rw [starts.shortLines_of_short short, starts.physicalLines_eq]
        refine ⟨(reader.behind behind).report line :: reports, rest,
          .cons (reports_report (reader.behind behind) line) reported,
          by rw [lines, List.cons_append], ends, fun count => ?_⟩
        have split : ((reader.behind behind).report line :: reports).reduceOption =
            ((reader.behind behind).report line).toList ++ reports.reduceOption := by
          cases (reader.behind behind).report line <;> rfl
        rw [split, List.length_append, Nat.add_assoc, calls_of_short reader (text ▸ starts) short,
          RecordReader.behind, run, List.map_append, List.append_assoc, List.length_cons,
          Nat.add_assoc, Nat.add_comm 1]

end RecordReader

/-! ## A cursor over the records of a reader -/

namespace Cursor

/-- The next row among the records that a reader gives. -/
def pull (cursor : Cursor) (reader : RecordReader) :
    Option (TableResult (List Value)) × Cursor :=
  match _found : reader.next with
  | (none, _) => (none, cursor.close)
  | (some (.error error), _) => (some (.error error), cursor.close)
  | (some (.ok value), onward) =>
      match cursor.scan.readRecord onward.line value with
      | .nothing => pull cursor onward
      | .failed error => (some (.error error), cursor.close)
      | .row row =>
          (some row, { cursor with
            produced := cursor.produced + 1
            progress := .reading (onward.line + 1)
              (Content.lines onward.maxLineBytes ⟨onward.bytes, none⟩) })
termination_by reader.bytes.length
decreasing_by exact RecordReader.length_next _found

variable {cursor : Cursor} {resource : Resource}

theorem pull_eq (reader : RecordReader) :
    cursor.pull reader = match reader.next with
      | (none, _) => (none, cursor.close)
      | (some (.error error), _) => (some (.error error), cursor.close)
      | (some (.ok value), onward) =>
          match cursor.scan.readRecord onward.line value with
          | .nothing => cursor.pull onward
          | .failed error => (some (.error error), cursor.close)
          | .row row =>
              (some row, { cursor with
                produced := cursor.produced + 1
                progress := .reading (onward.line + 1)
                  (Content.lines onward.maxLineBytes ⟨onward.bytes, none⟩) }) := by
  rw [pull]
  split <;> rename_i found <;> rw [found]

/-- The lines that a cursor goes through give it what a reader of the same bytes would. -/
theorem advance_eq_pull (reader : RecordReader) (format : reader.format = resource.format)
    (label : reader.label = resource.label)
    (limit : reader.maxLineBytes = cursor.scan.maxLineBytes) :
    cursor.advance resource (reader.line + 1)
      (Content.lines reader.maxLineBytes ⟨reader.bytes, none⟩) = cursor.pull reader := by
  induction text : reader.bytes using Content.induction_on_lines generalizing reader with
  | nil =>
      rw [Content.lines_nil, pull_eq, RecordReader.next_of_nil text]
      rfl
  | starts bytes line behind starts ih =>
      rcases Nat.lt_or_ge reader.maxLineBytes line.length with long | short
      · have answer := RecordReader.next_of_long reader (text ▸ starts) long
        rcases next : reader.next with ⟨first, onward⟩
        rw [next] at answer
        cases answer
        rw [starts.lines_of_long long, pull_eq, next, label, limit]
        rfl
      · have onward := ih (reader.behind behind) format label limit rfl
        have same : (reader.behind behind).format = resource.format := format
        rw [starts.lines_of_short short, pull_eq, RecordReader.next_of_short (text ▸ starts) short,
          RecordReader.report, same, advance, Scan.readLine]
        cases Line.record? resource.format line with
        | error fault =>
            rw [← label]
            rfl
        | ok record =>
            cases record with
            | none =>
                rw [pull_eq] at onward
                exact onward
            | some value =>
                have number : (reader.behind behind).line = reader.line + 1 := rfl
                simp only [Option.map_some, number]
                cases cursor.scan.readRecord (reader.line + 1) value with
                | nothing => exact onward
                | failed error => rfl
                | row row => rfl

end Cursor

/-! ## The main theorem -/

namespace RecordReader

/-- What a line tells is settled by its bytes. -/
theorem eq_report_of_reports (reader : RecordReader) {bytes : List UInt8}
    {told : Option (TableResult Value)}
    (reported : Line.Reports reader.format reader.label reader.line bytes told) :
    told = reader.report bytes := by
  rw [report, Line.record?]
  cases reported with
  | blank decoded blank => simp [decoded, blank]
  | object decoded present read object => simp [decoded, present, read, object]
  | noText undecodable => simp [undecodable]
  | noValue decoded present unread => simp [decoded, present, unread]
  | noObject decoded present read other => simp [decoded, present, read, other]

/-- Calls of a reader answer the lines of a text in order, up to the first line that is too long. A
blank line is passed over; any other is answered with its object, or with a fault and its number. Of
a line that is too long the number is told, and if there is none, all further calls find the end. A
line of just as many bytes as a line may have is answered alike with and without an end. A cursor
that goes through the lines of a content reads what such a reader gives. -/
theorem calls_reader (resource : Resource) (limit : Nat) :
    (∀ bytes, ∃ reports,
      List.Forall₂
        (fun line report => Line.Reports resource.format resource.label line.2 line.1 report)
        ((Content.shortLines limit bytes).zipIdx 1) reports ∧
      (Content.shortLines limit bytes = Content.physicalLines bytes → ∀ more,
        calls (reports.reduceOption.length + more) (resource.reader limit bytes) =
          reports.reduceOption.map some ++ List.replicate more none) ∧
      (Content.shortLines limit bytes ≠ Content.physicalLines bytes →
        calls (reports.reduceOption.length + 1) (resource.reader limit bytes) =
          reports.reduceOption.map some ++ [some (.error (.resource
            (.longLine ((Content.shortLines limit bytes).length + 1) resource.label limit)))])) ∧
    (∀ line, Content.lineEnd ∉ line → line ≠ [] → line.length = limit → ∃ report,
      Line.Reports resource.format resource.label 1 line report ∧
      ∀ ending ∈ [[], [Content.lineEnd]], ∀ more,
        calls (report.toList.length + more) (resource.reader limit (line ++ ending)) =
          report.toList.map some ++ List.replicate more none) ∧
    ∀ (cursor : Cursor) (bytes : List UInt8), cursor.scan.maxLineBytes = limit →
      cursor.advance resource 1 (Content.lines limit ⟨bytes, none⟩) =
        cursor.pull (resource.reader limit bytes) := by
  refine ⟨fun bytes => ?_, fun line clean present exact_ => ?_, fun cursor bytes same => ?_⟩
  · rcases exists_calls (resource.reader limit bytes)
      with ⟨reports, rest, reported, lines, ends, run⟩
    simp only [Resource.reader, Nat.zero_add] at reported lines ends run ⊢
    refine ⟨reports, reported, fun all more => ?_, fun longer => ?_⟩
    · rcases ends with rfl | ⟨line, behind, starts, -⟩
      · rw [run, calls_of_nil rfl]
      · rw [all, starts.physicalLines_eq] at lines
        simp at lines
    · rcases ends with rfl | ⟨line, behind, starts, long⟩
      · rw [lines] at longer
        exact absurd (List.append_nil _).symm longer
      · have answer := next_of_long
          ⟨resource.format, resource.label, limit, rest, (Content.shortLines limit bytes).length⟩
          starts long
        rw [run, calls, answer]
        rfl
  · have single (ending : List UInt8) (last : ending ∈ [[], [Content.lineEnd]]) :
        Content.Starts (line ++ ending) line [] := by
      rcases List.mem_pair.1 last with rfl | rfl
      · rw [List.append_nil]
        exact .last clean present
      · exact .ended clean
    refine ⟨_, reports_report ⟨resource.format, resource.label, limit, [], 1⟩ line,
      fun ending last more => ?_⟩
    have answered := calls_of_short (resource.reader limit (line ++ ending)) (single ending last)
      (Nat.le_of_eq exact_) more
    exact answered.trans (congrArg _ (calls_of_nil rfl more))
  · exact Cursor.advance_eq_pull (resource.reader limit bytes) rfl rfl same.symm

/-- An object, a blank line, and a line with one byte too many. -/
theorem calls_reader_braces :
    calls 2 (Resource.reader ⟨"Foo", none, .json, false⟩ 2
        [0x7b, 0x7d, 0x0a, 0x0a, 0x7b, 0x7d, 0x20]) =
      [some (.ok (.object [])), some (.error (.resource (.longLine 3 "Foo" 2)))] := by
  have short : Content.shortLines 2 [0x7b, 0x7d, 0x0a, 0x0a, 0x7b, 0x7d, 0x20] =
      [[0x7b, 0x7d], []] := by decide +kernel
  have longer : [[0x7b, 0x7d], []] ≠
      Content.physicalLines [0x7b, 0x7d, 0x0a, 0x0a, 0x7b, 0x7d, 0x20] := by decide +kernel
  rcases (calls_reader ⟨"Foo", none, .json, false⟩ 2).1
    [0x7b, 0x7d, 0x0a, 0x0a, 0x7b, 0x7d, 0x20] with ⟨reports, reported, -, answered⟩
  rw [short] at reported answered
  rcases reported with _ | ⟨first, others⟩
  rcases others with _ | ⟨second, last⟩
  cases last
  have one := eq_report_of_reports ⟨.json, "Foo", 2, [], 1⟩ first
  rw [report, Line.record?_braces] at one
  have two := eq_report_of_reports ⟨.json, "Foo", 2, [], 2⟩ second
  have blank : report ⟨.json, "Foo", 2, [], 2⟩ [] = none :=
    Option.isNone_iff_eq_none.1 (by decide +kernel)
  cases one
  cases two.trans blank
  exact answered longer

end RecordReader

end RecordQuery
