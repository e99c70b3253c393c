import RecordQuery.Proofs.Condition.Typing
import RecordQuery.Proofs.Table.Lines
import RecordQuery.Proofs.Within
import RecordQuery.Table.Cursor

/-!
# Records of a table

The lines of a file hold the records of its table, up to the first line that cannot be
read. What a run shows of a table depends on these records only: they are filtered, turned
into rows, and cut off at the limit.
-/

namespace RecordQuery

theorem TableResult.ofQuery_eq_ok {α : Type} {outcome : QueryResult α} {value : α} :
    TableResult.ofQuery outcome = .ok value ↔ outcome = .ok value := by
  cases outcome with
  | error error => simp [TableResult.ofQuery]
  | ok found => simp [TableResult.ofQuery]

/-- A file read as records of a type. -/
structure Table where
  type : RecordType
  resource : Resource
  maxLineBytes : Nat

namespace Table

variable {table : Table}

/-- The record on a line, brought into the shape of the type and checked; none on a blank
line. -/
def read (table : Table) (number : Nat) : Line → TableResult (Option Value)
  | .unreadable fault => .error (.file fault)
  | .tooLong => .error (.resource (.longLine number table.resource.label table.maxLineBytes))
  | .text bytes =>
      match Line.record? table.resource.format bytes with
      | .error fault => .error (.line table.resource.label number fault)
      | .ok none => .ok none
      | .ok (some value) =>
          match Scan.check table.type (table.type.conform value) with
          | .error error => .error error
          | .ok (some fault) => .error (.line table.type.name number fault)
          | .ok none => .ok (some (table.type.conform value))

/-- The records on lines of which the first has a number. What cannot be read is the
last. -/
def recordsFrom (table : Table) (number : Nat) : List Line → List (TableResult Value)
  | [] => []
  | line :: rest =>
      match table.read number line with
      | .error error => [.error error]
      | .ok none => recordsFrom table (number + 1) rest
      | .ok (some record) => .ok record :: recordsFrom table (number + 1) rest

/-- The records of a content. -/
def records (table : Table) (content : Content) : List (TableResult Value) :=
  table.recordsFrom 1 (content.lines table.maxLineBytes)

/-- A value is the record on a line that a file may have. -/
def Holds (table : Table) (record : Value) : Prop :=
  ∃ bytes, Content.lineEnd ∉ bytes ∧ bytes.length ≤ table.maxLineBytes ∧
    ∀ number, table.read number (.text bytes) = .ok (some record)

/-- Nothing but the last of what is read can be an error. -/
theorem records_shape (content : Content) :
    ∃ list : List Value, table.records content = list.map .ok ∨
      ∃ error, table.records content = list.map .ok ++ [.error error] := by
  have each (lines : List Line) (number : Nat) :
      ∃ list : List Value, table.recordsFrom number lines = list.map .ok ∨
        ∃ error, table.recordsFrom number lines = list.map .ok ++ [.error error] := by
    induction lines generalizing number with
    | nil => exact ⟨[], .inl rfl⟩
    | cons line rest ih =>
        rcases ih (number + 1) with ⟨list, shape⟩
        rw [recordsFrom]
        cases table.read number line with
        | error error => exact ⟨[], .inr ⟨error, rfl⟩⟩
        | ok record =>
            cases record with
            | none => exact ⟨list, shape⟩
            | some record =>
                rcases shape with whole | ⟨error, cut⟩
                · exact ⟨record :: list, .inl (congrArg (.ok record :: ·) whole)⟩
                · exact ⟨record :: list, .inr ⟨error, congrArg (.ok record :: ·) cut⟩⟩
  exact each _ 1

/-! ## Contents with given records -/

/-- A record is what a line holds, in the shape of the type, where it passes the check. -/
theorem read_eq_some {number : Nat} {line : Line} {record : Value} :
    table.read number line = .ok (some record) ↔
      ∃ bytes value, line = .text bytes ∧
        Line.record? table.resource.format bytes = .ok (some value) ∧
        Scan.check table.type record = .ok none ∧ record = table.type.conform value := by
  constructor
  · intro found
    cases line with
    | unreadable fault => cases found
    | tooLong => cases found
    | text bytes =>
        rw [read] at found
        split at found
        · cases found
        · cases found
        · rename_i value known
          split at found
          · cases found
          · cases found
          · rename_i checked
            cases found
            exact ⟨bytes, value, rfl, known, checked, rfl⟩
  · rintro ⟨bytes, value, rfl, known, checked, rfl⟩
    simp only [read, known, checked]

theorem holds_of_mem_records {content : Content} {record : Value}
    (member : .ok record ∈ table.records content) : table.Holds record := by
  have each (lines : List Line) (number : Nat)
      (clean : ∀ bytes, .text bytes ∈ lines →
        Content.lineEnd ∉ bytes ∧ bytes.length ≤ table.maxLineBytes)
      (member : .ok record ∈ table.recordsFrom number lines) : table.Holds record := by
    induction lines generalizing number with
    | nil => cases member
    | cons line rest ih =>
        have later :=
          fun number => ih number fun bytes inside => clean bytes (List.mem_cons_of_mem _ inside)
        rw [recordsFrom] at member
        split at member
        · cases List.mem_singleton.1 member
        · exact later _ member
        · rename_i found
          rcases List.mem_cons.1 member with same | behind
          · cases same
            cases line with
            | unreadable fault => cases found
            | tooLong => cases found
            | text bytes =>
                rcases clean bytes List.mem_cons_self with ⟨own, short⟩
                exact ⟨bytes, own, short, fun number => read_eq_some.2 (read_eq_some.1 found)⟩
          · exact later _ behind
  exact each _ 1 (fun bytes => Content.clean_of_mem_lines) member

/-- Records that a file may hold stand on clean lines, whatever lies behind them. -/
theorem exists_lines {list : List Value} (each : ∀ record ∈ list, table.Holds record) :
    ∃ texts : List (List UInt8),
      (∀ text ∈ texts, Content.lineEnd ∉ text ∧ text.length ≤ table.maxLineBytes) ∧
      ∀ number behind, table.recordsFrom number (texts.map Line.text ++ behind) =
        list.map .ok ++ table.recordsFrom (number + texts.length) behind := by
  induction list with
  | nil => exact ⟨[], by simp, fun number behind => rfl⟩
  | cons record rest ih =>
      rcases each record List.mem_cons_self with ⟨bytes, clean, short, found⟩
      rcases ih fun other member => each other (List.mem_cons_of_mem _ member)
        with ⟨texts, others, later⟩
      refine ⟨bytes :: texts, ?_, ?_⟩
      · intro text member
        rcases List.mem_cons.1 member with rfl | behind
        · exact ⟨clean, short⟩
        · exact others text behind
      · intro number behind
        rw [List.map_cons, List.cons_append, recordsFrom, found number]
        simp only [later, List.map_cons, List.cons_append, List.length_cons, Nat.add_assoc,
          Nat.add_comm 1]

/-- Records that a file may hold are all records of some content. -/
theorem exists_content {list : List Value} (each : ∀ record ∈ list, table.Holds record) :
    ∃ content, table.records content = list.map .ok := by
  rcases exists_lines each with ⟨texts, clean, found⟩
  refine ⟨Content.ofLines texts [], ?_⟩
  rw [records, Content.lines_ofLines clean, Content.lines_nil, found, recordsFrom, List.append_nil]

theorem holds_of_mem_replicate {record : Value} (holds : table.Holds record) {count : Nat} :
    ∀ other ∈ List.replicate count record, table.Holds other := by
  intro other copy
  cases List.eq_of_mem_replicate copy
  exact holds

/-- They are also the records of some content with a line behind them that cannot be
read. -/
theorem exists_content_failing {list : List Value} (each : ∀ record ∈ list, table.Holds record) :
    ∃ content error, table.records content = list.map .ok ++ [.error error] := by
  rcases exists_lines each with ⟨texts, clean, found⟩
  let long : List UInt8 := List.replicate (table.maxLineBytes + 1) 0x61
  have plain : Content.lineEnd ∉ long := fun member => by
    cases List.eq_of_mem_replicate member
  refine ⟨Content.ofLines texts long,
    .resource (.longLine (1 + texts.length) table.resource.label table.maxLineBytes), ?_⟩
  rw [records, Content.lines_ofLines clean, Content.lines_of_long plain List.length_replicate,
    found]
  rfl

/-! ## Checked records -/

theorem isObject_of_record? {format : Format} {bytes : List UInt8} {value : Value}
    (found : Line.record? format bytes = .ok (some value)) : value.isObject = true := by
  rw [Line.record?] at found
  split at found
  · cases found
  · dsimp only at found
    split at found
    · cases found
    · split at found
      · cases found
      · split at found
        · rename_i object
          cases found
          exact object
        · cases found

theorem accepts_of_checkFields {given : Fields} {fields : List Accessor}
    (checked : Scan.check.checkFields (.object given) fields = .ok none) :
    ∀ field ∈ fields, ∀ kind, field.schema.kind? = some kind → ∀ value,
      given.get? field.name = some value → value.isNull = true ∨ kind.accepts value = true := by
  induction fields with
  | nil => simp
  | cons first rest ih =>
      intro field member kind known value found
      rw [Scan.check.checkFields.eq_def] at checked
      dsimp only at checked
      rcases List.mem_cons.1 member with rfl | behind
      · rw [known] at checked
        cases present : value.isNull with
        | true => exact .inl rfl
        | false =>
            have read : field.get (.object given) = .ok (some value) := by
              rw [Accessor.get, found]
              simp [Option.filter, present]
            simp only [read, Outcome.ok_bind] at checked
            split at checked
            · rename_i accepted
              exact .inr accepted
            · cases checked
      · refine ih ?_ field behind kind known value found
        split at checked
        · exact checked
        · rcases Outcome.bind_eq_ok.1 checked with ⟨value, read, checked⟩
          cases value with
          | none => exact checked
          | some value =>
              dsimp only at checked
              split at checked
              · exact checked
              · cases checked

/-- The check looks at every scalar field, so its type admits what passes it. -/
theorem admits_of_check {type : RecordType} {given : Fields}
    (checked : Scan.check type (.object given) = .ok none) : type.Admits given := by
  intro field member kind own value inside
  rcases RecordType.exists_accessor member with ⟨accessor, listed, rfl⟩
  exact accepts_of_checkFields (TableResult.ofQuery_eq_ok.1 checked) accessor listed kind own value
    inside

/-- What is read from a line is an object that the type admits. -/
theorem admits_of_read {number : Nat} {line : Line} {record : Value}
    (found : table.read number line = .ok (some record)) :
    ∃ given, record = .object given ∧ table.type.Admits given := by
  rcases read_eq_some.1 found with ⟨bytes, value, -, known, checked, rfl⟩
  have object := isObject_of_record? known
  cases value with
  | object raw => exact ⟨_, rfl, admits_of_check checked⟩
  | _ => cases object

/-- The records of a table are objects that its type admits. -/
theorem admits_of_holds {record : Value} (holds : table.Holds record) :
    ∃ given, record = .object given ∧ table.type.Admits given := by
  rcases holds with ⟨bytes, -, -, found⟩
  exact admits_of_read (found 0)

end Table

end RecordQuery
