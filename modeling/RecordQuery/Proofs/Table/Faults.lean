import RecordQuery.Proofs.Table.Calls
import RecordQuery.Proofs.Table.Folding

/-!
# Faults of a run

A line is checked before a condition or a column looks at its record. The check covers all that
they ask of the record, so a run that was made can only fail on its file: what cannot be read, or
is no record of the table. No error of a query is left for its rows.
-/

namespace RecordQuery

/-- An error that lies in the file of a table: its bytes cannot be read, it is no file of records,
or one of its lines is no record. -/
inductive TableError.OfFile : TableError → Prop where
  | file (fault : FileFault) : OfFile (.file fault)
  | resource (fault : ResourceFault) : OfFile (.resource fault)
  | line (table : String) (number : Nat) (fault : LineFault) : OfFile (.line table number fault)

/-! ## Reading a line -/

theorem RecordType.isObject_conform (type : RecordType) (value : Value) :
    (type.conform value).isObject = value.isObject := by
  cases value <;> rfl

/-- The check of an object has an answer, whatever its type and its fields are. -/
theorem Scan.exists_check (type : RecordType) {record : Value} (object : record.isObject = true) :
    ∃ answer, Scan.check type record = .ok answer := by
  have each (fields : List Accessor) :
      ∃ answer, Scan.check.checkFields record fields = .ok answer := by
    induction fields with
    | nil => exact ⟨none, rfl⟩
    | cons field rest ih =>
        have read : ∃ value, field.get record = .ok value := by
          cases record with
          | object given => exact ⟨_, rfl⟩
          | _ => cases object
        rcases read with ⟨value, read⟩
        rw [Scan.check.checkFields.eq_def]
        dsimp only
        split
        · exact ih
        · rw [read, Outcome.ok_bind]
          split
          · split
            · exact ih
            · exact ⟨_, rfl⟩
          · exact ih
  rcases each type.accessors with ⟨answer, checked⟩
  exact ⟨answer, TableResult.ofQuery_eq_ok.2 checked⟩

/-- A line that cannot be read as a record is a fault of the file. -/
theorem Table.ofFile_of_read {table : Table} {number : Nat} {line : Line} {error : TableError}
    (failed : table.read number line = .error error) : error.OfFile := by
  cases line with
  | unreadable fault =>
      cases failed
      exact .file fault
  | tooLong =>
      cases failed
      exact .resource _
  | text bytes =>
      rw [read] at failed
      cases found : Line.record? table.resource.format bytes with
      | error fault =>
          rw [found] at failed
          cases failed
          exact .line _ _ fault
      | ok value =>
          rw [found] at failed
          cases value with
          | none => cases failed
          | some value =>
              have object : (table.type.conform value).isObject = true := by
                rw [RecordType.isObject_conform]
                exact isObject_of_record? found
              rcases Scan.exists_check table.type object with ⟨answer, checked⟩
              simp only [checked] at failed
              cases answer with
              | none => cases failed
              | some fault =>
                  cases failed
                  exact .line _ _ fault

namespace Scan

variable {scan : Scan}

/-- The condition of a run has an answer on every record that its type admits. -/
def Answers (scan : Scan) : Prop :=
  ∀ given, scan.type.Admits given →
    ∃ passed, Route.passes scan.filter (.object given) scan.arguments = .ok passed

/-- One line: where the condition answers, only the file can be at fault. -/
theorem ofFile_of_lineRow (answers : scan.Answers) {resource : Resource} {number : Nat}
    {line : Line} {error : TableError}
    (failed : scan.lineRow resource number line = .error error) : error.OfFile := by
  rw [lineRow] at failed
  cases found : (scan.table resource).read number line with
  | error other =>
      rw [found] at failed
      cases failed
      exact Table.ofFile_of_read found
  | ok record =>
      rw [found] at failed
      cases record with
      | none => cases failed
      | some record =>
          rcases Table.admits_of_read found with ⟨given, rfl, admits⟩
          rcases answers given admits with ⟨passed, tested⟩
          rcases scan.plan.exists_row given with ⟨row, made⟩
          have decided : scan.stage.test (.object given) = .ok passed :=
            TableResult.ofQuery_eq_ok.2 tested
          simp only [Outcome.ok_bind, decided, made] at failed
          cases passed <;> cases failed

end Scan

/-! ## Whole runs -/

theorem mem_of_mem_upToError {α : Type} {results : List (TableResult α)} {result : TableResult α}
    (member : result ∈ upToError results) : result ∈ results := by
  induction results with
  | nil => cases member
  | cons first rest ih =>
      cases first with
      | error error => exact List.mem_cons.2 (.inl (List.mem_singleton.1 member))
      | ok value =>
          rcases List.mem_cons.1 member with same | later
          · exact List.mem_cons.2 (.inl same)
          · exact List.mem_cons_of_mem _ (ih later)

/-- Calls are answered with the rows that are there, and with nothing else. -/
theorem mem_of_mem_drained {rows : List (TableResult (List Value))} {calls : List Call}
    {row : TableResult (List Value)} (member : some row ∈ drained rows calls) : row ∈ rows := by
  induction calls generalizing rows with
  | nil => cases member
  | cons call rest ih =>
      cases call with
      | close => cases eq_none_of_mem_drained_nil member
      | next files =>
          rcases List.mem_cons.1 member with first | later
          · exact List.mem_of_mem_head? first.symm
          · exact List.mem_of_mem_tail (ih later)

theorem Scan.ofFile_of_mem_shows {scan : Scan} (answers : scan.Answers) {files : Files}
    {error : TableError} (member : .error error ∈ scan.shows files) : error.OfFile := by
  rw [shows] at member
  split at member
  · cases member
  · rcases List.mem_filterMap.1 (mem_of_mem_upToError (mem_of_mem_within member))
      with ⟨⟨line, number⟩, -, shown⟩
    dsimp only at shown
    rw [TableResult.shown.eq_def] at shown
    split at shown
    · cases shown
    · cases shown
    · rename_i failed
      cases shown
      exact ofFile_of_lineRow answers failed

/-- The condition of a run was bound to the type of its records. -/
theorem Connection.answers_of_query {connection : Connection} {files : Files} {now : Instant}
    {prepared : Prepared} {args : List Value} {cursor : Cursor}
    (found : connection.query files now prepared args = .ok cursor) :
    cursor = .start cursor.scan ∧ cursor.scan.Answers := by
  rcases binds_of_query found with ⟨select, table, scan, -, -, rfl, -, -, binds, -⟩
  exact ⟨rfl, fun given admits => binds.answers admits.orders⟩

/-- A run that was made never answers with an error of a query, whatever its caller does and
whatever its file holds: every error lies in the file. On each record that passes the check, the
condition has an answer, and every column has a value. -/
theorem Cursor.ofFile_of_query {connection : Connection} {files : Files} {now : Instant}
    {prepared : Prepared} {args : List Value} {cursor : Cursor}
    (found : connection.query files now prepared args = .ok cursor) :
    (∀ calls error, some (.error error) ∈ cursor.answers calls → error.OfFile) ∧
    ∀ record, record.isObject = true → Scan.check cursor.scan.type record = .ok none →
      (∃ passed, Route.passes cursor.scan.filter record cursor.scan.arguments = .ok passed) ∧
      ∃ row, cursor.scan.plan.row record = .ok row := by
  rcases Connection.answers_of_query found with ⟨started, answers⟩
  constructor
  · intro calls error member
    rw [started, answers_start_eq_drained] at member
    have shown := mem_of_mem_drained member
    rw [Scan.showsTo.eq_def] at shown
    split at shown
    · exact Scan.ofFile_of_mem_shows answers shown
    · cases shown
  · intro record object checked
    cases record with
    | object given =>
        exact ⟨answers given (Table.admits_of_check checked), cursor.scan.plan.exists_row given⟩
    | _ => cases object

/-- The directory with a record that has a text for its number. -/
def Sql.Select.spoiltFiles : Files where
  workingDirectory := "/"
  at? path :=
    if path == "data/Foo.json" then
      some (.file "\x7b\"Id\":\"one\",\"Name\":\"one\"\x7d".toUTF8.toList)
    else none

/-- The spoilt record is an error of its line. -/
theorem Cursor.ofFile_of_query_spoilt :
    ∃ cursor error,
      Sql.Select.fooConnection.query Sql.Select.fooFiles ⟨0, 0⟩ ⟨"", .select Sql.Select.large⟩ [] =
        .ok cursor ∧
      some (.error error) ∈ cursor.answers [.next Sql.Select.spoiltFiles] ∧ error.OfFile := by
  have runs : (do
      let cursor ← Sql.Select.fooConnection.query Sql.Select.fooFiles ⟨0, 0⟩
        ⟨"", .select Sql.Select.large⟩ []
      return (cursor.answers [.next Sql.Select.spoiltFiles]).any
        (Option.any fun row => !row.isOk)).toOption = some true := by
    decide +kernel
  rcases Outcome.bind_eq_ok.1 (Outcome.toOption_eq_some.1 runs) with ⟨cursor, found, failed⟩
  rcases List.any_eq_true.1 (Except.ok.inj failed) with ⟨answer, member, failed⟩
  rcases (Option.any_eq_true _ _).1 failed with ⟨row, rfl, failed⟩
  cases row with
  | ok row => cases failed
  | error error =>
      exact ⟨cursor, error, found, member, (ofFile_of_query found).1 _ error member⟩

end RecordQuery
