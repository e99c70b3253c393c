import RecordQuery.Condition
import RecordQuery.Schema.Conform
import RecordQuery.Table.Lines
import RecordQuery.Table.RowPlan

/-!
# Rows of tables

A cursor goes through the rows of one run of a statement. It looks into the file when the first row
is asked for and gives one row at a time, until the limit, the end of the file or the first error.
-/

namespace RecordQuery

/-- What one run of a statement asks of a table. Without a resource there are no rows. -/
structure Scan where
  type : RecordType
  plan : RowPlan
  filter : Option Condition
  arguments : Arguments
  resource : Option Resource
  maxLineBytes : Nat
  limit : Option Nat

namespace Scan

/-- Refuses a record in which a scalar field has a value of another kind. -/
def check (type : RecordType) (record : Value) : TableResult (Option LineFault) :=
  .ofQuery (checkFields type.accessors)
where
  checkFields : List Accessor → QueryResult (Option LineFault)
    | [] => .ok none
    | field :: rest =>
        match field.schema.kind? with
        | none => checkFields rest
        | some kind => do
            match ← field.get record with
            | some value =>
                if kind.accepts value then checkFields rest
                else return some (.wrongKind field.name kind value)
            | none => checkFields rest

/-- What one line of the file contributes: nothing, a row, or an error behind which there is no
row. A row that cannot be made is an error of its own. -/
inductive Found where
  | nothing
  | row (row : TableResult (List Value))
  | failed (error : TableError)

/-- Whether a record that passed the check is asked for, and its row. -/
def select (scan : Scan) (record : Value) : Found :=
  let row := Found.row (.ofQuery (scan.plan.row record))
  match scan.filter with
  | none => row
  | some filter =>
      match filter.evaluate record scan.arguments with
      | .error error => .failed (.query error)
      | .ok true => row
      | .ok false => .nothing

/-- What a record on a line contributes. It is brought into the shape of the type first. -/
def readRecord (scan : Scan) (number : Nat) (value : Value) : Found :=
  let record := scan.type.conform value
  match check scan.type record with
  | .error error => .failed error
  | .ok (some fault) => .failed (.line scan.type.name number fault)
  | .ok none => scan.select record

/-- What a line of a file contributes. -/
def readLine (scan : Scan) (resource : Resource) (number : Nat) : Line → Found
  | .unreadable fault => .failed (.file fault)
  | .tooLong => .failed (.resource (.longLine number resource.label scan.maxLineBytes))
  | .text bytes =>
      match Line.record? resource.format bytes with
      | .error fault => .failed (.line resource.label number fault)
      | .ok none => .nothing
      | .ok (some value) => scan.readRecord number value

end Scan

/-- How far a cursor has come. -/
inductive Progress where
  | unopened
  /-- The lines still to be read, of which the first has a number. -/
  | reading (number : Nat) (lines : List Line)
  | closed

/-- The rows of one run that are still to come. -/
structure Cursor where
  scan : Scan
  produced : Nat
  progress : Progress

namespace Cursor

def start (scan : Scan) : Cursor := ⟨scan, 0, .unopened⟩

def close (cursor : Cursor) : Cursor := { cursor with progress := .closed }

/-- Whether the limit leaves no more rows. -/
def isFull (cursor : Cursor) : Bool :=
  cursor.scan.limit.any (· ≤ cursor.produced)

/-- The next row among some lines. -/
def advance (cursor : Cursor) (resource : Resource) (number : Nat) :
    List Line → Option (TableResult (List Value)) × Cursor
  | [] => (none, cursor.close)
  | line :: rest =>
      match cursor.scan.readLine resource number line with
      | .nothing => advance cursor resource (number + 1) rest
      | .failed error => (some (.error error), cursor.close)
      | .row row =>
          (some row, { cursor with
            produced := cursor.produced + 1
            progress := .reading (number + 1) rest })

/-- The next row, or none behind the last one. The files count when the first row is asked for. -/
def next (files : Files) (cursor : Cursor) : Option (TableResult (List Value)) × Cursor :=
  if cursor.isFull then (none, cursor)
  else
    match cursor.progress, cursor.scan.resource with
    | .closed, _ => (none, cursor)
    | _, none => (none, cursor.close)
    | .unopened, some resource =>
        cursor.advance resource 1
          ((resource.content files).lines cursor.scan.maxLineBytes)
    | .reading number lines, some resource => cursor.advance resource number lines

/-- All rows that are still to come, at most `fuel` of them. -/
def takeRows (files : Files) : (fuel : Nat) → Cursor → List (TableResult (List Value))
  | 0, _ => []
  | fuel + 1, cursor =>
      match cursor.next files with
      | (none, _) => []
      | (some row, cursor) => row :: takeRows files fuel cursor

/-- How many lines can still be read. -/
def remaining (files : Files) (cursor : Cursor) : Nat :=
  match cursor.progress, cursor.scan.resource with
  | .unopened, some resource =>
      ((resource.content files).lines cursor.scan.maxLineBytes).length
  | .reading _ lines, _ => lines.length
  | _, _ => 0

/-- All rows that are still to come. -/
def rows (files : Files) (cursor : Cursor) : List (TableResult (List Value)) :=
  takeRows files (cursor.remaining files) cursor

end Cursor

end RecordQuery
