import RecordQuery.Route
import RecordQuery.Projection

/-!
# Walking values along routes

A walk goes depth first and in order. A null value, and a record that does not pass the filter of
its point, ends its branch. The leaves that survive are counted, handed to visitors, or projected
into rows.
-/

namespace RecordQuery

/-! ## Rows under construction -/

/-- The rows of one run. Collecting projections share one row, all others have one for each leaf
up to the limit. -/
structure RowBuffer where
  /-- The rows, the newest first. -/
  newest : List Value
  template : Value
  aggregate : Bool
  limit : Option Nat

namespace RowBuffer

def start (template : Value) (aggregate : Bool) (limit : Option Nat) : RowBuffer :=
  ⟨[], template, aggregate, limit⟩

def size (buffer : RowBuffer) : Nat := buffer.newest.length

def isEmpty (buffer : RowBuffer) : Bool := buffer.newest.isEmpty

def isFull (buffer : RowBuffer) : Bool :=
  !buffer.aggregate && buffer.limit.any (· ≤ buffer.size)

/-- The row for the next leaf and the rows before it: a new one, or the shared one once it is
there. -/
def slot (buffer : RowBuffer) : Value × List Value :=
  match buffer.newest with
  | row :: older => if buffer.aggregate then (row, older) else (buffer.template, row :: older)
  | [] => (buffer.template, [])

/-- Writes the row for the next leaf. -/
def write (buffer : RowBuffer) (row : Value) : RowBuffer :=
  { buffer with newest := row :: buffer.slot.2 }

/-- The rows in order, not more than the limit. A collecting projection always has one row. -/
def finish (buffer : RowBuffer) : List Value :=
  let rows := buffer.newest.reverse
  if buffer.aggregate then if rows.isEmpty then [buffer.template] else rows
  else
    match buffer.limit with
    | some limit => rows.take limit
    | none => rows

end RowBuffer

namespace Route

/-- Whether a value passes the filter of a point. -/
def passes (filter : Option Condition) (value : Value) (arguments : Arguments) :
    QueryResult Bool :=
  match filter with
  | some condition => condition.evaluate value arguments
  | none => .ok true

/-- The elements of an array value at a point of a route. -/
def elements (label : String) : Value → QueryResult (List Value)
  | .array items => .ok items
  | other => .error (.execution label (.notArray other))

/-- How many leaves a value has. -/
def count (arguments : Arguments) : Route → Value → QueryResult Nat
  | .leaf _ _ filter, value => do
      if value.isNull then return 0
      return if ← passes filter value arguments then 1 else 0
  | .descend _ _ filter field next, value => do
      if value.isNull then return 0
      if !(← passes filter value arguments) then return 0
      match ← field.get value with
      | some item => next.count arguments item
      | none => return 0
  | .each label _ next, value => do
      if value.isNull then return 0
      (← elements label value).foldlM (fun total item => do
        return total + (← next.count arguments item)) 0

/-- Projects the leaves of a value into rows until the buffer is full. -/
def project (arguments : Arguments) (projection : Projection) :
    Route → Value → RowBuffer → QueryResult RowBuffer
  | .leaf _ _ filter, value, buffer => do
      if buffer.isFull || value.isNull then return buffer
      if !(← passes filter value arguments) then return buffer
      let (row, outcome) := projection.apply value buffer.slot.1
      outcome
      return buffer.write row
  | .descend _ _ filter field next, value, buffer => do
      if buffer.isFull || value.isNull then return buffer
      if !(← passes filter value arguments) then return buffer
      match ← field.get value with
      | some item => next.project arguments projection item buffer
      | none => return buffer
  | .each label _ next, value, buffer => do
      if buffer.isFull || value.isNull then return buffer
      (← elements label value).foldlM (fun buffer item =>
        if buffer.isFull then pure buffer else next.project arguments projection item buffer) buffer

/-! ## Visitors -/

/-- The callbacks of a walk, over a state `σ` of the caller. A callback that is left out is not
called, and one that fails ends the walk. -/
structure Visitors (σ : Type) where
  /-- Called with every leaf. -/
  leaf : Option (Value → ExceptT QueryError (StateM σ) Unit)
  /-- Called at every record on the way, before anything below it; also for leaves that are
  records. -/
  record : Option (Route → Value → ExceptT QueryError (StateM σ) Unit)

namespace Visitors

variable {σ : Type}

def onLeaf (visitors : Visitors σ) (value : Value) : ExceptT QueryError (StateM σ) Unit :=
  match visitors.leaf with
  | some visit => visit value
  | none => pure ()

def onRecord (visitors : Visitors σ) (route : Route) (value : Value) :
    ExceptT QueryError (StateM σ) Unit :=
  match visitors.record with
  | some visit => visit route value
  | none => pure ()

end Visitors

/-- Calls the visitors along a route, depth first and in order. -/
def visit {σ : Type} (arguments : Arguments) (visitors : Visitors σ) :
    Route → Value → ExceptT QueryError (StateM σ) Unit
  | .leaf label schema filter, value => do
      if value.isNull then return ()
      if !(← liftM (passes filter value arguments)) then return ()
      if value.isObject then visitors.onRecord (.leaf label schema filter) value
      visitors.onLeaf value
  | .descend label schema filter field next, value => do
      if value.isNull then return ()
      if !(← liftM (passes filter value arguments)) then return ()
      visitors.onRecord (.descend label schema filter field next) value
      match ← liftM (field.get value) with
      | some item => next.visit arguments visitors item
      | none => return ()
  | .each label _ next, value => do
      if value.isNull then return ()
      let items ← liftM (elements label value)
      items.forM fun item => next.visit arguments visitors item

end Route

end RecordQuery
