import RecordQuery.Schema.Accessor

/-!
# Copying one field

A column of a query copies one field of a source record into one field of a destination record. How
it does so is settled by the schemas of both fields.
-/

namespace RecordQuery

/-- How a value is copied. Widening turns integers into doubles. -/
inductive Strategy where
  /-- The same scalar kind on both sides. -/
  | sameScalar
  /-- The same schema with parts on both sides. -/
  | sameValue
  /-- The same schema apart from optional layers, or an integer into a double. -/
  | convert (widen : Bool)
  /-- The value is appended to an array in the destination. -/
  | collect (widen : Bool)
  deriving DecidableEq

namespace Strategy

/-- Whether a value of one schema can be stored as another when optional layers are ignored, and
if so whether it has to be widened. -/
def fit? (source dest : Schema) : Option Bool :=
  if source.required = dest.required then some false
  else
    match source.required, dest.required with
    | .scalar .int, .scalar .float => some true
    | _, _ => none

/-- The strategy for a source and a destination field. -/
def resolve (source dest : Schema) (aggregate : Bool) : QueryResult Strategy :=
  if aggregate then
    match dest.required with
    | .array element =>
        match fit? source element with
        | some widen => .ok (.collect widen)
        | none => .error (.compile (.noConversion source dest))
    | other => .error (.compile (.aggregateIntoScalar other))
  else if source = dest then .ok (if source.isScalar then .sameScalar else .sameValue)
  else
    match fit? source dest with
    | some widen => .ok (.convert widen)
    | none => .error (.compile (.noConversion source dest))

end Strategy

/-- The copy of one source field into one destination field. -/
structure ColumnCopy where
  source : Accessor
  dest : Accessor
  strategy : Strategy

namespace ColumnCopy

/-- The copy between two fields, or why there is none. -/
def make (source dest : Accessor) (aggregate : Bool) : QueryResult ColumnCopy := do
  return { source, dest, strategy := ← Strategy.resolve source.schema dest.schema aggregate }

def isAggregate (copy : ColumnCopy) : Bool :=
  match copy.strategy with
  | .collect _ => true
  | _ => false

/-- The source value, refused where the source is a scalar and the value no instance of it. -/
def checked (copy : ColumnCopy) (value : Value) : QueryResult Value :=
  match copy.source.schema.kind? with
  | some kind =>
      if kind.accepts value then .ok value
      else .error (.execution copy.source.name (.wrongKind kind value))
  | none => .ok value

/-- The source value as the destination stores it. -/
def convert (copy : ColumnCopy) (widen : Bool) (value : Value) : QueryResult Value :=
  if widen then
    match value with
    | .number n => .ok (.number (.float n.toDouble))
    | other => .error (.execution copy.source.name (.wrongKind .int other))
  else copy.checked value

/-- The value collected where the source has none. -/
def missing (copy : ColumnCopy) : Value :=
  match copy.dest.schema.required with
  | .array element => element.zero
  | _ => .null

/-- The destination with one more item in its array; null counts as the empty array. -/
def append (copy : ColumnCopy) (dest item : Value) : QueryResult Value := do
  let (slot, dest) ← copy.dest.reach dest
  match slot with
  | .null => copy.dest.set dest (.array [item])
  | .array items => copy.dest.set dest (.array (items ++ [item]))
  | other => throw (.execution copy.dest.name (.notArray other))

/-- The destination record after the copy. A source that is absent or null leaves it as it is,
unless values are collected. -/
def apply (copy : ColumnCopy) (source dest : Value) : QueryResult Value := do
  match copy.strategy, ← copy.source.get source with
  | .sameScalar, some value => copy.dest.set dest (← copy.checked value)
  | .sameValue, some value => copy.dest.set dest value
  | .convert widen, some value => copy.dest.set dest (← copy.convert widen value)
  | .collect widen, some value => copy.append dest (← copy.convert widen value)
  | .collect _, none => copy.append dest copy.missing
  | _, none => return dest

end ColumnCopy

end RecordQuery
