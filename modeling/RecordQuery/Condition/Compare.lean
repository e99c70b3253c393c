import RecordQuery.Schema

/-!
# Comparing values

Values of one scalar kind are ordered: numbers by their value, texts by code points, `false` before
`true`, and times by the moments they name.
-/

namespace RecordQuery

/-- The order of two numbers: of words if both are signed words, else of the nearest doubles. -/
def Number.order (a b : Number) : Ordering :=
  match a.signed?, b.signed? with
  | some a, some b => compare a.toInt b.toInt
  | _, _ => a.toDouble.order b.toDouble

/-- The order of two time values. Text that names no moment is ordered as text. -/
def timeOrder (a b : String) : Ordering :=
  match Instant.read? a, Instant.read? b with
  | some a, some b => a.order b
  | _, _ => compare a b

/-- The order of two values as instances of a kind; none where one of them is no such instance. -/
def compareValues : ScalarKind → Value → Value → Option Ordering
  | .int, .number a, .number b | .float, .number a, .number b => some (a.order b)
  | .string, .string a, .string b => some (compare a b)
  | .bool, .bool a, .bool b => some (compare a b)
  | .time, .string a, .string b => some (timeOrder a b)
  | _, _, _ => none

end RecordQuery
