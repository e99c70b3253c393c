import RecordQuery.Table.Error
import RecordQuery.Condition.Binding
import RecordQuery.Number.Literal

/-!
# Casts

A cast turns a value into one of a scalar kind. Numbers become text and text becomes numbers; null
stays null.
-/

namespace RecordQuery

/-- The nearest whole number of a signed word to a double that is a whole number. -/
def Double.clampInt64 (x : Double) : Int64 :=
  Int64.ofInt (max (-0x8000000000000000) (min 0x7fffffffffffffff x.truncate))

/-- A truth value in words. -/
def readBool? (text : String) : Option Bool :=
  if ["1", "t", "true"].contains text.toLower then some true
  else if ["0", "f", "false"].contains text.toLower then some false
  else none

namespace ScalarKind

/-- The kind that a cast calls by a name in lower case. -/
def ofCastTarget? (name : String) : Option ScalarKind :=
  if ["char", "varchar", "text", "string"].contains name then some .string
  else if ["int", "integer", "bigint", "signed"].contains name then some .int
  else if ["bool", "boolean"].contains name then some .bool
  else if ["float", "double", "decimal", "real"].contains name then some .float
  else if ["time", "datetime", "timestamp"].contains name then some .time
  else none

/-- A value as one of a kind, if it can be one. A moment is written in UTC. -/
def cast? : ScalarKind → Value → Option Value
  | _, .null => some .null
  | .string, .string s => some (.string s)
  | .string, .number n => some (.string n.text)
  | .string, .bool b => some (.string (Value.text (.bool b)))
  | .int, .number n =>
      match n.signed? with
      | some i => some (.ofInt64 i)
      | none => if n.toDouble.isWhole then some (.ofInt64 n.toDouble.clampInt64) else none
  | .int, .string s => (readInt64? (Text.trimChars s.toList)).map .ofInt64
  | .float, .number n => some (.number (.float n.toDouble))
  | .float, .string s => (FloatLiteral.read? (Text.trimChars s.toList)).map FloatLiteral.toValue
  | .bool, .bool b => some (.bool b)
  | .bool, .string s => (readBool? (Text.trim s)).map .bool
  | .time, .string s => (Instant.read? (Text.trim s)).map fun moment => .string moment.text
  | _, _ => none

/-- A value as one of a kind; errors name the column by its label. -/
def cast (kind : ScalarKind) (label : String) (value : Value) : TableResult Value :=
  match kind.cast? value with
  | some value => .ok value
  | none => .error (.argument (.uncastable label kind value))

end ScalarKind

end RecordQuery
