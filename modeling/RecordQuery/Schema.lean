import RecordQuery.Value
import RecordQuery.Instant
import RecordQuery.Text.Character

/-!
# Shapes of values

A schema describes the values a query reads: scalar kinds, optional values, arrays, and records
with named fields in order. Field names can be matched loosely, without regard to case and
underscores.
-/

namespace RecordQuery

/-- The kinds of values that have no parts. -/
inductive ScalarKind where
  | int
  | float
  | bool
  | string
  /-- A moment, kept as text in the form of RFC 3339. -/
  | time
  deriving DecidableEq, Repr

namespace ScalarKind

def name : ScalarKind → String
  | .int => "int"
  | .float => "float"
  | .bool => "bool"
  | .string => "string"
  | .time => "time"

def isNumeric : ScalarKind → Bool
  | .int | .float => true
  | _ => false

/-- Whether a value is an instance of the kind; null never is. -/
def accepts : ScalarKind → Value → Bool
  | .int, .number n => n.isInt
  | .float, .number _ => true
  | .bool, .bool _ => true
  | .string, .string _ => true
  | .time, .string s => Instant.isText s
  | _, _ => false

/-- The value that fills a field nothing was written to. -/
def zero : ScalarKind → Value
  | .int => .number (.int WordInt.zero)
  | .float => .number (.float Double.zero)
  | .bool => .bool false
  | .string => .string ""
  | .time => .string "1970-01-01T00:00:00Z"

end ScalarKind

/-- The shape of a value. -/
inductive Schema where
  | scalar (kind : ScalarKind)
  /-- A value that may be null. -/
  | optional (inner : Schema)
  | array (element : Schema)
  | record (name : String) (fields : List (String × Schema))

/-- The shape of a record: its name and its fields in order. -/
structure RecordType where
  name : String
  fields : List (String × Schema)

def RecordType.schema (type : RecordType) : Schema := .record type.name type.fields

namespace Schema

instance : Inhabited Schema := ⟨.scalar .int⟩

mutual
/-- Equality of schemas, names and the order of fields included. -/
def same : Schema → Schema → Bool
  | .scalar a, .scalar b => a == b
  | .optional a, .optional b => same a b
  | .array a, .array b => same a b
  | .record name fields, .record other others => name == other && sameFields fields others
  | _, _ => false

def sameFields : List (String × Schema) → List (String × Schema) → Bool
  | [], [] => true
  | (name, schema) :: rest, (other, second) :: others =>
      name == other && same schema second && sameFields rest others
  | _, _ => false
end

mutual
theorem same_self (schema : Schema) : same schema schema = true := by
  cases schema with
  | scalar kind => simp [same]
  | optional inner => simp [same, same_self inner]
  | array element => simp [same, same_self element]
  | record name fields => simp [same, sameFields_self fields]

theorem sameFields_self (fields : List (String × Schema)) : sameFields fields fields = true := by
  cases fields with
  | nil => simp [sameFields]
  | cons field rest =>
      obtain ⟨name, schema⟩ := field
      simp [sameFields, same_self schema, sameFields_self rest]
end

mutual
theorem eq_of_same {a b : Schema} (h : same a b = true) : a = b := by
  cases a with
  | scalar kind => cases b <;> simp_all [same]
  | optional inner =>
      cases b with
      | optional other => exact congrArg Schema.optional (eq_of_same (by simpa [same] using h))
      | _ => simp [same] at h
  | array element =>
      cases b with
      | array other => exact congrArg Schema.array (eq_of_same (by simpa [same] using h))
      | _ => simp [same] at h
  | record name fields =>
      cases b with
      | record other others =>
          simp only [same, Bool.and_eq_true, beq_iff_eq] at h
          rw [h.1, eq_of_sameFields h.2]
      | _ => simp [same] at h

theorem eq_of_sameFields {a b : List (String × Schema)} (h : sameFields a b = true) : a = b := by
  cases a with
  | nil => cases b <;> simp_all [sameFields]
  | cons field rest =>
      obtain ⟨name, schema⟩ := field
      cases b with
      | nil => simp [sameFields] at h
      | cons other others =>
          obtain ⟨second, shape⟩ := other
          simp only [sameFields, Bool.and_eq_true, beq_iff_eq] at h
          rw [h.1.1, eq_of_same h.1.2, eq_of_sameFields h.2]
end

theorem same_iff {a b : Schema} : same a b = true ↔ a = b :=
  ⟨eq_of_same, fun h => h ▸ same_self a⟩

instance : DecidableEq Schema := fun _ _ => decidable_of_iff _ same_iff

/-- How a schema is written: `*` for optional, `[]` for array, a record by its name. -/
def text : Schema → String
  | .scalar kind => kind.name
  | .optional inner => "*" ++ inner.text
  | .array element => "[]" ++ element.text
  | .record name _ => name

def isOptional : Schema → Bool
  | .optional _ => true
  | _ => false

def isScalar : Schema → Bool
  | .scalar _ => true
  | _ => false

/-- The schema under all optional layers. -/
def required : Schema → Schema
  | .optional inner => inner.required
  | other => other

/-- The scalar kind under optional layers. -/
def kind? (schema : Schema) : Option ScalarKind :=
  match schema.required with
  | .scalar kind => some kind
  | _ => none

/-- The record under optional layers. -/
def record? (schema : Schema) : Option RecordType :=
  match schema.required with
  | .record name fields => some ⟨name, fields⟩
  | _ => none

/-- The record under optional layers and arrays. -/
def innermostRecord? : Schema → Option RecordType
  | .optional inner => inner.innermostRecord?
  | .array element => element.innermostRecord?
  | .record name fields => some ⟨name, fields⟩
  | .scalar _ => none

mutual
/-- The value that fills a field nothing was written to. -/
def zero : Schema → Value
  | .scalar kind => kind.zero
  | .optional _ => .null
  | .array _ => .array []
  | .record _ fields => .object (Fields.ofWrites (zeroFields fields))

def zeroFields : List (String × Schema) → List (String × Value)
  | [] => []
  | (name, schema) :: rest => (name, schema.zero) :: zeroFields rest
end

/-- The name under which databases know a shape. -/
def databaseType (schema : Schema) : String :=
  match schema.required with
  | .scalar .int => "INT"
  | .scalar .float => "DECIMAL"
  | .scalar .bool => "BOOLEAN"
  | .scalar .string => "STRING"
  | .scalar .time => "TIME"
  | .array element =>
      match element.required with
      | .scalar .int => "INTS"
      | .scalar .float => "DECIMALS"
      | .scalar .string => "STRINGS"
      | _ => "JSON"
  | _ => "JSON"

end Schema

/-- What loosely equal names have in common: the lower-case letters without underscores. -/
def looseName (name : String) : String :=
  String.ofList ((name.toList.filter (· != '_')).flatMap Text.lowercase)

namespace RecordType

def zero (type : RecordType) : Value := type.schema.zero

/-- Adds a field at the end. -/
def push (type : RecordType) (name : String) (schema : Schema) : RecordType :=
  { type with fields := type.fields ++ [(name, schema)] }

end RecordType

end RecordQuery
