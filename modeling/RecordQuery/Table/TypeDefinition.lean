import RecordQuery.Table.Error
import RecordQuery.Text.Split

/-!
# Definitions of record types

A record type is written out as `struct` with its fields in braces, or inferred from a sample of
its records.
-/

namespace RecordQuery

namespace ScalarKind

/-- The kind that a definition calls by a name, in any case. -/
def ofDefinition? (name : String) : Option ScalarKind :=
  let name := name.toLower
  if ["int", "int8", "int16", "int32", "int64", "uint", "uint8", "uint16", "uint32",
      "uint64"].contains name then some .int
  else if ["float", "float32", "float64"].contains name then some .float
  else if name == "bool" then some .bool
  else if name == "string" then some .string
  else if ["time", "time.time"].contains name then some .time
  else none

end ScalarKind

/-- The schema of a field in a definition: a kind behind any number of marks for optional values
and arrays. -/
def Schema.ofDefinition? : List Char → Option Schema
  | '*' :: rest => (ofDefinition? rest).map .optional
  | '[' :: ']' :: rest => (ofDefinition? rest).map .array
  | name => (ScalarKind.ofDefinition? (String.ofList name)).map .scalar

namespace RecordType

/-! ## Written definitions -/

/-- What stands between the braces of a definition. -/
def definitionBody? (definition : List Char) : Option (List Char) :=
  let keyword := "struct".toList
  let text := Text.trimChars definition
  let behind := (text.drop keyword.length).dropWhile Text.isBlank
  if keyword.isPrefixOf text && behind.head? == some '\x7b' && behind.getLast? == some '\x7d' then
    some (behind.drop 1).dropLast
  else none

/-- A name of ASCII letters, digits and underscores that does not start with a digit. -/
def isFieldName (name : List Char) : Bool :=
  let isNameChar (c : Char) := c.isAlphanum || c == '_'
  (name.head?.map fun c => !c.isDigit).getD false && name.all isNameChar

/-- The record type with one more field of a definition; a blank text adds none. -/
def addDefinition (type : RecordType) (text : List Char) : TableResult RecordType :=
  match Text.words text with
  | [] => .ok type
  | [name, kind] =>
      if isFieldName name then
        match Schema.ofDefinition? kind with
        | some schema => .ok (type.push (String.ofList name) schema)
        | none => .error (.statement (.unsupportedFieldType type.name (String.ofList kind)))
      else malformed
  | _ => malformed
where
  malformed : TableResult RecordType :=
    .error (.statement (.malformedField type.name (String.ofList (Text.trimChars text))))

/-- The parts of a definition that hold one field each: semicolons and line ends stand between
them. -/
def definitionParts (body : List Char) : List (List Char) :=
  Text.splitAt ';' (body.map fun c => if c == '\n' then ';' else c)

/-- The record type that a written definition gives to a name. -/
def ofDefinition (name definition : String) : TableResult RecordType := do
  match definitionBody? definition.toList with
  | none => throw (.statement (.malformedDefinition name definition))
  | some body =>
      let type ← (definitionParts body).foldlM addDefinition ⟨name, []⟩
      if type.fields.isEmpty then throw (.statement (.noFields name))
      return type

end RecordType

/-! ## Samples -/

mutual
/-- The schema of which a value is a sample; errors name the field that holds it. The first item
of an array stands for all of them. -/
def Schema.ofSample (name : String) : Value → TableResult Schema
  | .bool _ => .ok (.scalar .bool)
  | .number (.float _) => .ok (.scalar .float)
  | .number (.int _) => .ok (.scalar .int)
  | .string s => .ok (.scalar (if Instant.isText s then .time else .string))
  | .array (first :: _) => do return .array (← ofSample name first)
  | .array [] => .error (.argument (.emptySampleField name))
  | .object fields => do return .record name (← ofSampleFields fields)
  | .null => .error (.argument (.nullSampleField name))

def Schema.ofSampleFields : List (String × Value) → TableResult (List (String × Schema))
  | [] => .ok []
  | (name, value) :: rest => do
      let schema ← ofSample name value
      return (name, schema) :: (← ofSampleFields rest)
end

/-- The record type that a sample gives to a name. -/
def RecordType.ofSample (name : String) : Value → TableResult RecordType
  | .object fields => do return ⟨name, ← Schema.ofSampleFields fields⟩
  | _ => .error (.argument (.sampleNotObject name))

end RecordQuery
