import RecordQuery.Schema

/-!
# Conforming values

Decoded objects spell field names as they like and leave fields out. Conforming gives an object
exactly the fields of a record type, in order and with the names of the type: fields are matched
loosely, unknown ones are dropped and missing ones filled with zero values.
-/

namespace RecordQuery

/-- The fields of an object by their loose names; of fields with one loose name the last counts. -/
def looseFields (fields : Fields) : Fields :=
  Fields.ofWrites (fields.map fun field => (looseName field.1, field.2))

namespace Schema

mutual
/-- A value in the shape of the schema, as far as it has parts; scalars stay as they are. -/
def conform : Schema → Value → Value
  | .optional inner, value => if value.isNull then .null else inner.conform value
  | .array element, .array items => .array (items.map element.conform)
  | .record _ fields, .object given =>
      .object (Fields.ofWrites (conformFields fields (looseFields given)))
  | .scalar kind, .null => kind.zero
  | .array _, .null => .array []
  | .record name fields, .null => (Schema.record name fields).zero
  | .scalar _, value | .array _, value | .record _ _, value => value

/-- The fields of a record type, each with the value given for it. A given field is used once. -/
def conformFields : List (String × Schema) → Fields → List (String × Value)
  | [], _ => []
  | (name, schema) :: rest, given =>
      let value :=
        match given.get? (looseName name) with
        | some value => schema.conform value
        | none => schema.zero
      (name, value) :: conformFields rest (given.erase (looseName name))
end

end Schema

/-- An object with the fields of the type; any other value stays as it is. -/
def RecordType.conform (type : RecordType) : Value → Value
  | .object given =>
      .object (Fields.ofWrites (Schema.conformFields type.fields (looseFields given)))
  | other => other

end RecordQuery
