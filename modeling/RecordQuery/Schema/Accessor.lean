import RecordQuery.QueryError

/-!
# Fields of records

An accessor names one field with its schema. It reads and writes that field of any record value; a
field that is absent reads like one that is null.
-/

namespace RecordQuery

/-- A field that records are read or written at. One that belongs to no record type has no
index. -/
structure Accessor where
  name : String
  schema : Schema
  index : Option Nat

namespace Accessor

/-- An accessor of a field outside any record type. -/
def detached (name : String) (schema : Schema) : Accessor := ⟨name, schema, none⟩

/-- The value of the field, or none where it is absent or null. -/
def get (field : Accessor) : Value → QueryResult (Option Value)
  | .object fields => .ok ((Fields.get? fields field.name).filter (!·.isNull))
  | other => .error (.execution field.name (.notRecord other))

/-- The value of the field and the record that holds it: an absent field is added as null. -/
def reach (field : Accessor) : Value → QueryResult (Value × Value)
  | .object fields =>
      match Fields.get? fields field.name with
      | some value => .ok (value, .object fields)
      | none => .ok (.null, .object (Fields.insert fields field.name .null))
  | other => .error (.execution field.name (.notRecord other))

/-- The record with another value in the field. -/
def set (field : Accessor) (record value : Value) : QueryResult Value :=
  match record with
  | .object fields => .ok (.object (Fields.insert fields field.name value))
  | other => .error (.execution field.name (.notRecord other))

end Accessor

namespace RecordType

/-- The accessors of a list of fields, counted from an index on. -/
def accessorsFrom (index : Nat) : List (String × Schema) → List Accessor
  | [] => []
  | (name, schema) :: rest => ⟨name, schema, some index⟩ :: accessorsFrom (index + 1) rest

/-- The accessors of all fields in order. -/
def accessors (type : RecordType) : List Accessor := accessorsFrom 0 type.fields

/-- The first field with exactly this name. -/
def field? (type : RecordType) (name : String) : Option Accessor :=
  type.accessors.find? (·.name == name)

/-- The first field with exactly this name, else the first whose name is loosely equal. -/
def looseField? (type : RecordType) (name : String) : Option Accessor :=
  (type.field? name).or (type.accessors.find? (looseName ·.name == looseName name))

end RecordType

end RecordQuery
