import RecordQuery.Number.Word

/-!
# Record values

Queries read and build values of one kind of data: scalars, arrays, and objects whose fields keep
the order in which they were first written. A number is either a whole number or a double, and
`3` and `3.0` are different values.
-/

namespace RecordQuery

/-- A number in data. -/
inductive Number where
  | int (value : WordInt)
  | float (value : Double)
  deriving DecidableEq

namespace Number

/-- The number as a signed word, where it is a whole number that fits. -/
def signed? : Number → Option Int64
  | .int n => n.signed?
  | .float _ => none

def isInt : Number → Bool
  | .int _ => true
  | .float _ => false

/-- The nearest double. -/
def toDouble : Number → Double
  | .int n => n.toDouble
  | .float x => x

end Number

/-- A value of a record, an array or a scalar. -/
inductive Value where
  | null
  | bool (value : Bool)
  | number (value : Number)
  | string (value : String)
  | array (items : List Value)
  | object (fields : List (String × Value))

/-- The fields of an object, in the order in which they were first written. -/
abbrev Fields := List (String × Value)

namespace Fields

/-- The value of the first field with a name. -/
def get? (fields : Fields) (name : String) : Option Value :=
  fields.lookup name

/-- Writes a field: in place where the name is present, at the end otherwise. -/
def insert : Fields → String → Value → Fields
  | [], name, value => [(name, value)]
  | (key, old) :: rest, name, value =>
      if key == name then (key, value) :: rest else (key, old) :: insert rest name value

/-- The object that a sequence of writes leaves. -/
def ofWrites (writes : List (String × Value)) : Fields :=
  writes.foldl (fun fields write => fields.insert write.1 write.2) []

/-- Takes the first field with a name out of the object. -/
def erase : Fields → String → Fields
  | [], _ => []
  | (key, value) :: rest, name =>
      if key == name then rest else (key, value) :: erase rest name

theorem get?_insert_self (fields : Fields) (name : String) (value : Value) :
    (fields.insert name value).get? name = some value := by
  induction fields with
  | nil => simp [insert, get?]
  | cons field rest ih =>
      obtain ⟨key, old⟩ := field
      by_cases same : key = name
      · simp [insert, get?, same]
      · have other : (name == key) = false := by simpa using fun h => same h.symm
        simpa [insert, get?, same, List.lookup_cons, other] using ih

theorem get?_insert_of_ne (fields : Fields) {name other : String} (value : Value)
    (different : other ≠ name) : (fields.insert name value).get? other = fields.get? other := by
  induction fields with
  | nil =>
      have : (other == name) = false := by simpa using different
      simp [insert, get?, List.lookup_cons, this]
  | cons field rest ih =>
      obtain ⟨key, old⟩ := field
      by_cases same : key = name
      · subst same
        have : (other == key) = false := by simpa using different
        simp [insert, get?, List.lookup_cons, this]
      · by_cases here : other = key
        · subst here
          simp [insert, get?, same]
        · have : (other == key) = false := by simpa using here
          simpa [insert, get?, same, List.lookup_cons, this] using ih

/-- Writing keeps the names and their order, and adds a new name at the end. -/
theorem names_insert (fields : Fields) (name : String) (value : Value) :
    (fields.insert name value).map Prod.fst =
      if name ∈ fields.map Prod.fst then fields.map Prod.fst
      else fields.map Prod.fst ++ [name] := by
  induction fields with
  | nil => simp [insert]
  | cons field rest ih =>
      obtain ⟨key, old⟩ := field
      by_cases same : key = name
      · simp [insert, same]
      · have other : name ≠ key := fun h => same h.symm
        by_cases present : name ∈ rest.map Prod.fst
        · simp only [present, if_true] at ih
          simp only [insert, beq_iff_eq, same, if_false, List.map_cons, ih, List.mem_cons, present,
            or_true, if_true]
        · simp only [present, if_false] at ih
          simp only [insert, beq_iff_eq, same, if_false, List.map_cons, ih, List.mem_cons, other,
            present, or_false, List.cons_append]

end Fields

namespace Value

instance : Inhabited Value := ⟨.null⟩

def ofInt64 (n : Int64) : Value := .number (.int (.ofInt64 n))

/-- A double as data; the infinities are no data and become null. -/
def ofExtDouble : ExtDouble → Value
  | .finite x => .number (.float x)
  | .infinite _ => .null

def isNull : Value → Bool
  | .null => true
  | _ => false

def isObject : Value → Bool
  | .object _ => true
  | _ => false

def isNumber : Value → Bool
  | .number _ => true
  | _ => false

def string? : Value → Option String
  | .string s => some s
  | _ => none

def bool? : Value → Option Bool
  | .bool b => some b
  | _ => none

def number? : Value → Option Number
  | .number n => some n
  | _ => none

/-- The word for the kind of a value, as messages use it. -/
def kindName : Value → String
  | .null => "null"
  | .bool _ => "bool"
  | .number _ => "number"
  | .string _ => "string"
  | .array _ => "array"
  | .object _ => "object"

end Value

end RecordQuery
