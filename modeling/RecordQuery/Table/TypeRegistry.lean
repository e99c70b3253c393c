import RecordQuery.Schema

/-!
# Named record types

A registry knows record types by name. A name is looked up exactly first and then without regard to
the case of ASCII letters.
-/

namespace RecordQuery

/-- Record types by name, in the order in which the names came. -/
structure TypeRegistry where
  entries : List (String × RecordType)

namespace TypeRegistry

def empty : TypeRegistry := ⟨[]⟩

def size (registry : TypeRegistry) : Nat := registry.entries.length

def isEmpty (registry : TypeRegistry) : Bool := registry.entries.isEmpty

/-- The type of exactly this name. -/
def get? (registry : TypeRegistry) (name : String) : Option RecordType :=
  registry.entries.lookup name

/-- The type of this name, else the first whose name differs in case only. -/
def lookup? (registry : TypeRegistry) (name : String) : Option RecordType :=
  (registry.get? name).or
    ((registry.entries.find? fun entry => Text.sameLetters entry.1 name).map Prod.snd)

/-- Gives a type to a name, in place of any other. -/
def register (registry : TypeRegistry) (name : String) (type : RecordType) : TypeRegistry :=
  if (registry.get? name).isSome then
    ⟨registry.entries.map fun entry => if entry.1 == name then (name, type) else entry⟩
  else ⟨registry.entries ++ [(name, type)]⟩

/-- Adds the types of another registry whose names are not taken. -/
def merge (registry other : TypeRegistry) : TypeRegistry :=
  ⟨registry.entries ++ other.entries.filter fun entry => (registry.get? entry.1).isNone⟩

end TypeRegistry

end RecordQuery
