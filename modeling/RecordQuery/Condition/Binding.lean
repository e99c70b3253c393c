import RecordQuery.QueryError

/-!
# Arguments of conditions

Every placeholder of a condition, and every item of an `IN` list, has a slot. The slots compared
with one field form a group, which converts arguments to the kind of that field. Expanding a
binding with the arguments of one run gives each slot its value and each `IN` list its set.
-/

namespace RecordQuery

/-- What a slot is filled from: an argument of the run, or a literal. -/
inductive SlotContent where
  | placeholder (index : Nat)
  | literal (value : Value)

/-- A value that a condition refers to by position. -/
structure Slot where
  position : Nat
  content : SlotContent

/-- The slots from `first` up to, but not including, `last`, compared with one field. -/
structure Group where
  name : String
  kind : ScalarKind
  first : Nat
  last : Nat
  /-- The group is the list of an `IN`. -/
  membership : Bool

def Group.count (group : Group) : Nat := group.last - group.first

/-- The slots and groups of the conditions of one statement, in the order of the text. -/
structure Binding where
  slots : List Slot
  groups : List Group
  placeholders : Nat

/-! ## Conversion of arguments -/

/-- The whole number that a text spells: digits behind an optional sign. -/
def readInt64? (text : List Char) : Option Int64 :=
  let (negative, digits) :=
    match text with
    | '-' :: rest => (true, rest)
    | '+' :: rest => (false, rest)
    | rest => (false, rest)
  if digits.isEmpty || !digits.all Char.isDigit then none
  else
    let size : Nat := Nat.ofDigitChars 10 digits 0
    let value : Int := if negative then -(size : Int) else size
    if -0x8000000000000000 ≤ value && value < 0x8000000000000000 then some (Int64.ofInt value)
    else none

/-- A double that is a whole number of a signed word, as that word. -/
def Double.toInt64? (x : Double) : Option Int64 :=
  if x.isWhole && x.magnitude < 0x8000000000000000 * Double.unitsPerOne then
    some (Int64.ofInt x.truncate)
  else none

/-- An argument as a value of a kind, or none where it cannot be one. Null is a value of every
kind. -/
def coerce? : ScalarKind → Value → Option Value
  | _, .null => some .null
  | .string, .string s => some (.string s)
  | .string, .number n => some (.string n.text)
  | .string, .bool b => some (.string (if b then "true" else "false"))
  | .int, .number (.int n) => some (.number (.int n))
  | .int, .number (.float x) => x.toInt64?.map .ofInt64
  | .int, .string s => (readInt64? (Text.trimChars s.toList)).map .ofInt64
  | .float, .number n => some (.number n)
  | .bool, .bool b => some (.bool b)
  | .time, .string s => if Instant.isText s then some (.string s) else none
  | _, _ => none

/-- An argument as a value of the kind of a field. -/
def coerce (name : String) (kind : ScalarKind) (value : Value) : QueryResult Value :=
  match coerce? kind value with
  | some value => .ok value
  | none => .error (.compile (.invalidArgument name value kind))

/-! ## Sets of IN lists -/

/-- The distinct members of an `IN` list. -/
inductive MemberSet where
  | ints (members : List Int)
  | strings (members : List String)

/-- The whole number by which a value is a member of a set of numbers. -/
def memberKey? : Value → Option Int
  | .number (.int n) => some n.val
  | .number (.float x) =>
      if x.isWhole && x.magnitude < 10000000000000000000 * Double.unitsPerOne then some x.truncate
      else none
  | _ => none

namespace MemberSet

/-- The set of the values that can be members, each once. -/
def build (kind : ScalarKind) (values : List Value) : MemberSet :=
  match kind with
  | .int => .ints (values.filterMap memberKey?).eraseDups
  | _ => .strings (values.filterMap Value.string?).eraseDups

def contains : MemberSet → Value → Bool
  | .ints members, value => (memberKey? value).any members.contains
  | .strings members, value => value.string?.any members.contains

def size : MemberSet → Nat
  | .ints members => members.length
  | .strings members => members.length

def isEmpty (set : MemberSet) : Bool := set.size == 0

end MemberSet

/-- The values of all slots and the sets of all groups for one run. -/
structure Arguments where
  values : List Value
  sets : List (Option MemberSet)

namespace Arguments

/-- What conditions without placeholders and `IN` lists need. -/
def empty : Arguments := ⟨[], []⟩

def value (arguments : Arguments) (slot : Nat) : Value := arguments.values.getD slot .null

def set? (arguments : Arguments) (group : Nat) : Option MemberSet :=
  (arguments.sets[group]?).join

end Arguments

namespace Binding

def empty : Binding := ⟨[], [], 0⟩

/-- Adds a slot for the next argument. -/
def pushPlaceholder (binding : Binding) : Binding :=
  { binding with
    slots := binding.slots ++ [⟨binding.slots.length, .placeholder binding.placeholders⟩]
    placeholders := binding.placeholders + 1 }

def pushLiteral (binding : Binding) (value : Value) : Binding :=
  { binding with slots := binding.slots ++ [⟨binding.slots.length, .literal value⟩] }

/-- Adds the group of the slots from `first` on. -/
def pushGroup (binding : Binding) (name : String) (kind : ScalarKind) (first : Nat)
    (membership : Bool) : Binding :=
  { binding with
    groups := binding.groups ++ [⟨name, kind, first, binding.slots.length, membership⟩] }

/-- Adds a placeholder compared with a field; also gives its slot. -/
def addPlaceholder (binding : Binding) (name : String) (kind : ScalarKind) : Nat × Binding :=
  let first := binding.slots.length
  (first, binding.pushPlaceholder.pushGroup name kind first false)

/-- Adds slots for the items of an `IN` list, where none is a placeholder. A literal that cannot be
a value of the kind ends this; the slots before it stay. -/
def pushItems (binding : Binding) (name : String) (kind : ScalarKind) :
    List (Option Value) → QueryResult Unit × Binding
  | [] => (.ok (), binding)
  | none :: rest => binding.pushPlaceholder.pushItems name kind rest
  | some literal :: rest =>
      match coerce name kind literal with
      | .ok value => (binding.pushLiteral value).pushItems name kind rest
      | .error error => (.error error, binding)

/-- Adds the group of an `IN` list; also gives the index of the group. -/
def addMembership (binding : Binding) (name : String) (kind : ScalarKind)
    (items : List (Option Value)) : QueryResult Nat × Binding :=
  match binding.pushItems name kind items with
  | (.ok _, filled) =>
      (.ok binding.groups.length, filled.pushGroup name kind binding.slots.length true)
  | (.error error, filled) => (.error error, filled)

/-- The slots of a group. -/
def slotsOf (binding : Binding) (group : Group) : List Slot :=
  (binding.slots.take group.last).drop group.first

/-- The value of a slot in a group. -/
def fill (args : List Value) (group : Group) (slot : Slot) : QueryResult Value :=
  match slot.content with
  | .literal value => .ok value
  | .placeholder index => coerce group.name group.kind (args.getD index .null)

/-- The arguments after one more group. -/
def expandGroup (binding : Binding) (args : List Value) (before : Arguments) (group : Group) :
    QueryResult Arguments := do
  let slots := binding.slotsOf group
  let found ← slots.mapM (fill args group)
  let values := (slots.zip found).foldl (fun values (slot, value) => values.set slot.position value)
    before.values
  let set := if group.membership then some (MemberSet.build group.kind found) else none
  return ⟨values, before.sets ++ [set]⟩

/-- The values and sets of one run. There has to be one argument for each placeholder. -/
def expand (binding : Binding) (args : List Value) : QueryResult Arguments :=
  if args.length ≠ binding.placeholders then
    .error (.compile (.argumentCount binding.placeholders args.length))
  else
    binding.groups.foldlM (binding.expandGroup args)
      ⟨List.replicate binding.slots.length .null, []⟩

end Binding

end RecordQuery
