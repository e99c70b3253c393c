import RecordQuery.Proofs.Outcome
import RecordQuery.Condition.Compare
import RecordQuery.Condition.Binding

/-!
# Slots and what fills them

The groups of a binding cover its slots one after the other, and a slot stands at its own
position. So expanding a binding writes every slot once, with a value of the kind of its
group, and makes a set for every `IN` list.
-/

namespace RecordQuery

/-! ## Values of a kind -/

namespace ScalarKind

/-- Whether comparisons of a kind can order a value. They order more than the instances of
the kind: any number counts as a number, and any text as a time. -/
def compares : ScalarKind → Value → Bool
  | .int, .number _ | .float, .number _ | .bool, .bool _ => true
  | .string, .string _ | .time, .string _ => true
  | _, _ => false

theorem compares_of_accepts {kind : ScalarKind} {value : Value}
    (accepted : kind.accepts value = true) :
    kind.compares value = true := by
  cases kind <;> cases value <;> simp_all [accepts, compares]

theorem compares_float_of_isNumeric {kind : ScalarKind} {value : Value}
    (numeric : kind.isNumeric = true) (compared : kind.compares value = true) :
    ScalarKind.float.compares value = true := by
  cases kind <;> cases value <;> simp_all [compares, isNumeric]

end ScalarKind

/-- Two values that comparisons of a kind can order are ordered. -/
theorem compareValues_of_compares {kind : ScalarKind} {left right : Value}
    (leftCompared : kind.compares left = true) (rightCompared : kind.compares right = true) :
    ∃ order, compareValues kind left right = some order := by
  cases kind <;> cases left <;>
    simp only [ScalarKind.compares, Bool.false_eq_true] at leftCompared <;>
    cases right <;> simp_all [ScalarKind.compares, compareValues]

theorem coerce_eq_ok {name : String} {kind : ScalarKind} {given value : Value} :
    coerce name kind given = .ok value ↔ coerce? kind given = some value := by
  rw [coerce]
  cases coerce? kind given <;> simp

/-- Conversion to a kind gives null or a value of the kind. -/
theorem compares_of_coerce? {kind : ScalarKind} {given value : Value}
    (converted : coerce? kind given = some value) :
    value.isNull = true ∨ kind.compares value = true := by
  rw [coerce?.eq_def] at converted
  split at converted
  case h_1 => cases converted; exact .inl rfl
  case h_6 | h_7 =>
      rcases Option.map_eq_some_iff.1 converted with ⟨number, -, rfl⟩
      exact .inr rfl
  case h_10 =>
      split at converted <;> cases converted
      exact .inr rfl
  case h_11 => cases converted
  all_goals
    cases converted
    exact .inr rfl

namespace Binding

/-! ## Groups in order -/

/-- Groups cover the slots from `start` up to `stop`, one behind the other. -/
def Covers : Nat → List Group → Nat → Prop
  | start, [], stop => start = stop
  | start, group :: rest, stop =>
      group.first = start ∧ group.first ≤ group.last ∧ Covers group.last rest stop

theorem le_of_covers {start stop : Nat} {groups : List Group} (covers : Covers start groups stop) :
    start ≤ stop := by
  induction groups generalizing start with
  | nil => exact Nat.le_of_eq covers
  | cons group rest ih =>
      rcases covers with ⟨rfl, range, behind⟩
      exact Nat.le_trans range (ih behind)

/-- Each of the groups lies in the range that they cover. -/
theorem last_le_of_covers {start stop : Nat} {groups : List Group}
    (covers : Covers start groups stop) : ∀ group ∈ groups, group.last ≤ stop := by
  induction groups generalizing start with
  | nil => simp
  | cons first rest ih =>
      rcases covers with ⟨-, -, behind⟩
      intro group member
      rcases List.mem_cons.1 member with rfl | later
      · exact le_of_covers behind
      · exact ih behind group later

/-- None of the groups starts in front of the range that they cover. -/
theorem le_first_of_covers {start stop : Nat} {groups : List Group}
    (covers : Covers start groups stop) : ∀ group ∈ groups, start ≤ group.first := by
  induction groups generalizing start with
  | nil => exact nofun
  | cons first rest ih =>
      rcases covers with ⟨rfl, range, behind⟩
      intro group member
      rcases List.mem_cons.1 member with rfl | later
      · exact Nat.le_refl _
      · exact Nat.le_trans range (ih behind group later)

/-- Groups cover what their parts cover in turn. -/
theorem covers_append_iff {start stop : Nat} {front back : List Group} :
    Covers start (front ++ back) stop ↔
      ∃ middle, Covers start front middle ∧ Covers middle back stop := by
  induction front generalizing start with
  | nil => simp [Covers]
  | cons group rest ih => simp only [List.cons_append, Covers, ih, exists_and_left, and_assoc]

theorem covers_append {start middle stop : Nat} {groups : List Group} {group : Group}
    (covers : Covers start groups middle) (first : group.first = middle)
    (range : group.first ≤ group.last) (last : group.last = stop) :
    Covers start (groups ++ [group]) stop :=
  covers_append_iff.2 ⟨middle, covers, first, range, last⟩

/-- The order that building a binding keeps up. Literals of a group have been converted to
its kind. -/
structure Ordered (binding : Binding) : Prop where
  position : ∀ index (slot : Slot), binding.slots[index]? = some slot → slot.position = index
  covers : Covers 0 binding.groups binding.slots.length
  literal : ∀ group ∈ binding.groups, ∀ slot ∈ binding.slotsOf group, ∀ value,
    slot.content = .literal value → ∃ given, coerce? group.kind given = some value

/-- Parts of a statement bound in turn add groups and keep the order. -/
structure Extends (binding bound : Binding) : Prop where
  ordered : binding.Ordered → bound.Ordered
  groups : binding.groups <+: bound.groups

theorem ordered_empty : empty.Ordered where
  position := by simp [empty]
  covers := rfl
  literal := by simp [empty]

theorem Extends.refl (binding : Binding) : binding.Extends binding := ⟨id, List.prefix_rfl⟩

theorem Extends.trans {binding middle bound : Binding} (first : binding.Extends middle)
    (second : middle.Extends bound) : binding.Extends bound :=
  ⟨second.ordered ∘ first.ordered, first.groups.trans second.groups⟩

/-! ## Adding a group -/

/-- A binding with more slots, which are to become a group of a kind. -/
structure Grown (kind : ScalarKind) (binding filled : Binding) (more : List Slot) : Prop where
  slots : filled.slots = binding.slots ++ more
  groups : filled.groups = binding.groups
  position : ∀ index (slot : Slot), more[index]? = some slot →
    slot.position = binding.slots.length + index
  literal : ∀ slot ∈ more, ∀ value, slot.content = .literal value →
    ∃ given, coerce? kind given = some value

variable {binding filled bound : Binding} {name : String} {kind : ScalarKind} {more : List Slot}

theorem Grown.nil (kind : ScalarKind) (binding : Binding) : Grown kind binding binding [] where
  slots := (List.append_nil _).symm
  groups := rfl
  position := by simp
  literal := by simp

/-- One more slot in front of the others. -/
theorem Grown.cons {next : Binding} {slot : Slot} (grown : Grown kind next filled more)
    (slots : next.slots = binding.slots ++ [slot]) (groups : next.groups = binding.groups)
    (position : slot.position = binding.slots.length)
    (literal : ∀ value, slot.content = .literal value → ∃ given, coerce? kind given = some value) :
    Grown kind binding filled (slot :: more) where
  slots := by rw [grown.slots, slots, List.append_assoc, List.singleton_append]
  groups := grown.groups.trans groups
  position := by
    intro index other here
    cases index with
    | zero =>
        cases here
        exact position
    | succ index =>
        rw [grown.position index other here, slots, List.length_append, List.length_singleton]
        omega
  literal := by
    intro other member
    rcases List.mem_cons.1 member with rfl | later
    · exact literal
    · exact grown.literal other later

/-- The slot of a placeholder in front of the others. -/
theorem Grown.cons_placeholder (grown : Grown kind binding.pushPlaceholder filled more) :
    Grown kind binding filled
      (⟨binding.slots.length, .placeholder binding.placeholders⟩ :: more) :=
  grown.cons rfl rfl rfl fun _ same => SlotContent.noConfusion same

/-- The slot of a literal of the kind in front of the others. -/
theorem Grown.cons_literal {value : Value}
    (grown : Grown kind (binding.pushLiteral value) filled more)
    (converted : ∃ given, coerce? kind given = some value) :
    Grown kind binding filled (⟨binding.slots.length, .literal value⟩ :: more) := by
  refine grown.cons rfl rfl rfl fun other same => ?_
  cases same
  exact converted

/-- The new slots stand at their own positions if those before them do. -/
theorem Grown.positions (grown : Grown kind binding filled more)
    (before : ∀ index (slot : Slot), binding.slots[index]? = some slot → slot.position = index) :
    ∀ index (slot : Slot), filled.slots[index]? = some slot → slot.position = index := by
  intro index slot here
  rw [grown.slots] at here
  rcases Nat.lt_or_ge index binding.slots.length with old | new
  · rw [List.getElem?_append_left old] at here
    exact before index slot here
  · rw [List.getElem?_append_right new] at here
    rw [grown.position _ slot here]
    omega

/-- The slots of a group stay when slots are added behind them. -/
theorem slotsOf_of_append {group : Group} (slots : filled.slots = binding.slots ++ more)
    (within : group.last ≤ binding.slots.length) :
    filled.slotsOf group = binding.slotsOf group := by
  rw [slotsOf, slots, List.take_append_of_le_length within]
  rfl

/-- The slots of a group of all new slots. -/
theorem slotsOf_added (slots : filled.slots = binding.slots ++ more) (membership : Bool) :
    filled.slotsOf ⟨name, kind, binding.slots.length, filled.slots.length, membership⟩ = more := by
  rw [slotsOf, List.take_length, slots, List.drop_left' rfl]

/-- The new slots, taken together as a group, keep a binding in order. -/
theorem extends_pushGroup (grown : Grown kind binding filled more) (membership : Bool) :
    binding.Extends (filled.pushGroup name kind binding.slots.length membership) where
  groups := by
    rw [pushGroup, grown.groups]
    exact List.prefix_append _ _
  ordered := by
    intro ordered
    constructor
    · exact grown.positions ordered.position
    · have range : binding.slots.length ≤ filled.slots.length := by simp [grown.slots]
      change Covers 0 (filled.groups ++ [_]) filled.slots.length
      rw [grown.groups]
      exact covers_append ordered.covers rfl range rfl
    · intro group member slot inside
      change group ∈ filled.groups ++ [_] at member
      rw [grown.groups, List.mem_append, List.mem_singleton] at member
      change slot ∈ filled.slotsOf group at inside
      rcases member with old | rfl
      · rw [slotsOf_of_append grown.slots (last_le_of_covers ordered.covers group old)] at inside
        exact ordered.literal group old slot inside
      · rw [slotsOf_added grown.slots] at inside
        exact grown.literal slot inside

/-- A placeholder gets the slot behind the slots so far. -/
theorem extends_addPlaceholder (binding : Binding) (name : String) (kind : ScalarKind) :
    binding.Extends (binding.addPlaceholder name kind).2 := by
  have one : Grown kind binding binding.pushPlaceholder
      [⟨binding.slots.length, .placeholder binding.placeholders⟩] :=
    (Grown.nil kind binding.pushPlaceholder).cons_placeholder
  exact extends_pushGroup one false

/-- The slots of an `IN` list stand behind the slots so far. -/
theorem grown_of_pushItems {items : List (Option Value)}
    (pushed : pushItems binding name kind items = (.ok (), filled)) :
    ∃ more, Grown kind binding filled more := by
  induction items generalizing binding with
  | nil =>
      cases pushed
      exact ⟨[], .nil kind _⟩
  | cons item rest ih =>
      cases item with
      | none =>
          have later : pushItems binding.pushPlaceholder name kind rest = (.ok (), filled) := pushed
          rcases ih later with ⟨more, grown⟩
          exact ⟨_, grown.cons_placeholder⟩
      | some given =>
          simp only [pushItems, coerce] at pushed
          cases converted : coerce? kind given with
          | none =>
              rw [converted] at pushed
              cases pushed
          | some value =>
              rw [converted] at pushed
              rcases ih pushed with ⟨more, grown⟩
              exact ⟨_, grown.cons_literal ⟨given, converted⟩⟩

/-- An `IN` list becomes the last group. -/
theorem addMembership_eq_ok {items : List (Option Value)} {group : Nat}
    (added : binding.addMembership name kind items = (.ok group, bound)) :
    binding.Extends bound ∧ ∃ last, bound.groups = binding.groups ++ [last] ∧
      group = binding.groups.length ∧ last.kind = kind ∧ last.membership = true := by
  rw [addMembership] at added
  split at added
  · rename_i filled pushed
    cases added
    rcases grown_of_pushItems pushed with ⟨more, grown⟩
    refine ⟨extends_pushGroup grown true,
      ⟨name, kind, binding.slots.length, filled.slots.length, true⟩,
      ?_, rfl, rfl, rfl⟩
    rw [pushGroup, grown.groups]
  · cases added

end Binding

end RecordQuery
