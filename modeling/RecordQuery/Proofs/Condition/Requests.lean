import RecordQuery.Proofs.Condition.Slots

/-!
# Requests for slots

A binding is filled by requests: for one placeholder, or for the items of an `IN` list. A request
that is granted adds its slots and a group of just these slots. A request is refused for a literal
that cannot be a value of the kind of its field: it adds no group, but the slots of the items in
front of that literal stay. So the groups cover all slots exactly as long as no request is refused
behind its first item.
-/

namespace RecordQuery

/-- The number of the argument that a slot is filled from. -/
def Slot.index? (slot : Slot) : Option Nat :=
  match slot.content with
  | .placeholder index => some index
  | .literal _ => none

namespace Binding

/-! ## Requests -/

/-- What a binding is asked for. -/
inductive Request where
  | placeholder (name : String) (kind : ScalarKind)
  /-- The group of an `IN` list, of whose items those that are `none` are placeholders. -/
  | membership (name : String) (kind : ScalarKind) (items : List (Option Value))

/-- Whether an item is a literal that cannot be a value of a kind. -/
def refuses (kind : ScalarKind) (item : Option Value) : Bool :=
  item.any fun literal => (coerce? kind literal).isNone

namespace Request

def name : Request → String
  | .placeholder name _ | .membership name .. => name

def kind : Request → ScalarKind
  | .placeholder _ kind | .membership _ kind _ => kind

/-- What the slots of a request are for. -/
def items : Request → List (Option Value)
  | .placeholder .. => [none]
  | .membership _ _ items => items

def isMembership : Request → Bool
  | .placeholder .. => false
  | .membership .. => true

/-- The outcome of a request, and the binding behind it. -/
def perform (binding : Binding) : Request → QueryResult Nat × Binding
  | .placeholder name kind =>
      let (slot, bound) := binding.addPlaceholder name kind
      (.ok slot, bound)
  | .membership name kind items => binding.addMembership name kind items

/-- The items in front of the literal that a request is refused for; none if it is granted. -/
def strays (request : Request) : List (Option Value) :=
  if request.items.any (refuses request.kind) then
    request.items.takeWhile fun item => !refuses request.kind item
  else []

end Request

/-- The outcomes of requests made one after the other, and the binding behind them. -/
def performAll (binding : Binding) : List Request → List (QueryResult Nat) × Binding
  | [] => ([], binding)
  | request :: rest =>
      let (outcome, next) := request.perform binding
      let (outcomes, last) := next.performAll rest
      (outcome :: outcomes, last)

/-! ## What one request does -/

/-- Adds the slot of an item. -/
def pushItem (kind : ScalarKind) (binding : Binding) : Option Value → Binding
  | none => binding.pushPlaceholder
  | some given => binding.pushLiteral ((coerce? kind given).getD .null)

/-- A binding with a slot more for each of some items. Those of the placeholders are numbered on
from the placeholders so far. -/
structure Appended (kind : ScalarKind) (items : List (Option Value)) (binding filled : Binding)
    (more : List Slot) : Prop extends Grown kind binding filled more where
  length : more.length = items.length
  indices : more.filterMap Slot.index? =
    List.range' binding.placeholders (items.countP Option.isNone)
  placeholders : filled.placeholders = binding.placeholders + items.countP Option.isNone

variable {binding filled bound : Binding} {name : String} {kind : ScalarKind}
  {items : List (Option Value)} {more : List Slot} {request : Request} {requests : List Request}

theorem Appended.nil (kind : ScalarKind) (binding : Binding) :
    Appended kind [] binding binding [] where
  toGrown := .nil kind binding
  length := rfl
  indices := rfl
  placeholders := rfl

theorem Appended.cons_placeholder
    (later : Appended kind items binding.pushPlaceholder filled more) :
    Appended kind (none :: items) binding filled
      (⟨binding.slots.length, .placeholder binding.placeholders⟩ :: more) where
  toGrown := later.toGrown.cons_placeholder
  length := congrArg (· + 1) later.length
  indices := by
    have first : Slot.index? ⟨binding.slots.length, .placeholder binding.placeholders⟩ =
        some binding.placeholders := rfl
    rw [List.filterMap_cons_some first, later.indices, List.countP_cons_of_pos rfl,
      List.range'_succ]
    rfl
  placeholders := by
    have count : binding.pushPlaceholder.placeholders = binding.placeholders + 1 := rfl
    rw [later.placeholders, List.countP_cons_of_pos rfl, count]
    omega

theorem Appended.cons_literal {given value : Value}
    (later : Appended kind items (binding.pushLiteral value) filled more)
    (own : ∃ given, coerce? kind given = some value) :
    Appended kind (some given :: items) binding filled
      (⟨binding.slots.length, .literal value⟩ :: more) where
  toGrown := later.toGrown.cons_literal own
  length := congrArg (· + 1) later.length
  indices := by
    rw [List.filterMap_cons_none rfl, later.indices, List.countP_cons_of_neg (by simp)]
    rfl
  placeholders := by
    rw [later.placeholders, List.countP_cons_of_neg (by simp)]
    rfl

/-- Pushing items one by one adds their slots. -/
theorem exists_appended (kind : ScalarKind) (items : List (Option Value)) (binding : Binding) :
    ∃ more, Appended kind items binding (items.foldl (pushItem kind) binding) more := by
  induction items generalizing binding with
  | nil => exact ⟨[], .nil kind binding⟩
  | cons item rest ih =>
      rcases ih (pushItem kind binding item) with ⟨more, later⟩
      cases item with
      | none => exact ⟨_, later.cons_placeholder⟩
      | some given =>
          refine ⟨_, later.cons_literal ?_⟩
          cases converted : coerce? kind given with
          | none => exact ⟨.null, by cases kind <;> rfl⟩
          | some value => exact ⟨given, converted⟩

/-- All items get slots when none of them is refused. -/
theorem pushItems_of_none_refused (binding : Binding) (name : String)
    (fine : items.any (refuses kind) = false) :
    pushItems binding name kind items = (.ok (), items.foldl (pushItem kind) binding) := by
  induction items generalizing binding with
  | nil => rfl
  | cons item rest ih =>
      rw [List.any_cons, Bool.or_eq_false_iff] at fine
      cases item with
      | none => exact ih binding.pushPlaceholder fine.2
      | some given =>
          have some_ : (coerce? kind given).isSome = true := by simpa [refuses] using fine.1
          rcases Option.isSome_iff_exists.1 some_ with ⟨value, converted⟩
          simp only [pushItems, coerce, converted, List.foldl_cons, pushItem, Option.getD_some]
          exact ih (binding.pushLiteral value) fine.2

/-- The items in front of the first one that is refused get slots. -/
theorem pushItems_of_refused (binding : Binding) (name : String)
    (bad : items.any (refuses kind) = true) :
    ∃ error, pushItems binding name kind items =
      (.error error, (items.takeWhile fun item => !refuses kind item).foldl (pushItem kind)
        binding) := by
  induction items generalizing binding with
  | nil => cases bad
  | cons item rest ih =>
      cases refused : refuses kind item with
      | true =>
          cases item with
          | none => cases refused
          | some given =>
              have converted : coerce? kind given = none := by simpa [refuses] using refused
              rw [List.takeWhile_cons_of_neg (by simp [refused])]
              simp only [pushItems, coerce, converted]
              exact ⟨_, rfl⟩
      | false =>
          rw [List.any_cons, refused, Bool.false_or] at bad
          rw [List.takeWhile_cons_of_pos (by simp [refused]), List.foldl_cons]
          cases item with
          | none => exact ih binding.pushPlaceholder bad
          | some given =>
              have some_ : (coerce? kind given).isSome = true := by simpa [refuses] using refused
              rcases Option.isSome_iff_exists.1 some_ with ⟨value, converted⟩
              simp only [pushItems, coerce, converted, pushItem, Option.getD_some]
              exact ih (binding.pushLiteral value) bad

/-- A request is granted, and its slots become a group, or it is refused, and the slots of its
strays stay. -/
theorem perform_cases (binding : Binding) (request : Request) :
    (∃ number filled more, request.strays = [] ∧
      request.perform binding = (.ok number, filled.pushGroup request.name request.kind
        binding.slots.length request.isMembership) ∧
      Appended request.kind request.items binding filled more) ∨
    ∃ error filled more, request.perform binding = (.error error, filled) ∧
      Appended request.kind request.strays binding filled more := by
  cases request with
  | placeholder name kind =>
      exact .inl ⟨_, _, _, rfl, rfl, (Appended.nil kind binding.pushPlaceholder).cons_placeholder⟩
  | membership name kind items =>
      rw [Request.perform, addMembership]
      cases refused : items.any (refuses kind) with
      | false =>
          have kept : (Request.membership name kind items).strays = [] :=
            if_neg (Bool.eq_false_iff.1 refused)
          rcases exists_appended kind items binding with ⟨more, added⟩
          rw [pushItems_of_none_refused binding name refused]
          exact .inl ⟨_, _, more, kept, rfl, added⟩
      | true =>
          have left_ : (Request.membership name kind items).strays =
              items.takeWhile fun item => !refuses kind item := if_pos refused
          rcases pushItems_of_refused binding name refused with ⟨error, pushed⟩
          rcases exists_appended kind (items.takeWhile fun item => !refuses kind item) binding with
            ⟨more, added⟩
          rw [pushed, left_]
          exact .inr ⟨error, _, more, rfl, added⟩

/-! ## What every run keeps -/

/-- What holds of a binding whatever requests were made: its slots stand at their own positions,
their placeholders are numbered from zero, and its groups are ranges of them, those of single
placeholders one slot wide. -/
structure Regular (binding : Binding) : Prop where
  position : ∀ index (slot : Slot), binding.slots[index]? = some slot → slot.position = index
  indices : binding.slots.filterMap Slot.index? = List.range binding.placeholders
  within : ∀ group ∈ binding.groups, group.first ≤ group.last ∧ group.last ≤ binding.slots.length
  single : ∀ group ∈ binding.groups, group.membership = false → group.last = group.first + 1

theorem regular_empty : empty.Regular where
  position := by simp [empty]
  indices := rfl
  within := by simp [empty]
  single := by simp [empty]

theorem Appended.regular (added : Appended kind items binding filled more)
    (regular : binding.Regular) : filled.Regular where
  position := added.positions regular.position
  indices := by
    rw [added.slots, List.filterMap_append, regular.indices, added.indices, added.placeholders,
      List.range_eq_range', List.range_eq_range', List.range'_append_1.symm]
    simp
  within := by
    rw [added.groups, added.slots]
    intro group member
    rcases regular.within group member with ⟨first, last⟩
    exact ⟨first, Nat.le_trans last (by simp)⟩
  single := added.groups ▸ regular.single

theorem Regular.pushGroup (regular : filled.Regular) {first : Nat} {membership : Bool}
    (range : first ≤ filled.slots.length)
    (single : membership = false → filled.slots.length = first + 1) :
    (filled.pushGroup name kind first membership).Regular where
  position := regular.position
  indices := regular.indices
  within := by
    intro group member
    rcases List.mem_append.1 member with old | new
    · exact regular.within group old
    · cases List.mem_singleton.1 new
      exact ⟨range, Nat.le_refl _⟩
  single := by
    intro group member
    rcases List.mem_append.1 member with old | new
    · exact regular.single group old
    · cases List.mem_singleton.1 new
      exact single

theorem Regular.perform (regular : binding.Regular) (request : Request) :
    (request.perform binding).2.Regular := by
  rcases perform_cases binding request with
    ⟨number, filled, more, -, made, added⟩ | ⟨error, filled, more, made, added⟩
  · have length : filled.slots.length = binding.slots.length + request.items.length := by
      rw [added.slots, List.length_append, added.length]
    rw [made]
    refine (added.regular regular).pushGroup (by omega) fun single => ?_
    cases request with
    | placeholder name kind => exact length
    | membership name kind items => cases single
  · rw [made]
    exact added.regular regular

/-! ## Groups that cover the slots -/

/-- Groups that lie within some slots do not cover more. -/
theorem le_of_covers_of_within {start stop count : Nat} {groups : List Group}
    (covers : Covers start groups stop) (within : ∀ group ∈ groups, group.last ≤ count)
    (range : start ≤ count) : stop ≤ count := by
  induction groups generalizing start with
  | nil => exact covers ▸ range
  | cons group rest ih =>
      rw [List.forall_mem_cons] at within
      exact ih covers.2.2 within.2 within.1

/-- A request keeps all slots in groups unless it is refused behind its first item. -/
theorem covers_perform_iff (regular : binding.Regular) (request : Request) :
    Covers 0 (request.perform binding).2.groups (request.perform binding).2.slots.length ↔
      Covers 0 binding.groups binding.slots.length ∧ request.strays = [] := by
  rcases perform_cases binding request with
    ⟨number, filled, more, granted, made, added⟩ | ⟨error, filled, more, made, added⟩
  · have range : binding.slots.length ≤ filled.slots.length := by simp [added.slots]
    rw [made, Binding.pushGroup]
    dsimp only
    rw [added.groups, covers_append_iff]
    simp [Covers, granted, range]
  · have length : filled.slots.length = binding.slots.length + request.strays.length := by
      rw [added.slots, List.length_append, added.length]
    rw [made]
    dsimp only
    rw [added.groups, length]
    constructor
    · intro covers
      have bounded := le_of_covers_of_within covers (fun group member =>
        (regular.within group member).2) (Nat.zero_le _)
      have none_ : request.strays = [] := List.length_eq_zero_iff.1 (by omega)
      rw [none_] at covers
      exact ⟨covers, none_⟩
    · rintro ⟨covers, none_⟩
      rw [none_]
      exact covers

/-! ## Placeholders that belong to a group -/

/-- The numbers of the placeholders that belong to a group. -/
def grouped (binding : Binding) : List Nat :=
  (binding.groups.flatMap binding.slotsOf).filterMap Slot.index?

theorem lt_of_mem_grouped (regular : binding.Regular) {index : Nat}
    (member : index ∈ binding.grouped) : index < binding.placeholders := by
  rcases List.mem_filterMap.1 member with ⟨slot, inside, same⟩
  rcases List.mem_flatMap.1 inside with ⟨group, -, own⟩
  have all : index ∈ binding.slots.filterMap Slot.index? :=
    List.mem_filterMap.2 ⟨slot, List.mem_of_mem_take (List.mem_of_mem_drop own), same⟩
  rwa [regular.indices, List.mem_range] at all

theorem Appended.grouped_eq (added : Appended kind items binding filled more)
    (regular : binding.Regular) : filled.grouped = binding.grouped := by
  rw [grouped, grouped, added.groups]
  congr 1
  exact List.flatMap_congr fun group member =>
    slotsOf_of_append added.slots (regular.within group member).2

/-- A request keeps all placeholders in groups unless it is refused behind a placeholder. -/
theorem grouped_perform_iff (regular : binding.Regular) (request : Request) :
    (request.perform binding).2.grouped = List.range (request.perform binding).2.placeholders ↔
      binding.grouped = List.range binding.placeholders ∧ none ∉ request.strays := by
  rcases perform_cases binding request with
    ⟨number, filled, more, granted, made, added⟩ | ⟨error, filled, more, made, added⟩
  · have joined : (filled.pushGroup request.name request.kind binding.slots.length
        request.isMembership).grouped = binding.grouped ++ more.filterMap Slot.index? := by
      change ((filled.groups ++ [_]).flatMap filled.slotsOf).filterMap Slot.index? = _
      rw [List.flatMap_append, List.filterMap_append, List.flatMap_singleton,
        slotsOf_added added.slots, ← added.grouped_eq regular]
      rfl
    have count : (filled.pushGroup request.name request.kind binding.slots.length
        request.isMembership).placeholders = filled.placeholders := rfl
    rw [made]
    dsimp only
    rw [joined, count, added.indices, added.placeholders, List.range_eq_range',
      ← List.range'_append_1, Nat.zero_add, List.append_left_inj, granted, List.range_eq_range']
    simp
  · rw [made]
    dsimp only
    rw [added.grouped_eq regular, added.placeholders]
    constructor
    · intro all
      have count : request.strays.countP Option.isNone = 0 := by
        by_contra some_
        have member : binding.placeholders ∈ binding.grouped := by
          rw [all, List.mem_range]
          omega
        exact Nat.lt_irrefl _ (lt_of_mem_grouped regular member)
      rw [count] at all
      exact ⟨all, fun member => by simpa using List.countP_eq_zero.1 count none member⟩
    · rintro ⟨all, without⟩
      have count : request.strays.countP Option.isNone = 0 := by
        refine List.countP_eq_zero.2 fun item member missing => without ?_
        rwa [Option.isNone_iff_eq_none.1 missing] at member
      rw [count]
      exact all

/-! ## Runs -/

theorem Regular.performAll (regular : binding.Regular) (requests : List Request) :
    (binding.performAll requests).2.Regular := by
  induction requests generalizing binding with
  | nil => exact regular
  | cons request rest ih => exact ih (regular.perform request)

theorem covers_performAll_iff (regular : binding.Regular) (requests : List Request) :
    Covers 0 (binding.performAll requests).2.groups (binding.performAll requests).2.slots.length ↔
      Covers 0 binding.groups binding.slots.length ∧ ∀ request ∈ requests, request.strays = [] := by
  induction requests generalizing binding with
  | nil => simp [Binding.performAll]
  | cons request rest ih =>
      rw [List.forall_mem_cons, ← and_assoc, ← covers_perform_iff regular request]
      exact ih (regular.perform request)

theorem grouped_performAll_iff (regular : binding.Regular) (requests : List Request) :
    (binding.performAll requests).2.grouped =
        List.range (binding.performAll requests).2.placeholders ↔
      binding.grouped = List.range binding.placeholders ∧
        ∀ request ∈ requests, none ∉ request.strays := by
  induction requests generalizing binding with
  | nil => simp [Binding.performAll]
  | cons request rest ih =>
      rw [List.forall_mem_cons, ← and_assoc, ← grouped_perform_iff regular request]
      exact ih (regular.perform request)

/-- A request that is refused adds no group, and leaves a binding as it was exactly when it has no
strays. Over a run of requests, the groups cover the slots exactly when no request has strays, and
the placeholders of the groups are those that a run asks arguments for exactly when no request has
a placeholder among its strays. -/
theorem untouched_iff_no_strays (requests : List Request) :
    let binding := (empty.performAll requests).2
    (∀ (request : Request) (error : QueryError), (request.perform binding).1 = .error error →
      let bound := (request.perform binding).2
      bound.groups = binding.groups ∧
      bound.slots.length = binding.slots.length + request.strays.length ∧
      bound.placeholders = binding.placeholders + request.strays.countP Option.isNone ∧
      (bound = binding ↔ request.strays = [])) ∧
    (Covers 0 binding.groups binding.slots.length ↔
      ∀ request ∈ requests, request.strays = []) ∧
    (binding.grouped = List.range binding.placeholders ↔
      ∀ request ∈ requests, none ∉ request.strays) := by
  intro binding
  refine ⟨?_, ?_, ?_⟩
  · intro request error refused bound
    rcases perform_cases binding request with
      ⟨number, filled, more, -, made, -⟩ | ⟨error, filled, more, made, added⟩
    · rw [made] at refused
      cases refused
    · have same : bound = filled := congrArg Prod.snd made
      have length : bound.slots.length = binding.slots.length + request.strays.length := by
        rw [same, added.slots, List.length_append, added.length]
      refine ⟨same ▸ added.groups, length, same ▸ added.placeholders, ?_, ?_⟩
      · intro kept
        rw [kept] at length
        exact List.length_eq_zero_iff.1 (by omega)
      · intro none_
        have nothing : more = [] := List.length_eq_zero_iff.1 (by rw [added.length, none_]; rfl)
        have slots := added.slots
        have placeholders := added.placeholders
        rw [nothing, List.append_nil] at slots
        rw [none_] at placeholders
        rw [same]
        exact congr (congr (congrArg Binding.mk slots) added.groups) placeholders
  · rw [covers_performAll_iff regular_empty requests]
    exact and_iff_right rfl
  · rw [grouped_performAll_iff regular_empty requests]
    exact and_iff_right rfl

/-- A list that is refused for its second item leaves the slot of the first, which asks for an
argument and belongs to no group. -/
theorem refused_keeps_slot :
    let request := Request.membership "ID" .int [none, some (.string "x")]
    let bound := (request.perform empty).2
    (request.perform empty).1 =
        .error (.compile (.invalidArgument "ID" (.string "x") .int)) ∧
      bound ≠ empty ∧ bound.groups = [] ∧ bound.slots.length = 1 ∧
      ¬ Covers 0 bound.groups bound.slots.length ∧
      bound.expand [] = .error (.compile (.argumentCount 1 0)) := by
  refine ⟨rfl, ?_, rfl, rfl, ?_, rfl⟩
  · intro same
    have length := congrArg (·.slots.length) same
    cases length
  · intro covers
    cases covers

end Binding

end RecordQuery
