import Mathlib.Data.List.Basic

/-!
# Limits

A limit, where there is one, cuts a list off. Of several limits on one list only the
tightest one counts.
-/

namespace RecordQuery

variable {α β : Type}

/-- What a limit leaves of a list. -/
def within (limit : Option Nat) (items : List α) : List α :=
  match limit with
  | none => items
  | some limit => items.take limit

/-- The tighter of two limits. -/
def tighter : Option Nat → Option Nat → Option Nat
  | none, limit => limit
  | limit, none => limit
  | some first, some second => some (min first second)

theorem length_within_le {limit : Option Nat} {bound : Nat} (items : List α)
    (limited : limit = some bound) : (within limit items).length ≤ bound := by
  subst limited
  exact List.length_take_le bound items

@[simp] theorem within_nil (limit : Option Nat) : within limit ([] : List α) = [] := by
  cases limit <;> simp [within]

@[simp] theorem within_zero (items : List α) : within (some 0) items = [] := rfl

theorem mem_of_mem_within {limit : Option Nat} {items : List α} {item : α}
    (member : item ∈ within limit items) : item ∈ items := by
  cases limit with
  | none => exact member
  | some limit => exact List.mem_of_mem_take member

theorem within_map (limit : Option Nat) (image : α → β) (items : List α) :
    within limit (items.map image) = (within limit items).map image := by
  cases limit with
  | none => rfl
  | some limit => exact List.map_take.symm

/-- A limit on top of another one. -/
theorem within_within (outer inner : Option Nat) (items : List α) :
    within outer (within inner items) = within (tighter outer inner) items := by
  cases outer with
  | none => rfl
  | some outer =>
      cases inner with
      | none => rfl
      | some inner => exact List.take_take

/-- A limit that has been used up leaves nothing. -/
theorem within_of_full {limit : Option Nat} {used : Nat} (full : limit.any (· ≤ used) = true)
    (items : List α) : within (limit.map (· - used)) items = [] := by
  rcases (Option.any_eq_true _ _).1 full with ⟨limit, rfl, reached⟩
  have reached : limit ≤ used := by simpa using reached
  rw [Option.map_some, Nat.sub_eq_zero_of_le reached, within_zero]

/-- A limit that has not been used up leaves the first item. -/
theorem within_of_room {limit : Option Nat} {used : Nat} (room : limit.any (· ≤ used) = false)
    (item : α) (items : List α) :
    within (limit.map (· - used)) (item :: items) =
      item :: within (limit.map (· - (used + 1))) items := by
  cases limit with
  | none => rfl
  | some limit =>
      have more : used < limit := by simpa using room
      have split : limit - used = limit - (used + 1) + 1 :=
        (Nat.sub_add_cancel (Nat.sub_pos_of_lt more)).symm
      rw [Option.map_some, Option.map_some, split]
      rfl

theorem within_replicate (limit : Option Nat) (count : Nat) (item : α) :
    within limit (List.replicate count item) =
      List.replicate (limit.elim count (min · count)) item := by
  cases limit with
  | none => rfl
  | some limit => exact List.take_replicate

/-- A limit that leaves room keeps a single item. -/
theorem within_singleton {limit : Option Nat} (room : limit ≠ some 0) (item : α) :
    within limit [item] = [item] := by
  cases limit with
  | none => rfl
  | some limit =>
      cases limit with
      | zero => contradiction
      | succ more => simp [within]

/-- Limits that leave the same number of every number of items are the same. -/
theorem eq_of_elim_min {first second : Option Nat}
    (same : ∀ count : Nat, first.elim count (min · count) = second.elim count (min · count)) :
    first = second := by
  cases first with
  | none =>
      cases second with
      | none => rfl
      | some second =>
          have := same (second + 1)
          simp only [Option.elim] at this
          omega
  | some first =>
      cases second with
      | none =>
          have := same (first + 1)
          simp only [Option.elim] at this
          omega
      | some second =>
          have := same (first + second)
          simp only [Option.elim] at this
          congr 1
          omega

theorem tighter_eq_zero {first second : Option Nat} :
    tighter first second = some 0 ↔ first = some 0 ∨ second = some 0 := by
  cases first <;> cases second <;> simp [tighter]

end RecordQuery
