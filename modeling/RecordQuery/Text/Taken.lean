/-!
# Readers that make progress

A reader takes something from the front of a list. Its answer carries the proof that less is left
than it was given, so readers that call one another end.
-/

namespace RecordQuery.Text

/-- What a reader found at the front of `input`, and the shorter list behind it. -/
structure Taken (α : Type) {σ : Type} (input : List σ) where
  value : α
  rest : List σ
  shorter : rest.length < input.length

namespace Taken

variable {α β σ : Type} {input longer rest : List σ}

/-- A find that takes one element. -/
def head (value : α) (c : σ) (rest : List σ) : Taken α (c :: rest) :=
  ⟨value, rest, Nat.lt_succ_self _⟩

def map (f : α → β) (taken : Taken α input) : Taken β input :=
  { taken with value := f taken.value }

/-- The same find seen from an input that is at least as long. -/
def widen (taken : Taken α input) (le : input.length ≤ longer.length) : Taken α longer :=
  { taken with shorter := Nat.lt_of_lt_of_le taken.shorter le }

/-- The same find seen from one element before it. -/
def behind (c : σ) (taken : Taken α rest) : Taken α (c :: rest) := taken.widen (Nat.le_succ _)

end Taken

/-- What stands at the front of `input`, possibly nothing, and the list behind it. -/
structure Front (α : Type) {σ : Type} (input : List σ) where
  value : α
  rest : List σ
  le : rest.length ≤ input.length

theorem length_dropWhile_le {σ : Type} (p : σ → Bool) (input : List σ) :
    (input.dropWhile p).length ≤ input.length :=
  (List.dropWhile_sublist p).length_le

/-- What follows the first element of a list that is no longer than another is shorter. -/
theorem length_lt_of_eq_cons {σ : Type} {front input rest : List σ} {c : σ}
    (start : front = c :: rest) (le : front.length ≤ input.length) :
    rest.length < input.length := by
  subst start
  exact le

/-- What follows the first element that was not skipped is shorter than the whole. -/
theorem length_lt_of_dropWhile_eq_cons {σ : Type} {p : σ → Bool} {input rest : List σ} {c : σ}
    (found : input.dropWhile p = c :: rest) : rest.length < input.length :=
  length_lt_of_eq_cons found (length_dropWhile_le p input)

end RecordQuery.Text
