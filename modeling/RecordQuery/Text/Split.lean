/-!
# Parts between separators

Splitting keeps empty parts, so the parts with the separators between them spell the text again.
-/

namespace RecordQuery.Text

/-- The parts of a text between the occurrences of a character, at least one. -/
def splitAt (separator : Char) : List Char → List (List Char)
  | [] => [[]]
  | c :: rest =>
      if c == separator then [] :: splitAt separator rest
      else
        match splitAt separator rest with
        | [] => [[c]]
        | part :: parts => (c :: part) :: parts

theorem splitAt_ne_nil (separator : Char) (text : List Char) : splitAt separator text ≠ [] := by
  cases text with
  | nil => simp [splitAt]
  | cons c rest =>
      simp only [splitAt]
      split
      · simp
      · split <;> simp

/-- The separators between the parts are all that splitting removes. -/
theorem intercalate_splitAt (separator : Char) (text : List Char) :
    [separator].intercalate (splitAt separator text) = text := by
  induction text with
  | nil => rfl
  | cons c rest ih =>
      by_cases same : c = separator
      · subst same
        have parts := splitAt_ne_nil c rest
        cases found : splitAt c rest with
        | nil => exact absurd found parts
        | cons part more =>
            rw [found] at ih
            simp [splitAt, found, List.intercalate_cons_cons, ih]
      · cases found : splitAt separator rest with
        | nil => exact absurd found (splitAt_ne_nil _ _)
        | cons part more =>
            rw [found] at ih
            cases more with
            | nil => simpa [splitAt, same, found, List.intercalate_singleton] using ih
            | cons next others =>
                simp only [List.intercalate_cons_cons] at ih
                simpa [splitAt, same, found, List.intercalate_cons_cons] using ih

end RecordQuery.Text
