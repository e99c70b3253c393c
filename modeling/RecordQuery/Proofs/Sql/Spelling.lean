import Mathlib.Data.List.TakeWhile
import RecordQuery.Proofs.Sql.Printed
import RecordQuery.Proofs.Sql.Written

/-!
# Reading written tokens

The spelling of a token is one of its printed forms, and the text of tokens has a blank behind each
of them. So it is read back as these tokens, and every token stands where its text does.
-/

namespace RecordQuery.Sql

/-- A token that its own spelling is read as. -/
def Token.Writable : Token → Prop
  | .identifier name => Plain name
  | .integer value => 0 ≤ value.toInt
  | .float value => scanToken (Token.float value).spelling = .ok (.float value, [])
  | .endOfInput => False
  | .keyword _ | .string _ | .placeholder | .symbol _ => True

/-! ## Tokens -/

/-- A text that is a float starts with a digit and ends in digits behind a point. -/
theorem exists_digits_of_float {text : List Char} {value : ExtDouble}
    (scanned : scanToken text = .ok (.float value, [])) :
    ∃ whole first fraction, text = whole ++ '.' :: first :: fraction ∧
      (∃ c ∈ text.head?, c.isDigit = true) ∧ (∀ c ∈ whole, c.isDigit = true) ∧
      first.isDigit = true ∧ (∀ c ∈ fraction, c.isDigit = true) ∧
      value = ExtDouble.ofDecimal false (digitsValue (whole ++ first :: fraction))
        (-((first :: fraction).length : Int)) := by
  unfold scanToken at scanned
  split at scanned
  · cases scanned
  · rename_i c rest
    split at scanned
    · rename_i digit
      have split := List.takeWhile_append_dropWhile (p := Char.isDigit) (l := c :: rest)
      unfold scanNumber at scanned
      dsimp only at scanned
      split at scanned
      · rename_i first more dropped
        split at scanned
        · rename_i next
          rcases Prod.mk.inj (Except.ok.inj scanned) with ⟨number, ending⟩
          have fraction := List.dropWhile_eq_nil_iff.1 ending
          rw [List.takeWhile_eq_self_iff.2 fraction] at number
          cases number
          refine ⟨_, first, more, ?_, ⟨c, rfl, digit⟩, ?_, next, fraction, rfl⟩
          · rw [← dropped, split]
          · exact fun c inside => List.mem_takeWhile_imp inside
        · split at scanned <;> cases scanned
      · split at scanned <;> cases scanned
    -- No other token is a float.
    · split at scanned
      · split at scanned <;> cases scanned
      split at scanned
      · split at scanned <;> cases scanned
      split at scanned
      · rename_i word
        unfold wordToken at scanned
        dsimp only at scanned
        split at scanned <;> cases scanned
      · split at scanned
        · rename_i found symbol
          cases scanned
          unfold scanSymbol at symbol
          split at symbol <;> cases symbol
        · cases scanned

/-- Behind their backslashes, the characters of a string stand for themselves. -/
theorem stringText_escape (value : List Char) :
    StringText '\'' value (value.flatMap escape) := by
  induction value with
  | nil => exact .nil
  | cons c value ih =>
      rw [List.flatMap_cons]
      by_cases quote : c = '\''
      · subst quote
        exact .escaped '\'' ih
      by_cases slash : c = '\\'
      · subst slash
        exact .escaped '\\' ih
      · have own : escape c = [c] := by simp [escape, quote, slash]
        rw [own]
        exact .plain quote slash ih

/-- The spelling of a token is one of its printed forms. -/
theorem prints_spelling {token : Token} (writable : token.Writable) :
    token.Prints token.spelling := by
  cases token with
  | keyword word =>
      refine .keyword ?_
      cases word <;> decide +kernel
  | identifier name =>
      have own := @Token.Prints.identifier name.toList writable
      rw [String.ofList_toList] at own
      exact own
  | integer value => exact .integer writable
  | float value =>
      rcases exists_digits_of_float writable with
        ⟨whole, first, fraction, split, front, digits, next, behind, number⟩
      rw [split] at front ⊢
      have some : whole ≠ [] := by
        rintro rfl
        rcases front with ⟨_, ⟨⟩, digit⟩
        cases digit
      rw [number]
      exact .float some (by simp)
        (List.forall_mem_append.2 ⟨digits, List.forall_mem_cons.2 ⟨next, behind⟩⟩)
  | string value =>
      have own := Token.Prints.string (.inl rfl) (stringText_escape value.toList)
      rw [String.ofList_toList] at own
      exact own
  | placeholder => exact .placeholder
  | symbol sign =>
      refine .symbol ?_
      cases sign <;> exact List.mem_cons_self
  | endOfInput => cases writable

/-! ## Whole texts -/

/-- A token is read up to the blank behind it. -/
theorem scanToken_spelling {token : Token} (writable : token.Writable) (rest : List Char) :
    scanToken (token.spelling ++ ' ' :: rest) = .ok (token, ' ' :: rest) := by
  refine scanToken_of_prints (prints_spelling writable) ?_
  rintro next ⟨⟩
  rfl

/-- A token starts where its spelling does. -/
theorem skipTrivia_spelling {token : Token} (writable : token.Writable) (rest : List Char) :
    skipTrivia .blank (token.spelling ++ ' ' :: rest) = token.spelling ++ ' ' :: rest := by
  refine skipTrivia_of_prints (prints_spelling writable) ?_
  rintro next ⟨⟩
  rfl

/-- The text of tokens is one that they are printed as. -/
theorem printed_spell {tokens : List Token} (writable : ∀ token ∈ tokens, token.Writable)
    (start : Nat) : Printed start (placed start tokens) (spell tokens) := by
  induction tokens generalizing start with
  | nil => exact .done
  | cons token rest ih =>
      have own := prints_spelling (writable token List.mem_cons_self)
      have others := ih (fun other inside => writable other (.tail _ inside))
        (start + (token.spelling ++ [' ']).length)
      have width : spell [token] = token.spelling ++ [' '] := List.append_nil _
      rw [spell_cons, List.append_cons, placed, width]
      exact .cons own rfl .nil others

theorem skipTrivia_spell {tokens : List Token} (writable : ∀ token ∈ tokens, token.Writable) :
    skipTrivia .blank (spell tokens) = spell tokens :=
  skipTrivia_of_printed (printed_spell writable 0)

/-- The text of tokens is read as these tokens and the end of the input. -/
theorem tokenize_spell {tokens : List Token} (writable : ∀ token ∈ tokens, token.Writable) :
    tokenize (String.ofList (spell tokens)) 0 =
      .ok (placed 0 tokens ++ [⟨.endOfInput, (spell tokens).length⟩]) := by
  have skipped : skipTrivia .blank ([] ++ spell tokens) = spell tokens := skipTrivia_spell writable
  have own := tokenize_eq skipped 0
  rw [List.nil_append] at own
  rw [own, List.length_nil, Nat.add_zero, tokenizeFrom_printed (printed_spell writable 0),
    Nat.zero_add]

end RecordQuery.Sql
