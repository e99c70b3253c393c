import RecordQuery.Proofs.Outcome
import RecordQuery.Sql.Token.Scan

/-!
# The tokens of a text

The tokens of a text are those at its front, one after the other, with blanks and comments left
out. Only the last of them is the end of the input, and they do not depend on the position that the
text starts at.
-/

namespace RecordQuery.Sql

variable {here : Cursor} {tokens : List Located}

@[simp] theorem Cursor.rest_skip (cursor : Cursor) :
    cursor.skip.rest = skipTrivia .blank cursor.rest := rfl

@[simp] theorem Cursor.rest_advance (cursor : Cursor) (rest : List Char) :
    (cursor.advance rest).rest = rest := rfl

/-- At the end of a text there is one token. -/
theorem tokenizeFrom_nil (done : here.rest = []) :
    tokenizeFrom here = .ok [⟨.endOfInput, here.position⟩] := by
  rw [tokenizeFrom]
  split
  · rfl
  · rename_i front
    rw [done] at front
    cases front

/-- Before the end of a text, a token is scanned and the tokens behind it follow. -/
theorem tokenizeFrom_cons {c : Char} {text : List Char} (front : here.rest = c :: text) :
    tokenizeFrom here =
      match scanToken here.rest with
      | .error fault => .error (.locatedAt fault.fault (here.fragment fault.read) here.position)
      | .ok (token, rest) =>
          (⟨token, here.position⟩ :: ·) <$> tokenizeFrom (here.advance rest).skip := by
  rw [tokenizeFrom.eq_def]
  split
  · rename_i done
    rw [done] at front
    cases front
  · split
    · rename_i scanned
      simp only [scanned]
    · rename_i scanned
      simp only [scanned]
      rfl

theorem tokenizeFrom_eq_ok (found : tokenizeFrom here = .ok tokens) :
    (here.rest = [] ∧ tokens = [⟨.endOfInput, here.position⟩]) ∨
      ∃ token rest more, here.rest ≠ [] ∧ scanToken here.rest = .ok (token, rest) ∧
        tokenizeFrom (here.advance rest).skip = .ok more ∧
        tokens = ⟨token, here.position⟩ :: more := by
  cases front : here.rest with
  | nil =>
      rw [tokenizeFrom_nil front] at found
      cases found
      exact .inl ⟨rfl, rfl⟩
  | cons c text =>
      rw [tokenizeFrom_cons front] at found
      rw [← front]
      split at found
      · cases found
      · rename_i token rest scanned
        rcases Outcome.map_eq_ok.1 found with ⟨more, behind, rfl⟩
        exact .inr ⟨token, rest, more, by simp [front], scanned, behind, rfl⟩

/-! ## The end of the input -/

/-- Digits give the token of a number. -/
theorem cases_of_scanNumber {text rest : List Char} {token : Token}
    (scanned : scanNumber text = .ok (token, rest)) :
    (∃ n, token = .integer n) ∨ ∃ x, token = .float x := by
  unfold scanNumber at scanned
  dsimp only at scanned
  split at scanned
  · split at scanned
    · cases scanned
      exact .inr ⟨_, rfl⟩
    · split at scanned <;> cases scanned
      exact .inl ⟨_, rfl⟩
  · split at scanned <;> cases scanned
    exact .inl ⟨_, rfl⟩

/-- A sign gives the token of a placeholder or of a symbol. -/
theorem cases_of_scanSymbol {text rest : List Char} {token : Token}
    (scanned : scanSymbol text = some (token, rest)) :
    token = .placeholder ∨ ∃ sign, token = .symbol sign := by
  unfold scanSymbol at scanned
  split at scanned
  case h_1 =>
      cases scanned
      exact .inl rfl
  case h_17 => cases scanned
  all_goals
    cases scanned
    exact .inr ⟨_, rfl⟩

theorem wordToken_ne_endOfInput (word : List Char) : wordToken word ≠ .endOfInput := by
  unfold wordToken
  dsimp only
  split <;> exact nofun

/-- A text that is not at its end has another token at its front. -/
theorem ne_endOfInput_of_scanToken {c : Char} {text rest : List Char} {token : Token}
    (scanned : scanToken (c :: text) = .ok (token, rest)) : token ≠ .endOfInput := by
  unfold scanToken at scanned
  dsimp only at scanned
  split at scanned
  · cases cases_of_scanNumber scanned with
    | inl integer =>
        obtain ⟨n, rfl⟩ := integer
        exact nofun
    | inr float =>
        obtain ⟨x, rfl⟩ := float
        exact nofun
  split at scanned
  · split at scanned <;> cases scanned
    exact nofun
  split at scanned
  · split at scanned <;> cases scanned
    exact nofun
  split at scanned
  · cases scanned
    exact wordToken_ne_endOfInput _
  · split at scanned <;> cases scanned
    rename_i found
    cases cases_of_scanSymbol found with
    | inl placeholder =>
        subst placeholder
        exact nofun
    | inr symbol =>
        obtain ⟨sign, rfl⟩ := symbol
        exact nofun

/-- Nothing follows the end of the input. -/
theorem eq_nil_of_endOfInput {position : Nat} {taken rest : List Located}
    (found : tokenizeFrom here = .ok tokens)
    (split : tokens = taken ++ ⟨.endOfInput, position⟩ :: rest) : rest = [] := by
  induction taken generalizing here tokens with
  | nil =>
      rcases tokenizeFrom_eq_ok found with
        ⟨-, rfl⟩ | ⟨token, after, more, front, scanned, -, rfl⟩
      · cases split
        rfl
      · cases split
        rcases List.exists_cons_of_ne_nil front with ⟨c, text, front⟩
        rw [front] at scanned
        exact absurd rfl (ne_endOfInput_of_scanToken scanned)
  | cons first taken ih =>
      rcases tokenizeFrom_eq_ok found with ⟨-, rfl⟩ | ⟨token, after, more, -, -, behind, rfl⟩
      · cases taken <;> cases split
      · cases split
        exact ih behind rfl

/-! ## Positions -/

/-- The tokens of a text are the same wherever the text starts. -/
theorem tokenizeFrom_shift (other : Cursor) (same : other.rest = here.rest)
    (found : tokenizeFrom here = .ok tokens) :
    ∃ moved, tokenizeFrom other = .ok moved ∧ moved.map (·.token) = tokens.map (·.token) := by
  induction length : here.rest.length using Nat.strongRecOn
    generalizing here other tokens with
  | ind length' ih =>
      subst length
      rcases tokenizeFrom_eq_ok found with
        ⟨done, rfl⟩ | ⟨token, rest, more, front, scanned, behind, rfl⟩
      · exact ⟨_, tokenizeFrom_nil (same.trans done), rfl⟩
      · rcases List.exists_cons_of_ne_nil front with ⟨c, text, front⟩
        have shorter : (here.advance rest).skip.rest.length < here.rest.length := by
          rw [front] at scanned ⊢
          exact Nat.lt_of_le_of_lt (length_skipTrivia_le .blank rest)
            (length_lt_of_scanToken scanned)
        have onward : (other.advance rest).skip.rest = (here.advance rest).skip.rest := rfl
        rcases ih _ shorter _ onward behind rfl with ⟨moved, shifted, alike⟩
        refine ⟨⟨token, other.position⟩ :: moved, ?_, by simp [alike]⟩
        rw [tokenizeFrom_cons (same.trans front), same, scanned]
        simp only [shifted]
        rfl

end RecordQuery.Sql
