import RecordQuery.Proofs.Path.Blocks

/-!
# Where tokens stand

A cursor stands in a text at its position, and moving it on keeps it there. So every token of a text
starts at its position, the end of the input behind the last character, and a fault in a token is
shown by the characters at the position of the fault. Positions of a text that stands in a statement
are positions of the statement.
-/

namespace RecordQuery

open Outcome

/-! ## Cursors in a text -/

namespace Sql

/-- The cursor stands in a text whose first character has the position `offset`. -/
def Cursor.In (here : Cursor) (text : List Char) (offset : Nat) : Prop :=
  ∃ passed, text = passed ++ here.rest ∧ here.position = offset + passed.length

namespace Cursor.In

variable {here : Cursor} {text statement : List Char} {offset : Nat}

theorem start (text : String) (offset : Nat) : (Cursor.start text offset).In text.toList offset :=
  ⟨[], rfl, rfl⟩

theorem advance (inside : here.In text offset) {taken rest : List Char}
    (split : here.rest = taken ++ rest) : (here.advance rest).In text offset := by
  rcases inside with ⟨passed, rfl, place⟩
  refine ⟨passed ++ taken, by rw [split, List.append_assoc]; rfl, ?_⟩
  rw [Cursor.advance, split, place, List.length_append, List.length_append, Nat.add_sub_cancel,
    Nat.add_assoc]

theorem advance_dropWhile (inside : here.In text offset) (p : Char → Bool) :
    (here.advance (here.rest.dropWhile p)).In text offset :=
  inside.advance List.takeWhile_append_dropWhile.symm

theorem skip (inside : here.In text offset) : here.skip.In text offset := by
  rcases Path.exists_append_of_skipTrivia .blank here.rest with ⟨skipped, split⟩
  exact inside.advance split

/-- Behind a token, a cursor still stands in the text. -/
theorem advance_scanToken (inside : here.In text offset) {token : Token} {rest : List Char}
    (scanned : scanToken here.rest = .ok (token, rest)) : (here.advance rest).In text offset := by
  rcases exists_append_of_scanToken scanned with ⟨taken, split⟩
  exact inside.advance split

/-- Where the text stands in a statement, the statement goes on with the rest of the text at the
position of the cursor. -/
theorem goesOn (inside : here.In text offset) (stands : text <+: statement.drop offset) :
    here.rest <+: statement.drop here.position := by
  rcases inside with ⟨passed, rfl, place⟩
  rcases stands with ⟨more, split⟩
  refine ⟨more, ?_⟩
  rw [place, ← List.drop_drop, ← split, List.append_assoc, List.drop_left]

end Cursor.In

/-! ## Faults shown by characters -/

/-- The error shows a syntax fault by characters of a statement, at their position. -/
def Quotes (statement : List Char) (error : QueryError) : Prop :=
  ∃ fault fragment position, error = .locatedAt fault fragment position ∧ fragment ≠ "" ∧
    fragment.toList <+: statement.drop position

/-- A fault is shown by the next characters of the statement, as long as there are any. -/
theorem quotes_take {here : Cursor} {statement : List Char} (fault : SyntaxFault) {count : Nat}
    (some : 0 < count) (more : here.rest ≠ [])
    (goesOn : here.rest <+: statement.drop here.position) :
    Quotes statement (.locatedAt fault (String.ofList (here.rest.take count)) here.position) := by
  refine ⟨fault, _, here.position, rfl, ?_, ?_⟩
  · intro empty
    have none : here.rest.take count = [] := by simpa using congrArg String.toList empty
    rcases List.take_eq_nil_iff.1 none with zero | nil
    · exact Nat.ne_of_gt some zero
    · exact more nil
  · rw [String.toList_ofList]
    exact (List.take_prefix ..).trans goesOn

theorem quotes_fragment {here : Cursor} {statement : List Char} (fault : SyntaxFault) (read : Nat)
    (more : here.rest ≠ []) (goesOn : here.rest <+: statement.drop here.position) :
    Quotes statement (.locatedAt fault (here.fragment read) here.position) :=
  quotes_take fault (Nat.lt_min.2 ⟨read.succ_pos, by decide⟩) more goesOn

/-! ## Tokens of a text -/

/-- The token starts at its position in a text whose first character has the position `offset`:
there the text goes on with it. The end of the input stands behind the last character. -/
structure Located.StartsIn (located : Located) (text : List Char) (offset : Nat) : Prop where
  scanned : ∃ passed rest after, text = passed ++ rest ∧
    located.position = offset + passed.length ∧ scanToken rest = .ok (located.token, after)
  atEnd : located.token = .endOfInput → located.position = offset + text.length

theorem startsIn_of_scanToken {here : Cursor} {text rest : List Char} {offset : Nat} {token : Token}
    (inside : here.In text offset) (scanned : scanToken here.rest = .ok (token, rest)) :
    (⟨token, here.position⟩ : Located).StartsIn text offset := by
  rcases inside with ⟨passed, split, place⟩
  refine ⟨⟨passed, here.rest, rest, split, place, scanned⟩, ?_⟩
  rintro rfl
  cases line : here.rest with
  | nil => rw [place, split, line, List.append_nil]
  | cons c more =>
      rw [line] at scanned
      exact absurd rfl (ne_endOfInput_of_scanToken scanned)

/-- The tokens of a text start at their positions, and the end of the input is among them. Where a
text has no tokens, its characters show why. -/
theorem yields_tokenizeFrom {here : Cursor} {text statement : List Char} {offset : Nat}
    (inside : here.In text offset) (stands : text <+: statement.drop offset) :
    Yields (Quotes statement)
      (fun tokens => (∀ located ∈ tokens, located.StartsIn text offset) ∧
        ∃ located ∈ tokens, located.token = .endOfInput)
      (tokenizeFrom here) := by
  -- What is left behind a token is shorter, and its trivia only shorten it further.
  induction length : here.rest.length using Nat.strongRecOn generalizing here with
  | ind length' ih =>
      subst length
      cases line : here.rest with
      | nil =>
          rw [tokenizeFrom_nil line]
          have scanned : scanToken here.rest = .ok (.endOfInput, []) := by rw [line, scanToken]
          have last := startsIn_of_scanToken inside scanned
          exact ⟨by simpa using last, _, List.mem_cons_self, rfl⟩
      | cons c more =>
          have front : here.rest ≠ [] := by simp [line]
          rw [tokenizeFrom_cons line]
          split
          · exact quotes_fragment _ _ front (inside.goesOn stands)
          · rename_i token rest scanned
            have shorter : (here.advance rest).skip.rest.length < here.rest.length := by
              rw [line] at scanned ⊢
              exact Nat.lt_of_le_of_lt (length_skipTrivia_le .blank rest)
                (length_lt_of_scanToken scanned)
            have onward := ih _ shorter (inside.advance_scanToken scanned).skip rfl
            refine onward.bind fun tokens _ ⟨start, last, inTokens, ended⟩ => ?_
            refine ⟨?_, last, List.mem_cons_of_mem _ inTokens, ended⟩
            exact List.forall_mem_cons.2 ⟨startsIn_of_scanToken inside scanned, start⟩

end Sql

end RecordQuery
