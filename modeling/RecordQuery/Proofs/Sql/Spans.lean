import Mathlib.Data.List.TakeWhile
import RecordQuery.Proofs.Sql.Tokens

/-!
# The characters of tokens

A token takes a span of characters from the front of a text. Only string literals and names between
grave accents have other characters than letters, digits and signs.
-/

namespace RecordQuery.Sql

/-- The characters of words, numbers and operators, and the punctuation marks. -/
def isTokenChar (c : Char) : Bool := Text.isWordChar c || "=!<>-*,.();".toList.contains c

/-- The characters of a string literal from behind the quote that opens it up to the one that closes
it. A quote inside is written twice or behind a backslash. -/
inductive LiteralTail (quote : Char) : List Char → Prop where
  | close : LiteralTail quote [quote]
  | twice {text : List Char} (behind : LiteralTail quote text) :
      LiteralTail quote (quote :: quote :: text)
  | escape {text : List Char} (hidden : Char) (behind : LiteralTail quote text) :
      LiteralTail quote ('\\' :: hidden :: text)
  | other {c : Char} {text : List Char} (notQuote : c ≠ quote) (notEscape : c ≠ '\\')
      (behind : LiteralTail quote text) : LiteralTail quote (c :: text)

/-- The characters that a token is read from. -/
inductive Token.ReadFrom : Token → List Char → Prop where
  | placeholder : ReadFrom .placeholder ['?']
  | plain {token : Token} {text : List Char} (other : token ≠ .placeholder)
      (chars : ∀ c ∈ text, isTokenChar c = true) : ReadFrom token text
  | literal {quote : Char} {text : List Char} (value : String) (opens : quote = '\'' ∨ quote = '"')
      (tail : LiteralTail quote text) : ReadFrom (.string value) (quote :: text)
  | name {name : List Char} (inside : '\x60' ∉ name) :
      ReadFrom (.identifier (String.ofList name)) ('\x60' :: (name ++ ['\x60']))

theorem isTokenChar_of_isWordChar {c : Char} (word : Text.isWordChar c = true) :
    isTokenChar c = true := by
  rw [isTokenChar, word, Bool.true_or]

theorem isTokenChar_of_isDigit {c : Char} (digit : c.isDigit = true) : isTokenChar c = true :=
  isTokenChar_of_isWordChar (by simp [Text.isWordChar, Text.isNumeric_of_isDigit digit])


/-! ## Reading characters -/

theorem readFrom_of_scanNumber {text rest : List Char} {token : Token}
    (found : scanNumber text = .ok (token, rest)) :
    ∃ taken, text = taken ++ rest ∧ token.ReadFrom taken := by
  have digits (text : List Char) : ∀ c ∈ text.takeWhile Char.isDigit, isTokenChar c = true :=
    fun c inside => isTokenChar_of_isDigit (List.mem_takeWhile_imp inside)
  have whole : text = text.takeWhile Char.isDigit ++ text.dropWhile Char.isDigit :=
    (List.takeWhile_append_dropWhile ..).symm
  unfold scanNumber at found
  dsimp only at found
  split at found
  · rename_i first more point
    split at found
    · rename_i digit
      cases found
      refine ⟨text.takeWhile Char.isDigit ++ '.' :: first :: more.takeWhile Char.isDigit, ?_,
        .plain nofun ?_⟩
      · rw [List.append_assoc, List.cons_append, List.cons_append, List.takeWhile_append_dropWhile,
          ← point]
        exact whole
      · intro c inside
        rcases List.mem_append.1 inside with inside | inside
        · exact digits text c inside
        · rcases List.mem_cons.1 inside with rfl | inside
          · rfl
          · rcases List.mem_cons.1 inside with rfl | inside
            · exact isTokenChar_of_isDigit digit
            · exact digits more c inside
    · split at found <;> cases found
      exact ⟨_, point ▸ whole, .plain nofun (digits text)⟩
  · split at found <;> cases found
    exact ⟨_, whole, .plain nofun (digits text)⟩

theorem readFrom_of_scanSymbol {text rest : List Char} {token : Token}
    (found : scanSymbol text = some (token, rest)) :
    ∃ taken, text = taken ++ rest ∧ token.ReadFrom taken := by
  have single (c : Char) (sign : isTokenChar c = true) : ∀ d ∈ [c], isTokenChar d = true := by
    simpa using sign
  have double (c d : Char) (first : isTokenChar c = true) (second : isTokenChar d = true) :
      ∀ e ∈ [c, d], isTokenChar e = true := by
    simp [first, second]
  unfold scanSymbol at found
  split at found <;> cases found <;>
    first
    | exact ⟨[_], rfl, .placeholder⟩
    | exact ⟨[_], rfl, .plain nofun (single _ rfl)⟩
    | exact ⟨[_, _], rfl, .plain nofun (double _ _ rfl rfl)⟩

theorem literalTail_of_scanString {quote : Char} {text value rest : List Char}
    (found : scanString quote text = some (value, rest)) :
    ∃ taken, text = taken ++ rest ∧ LiteralTail quote taken := by
  fun_induction scanString quote text generalizing value rest with
  | case1 => cases found
  | case2 c same =>
      cases found
      cases beq_iff_eq.1 same
      exact ⟨[quote], rfl, .close⟩
  | case3 => cases found
  | case4 c next behind same twice ih =>
      rcases Option.map_eq_some_iff.1 found with ⟨⟨inner, after⟩, further, same'⟩
      cases same'
      cases beq_iff_eq.1 same
      cases beq_iff_eq.1 twice
      rcases ih further with ⟨taken, rfl, tail⟩
      exact ⟨quote :: quote :: taken, rfl, .twice tail⟩
  | case5 c next behind same once =>
      cases found
      cases beq_iff_eq.1 same
      exact ⟨[quote], rfl, .close⟩
  | case6 c next behind other escape ih =>
      rcases Option.map_eq_some_iff.1 found with ⟨⟨inner, after⟩, further, same⟩
      cases same
      cases beq_iff_eq.1 escape
      rcases ih further with ⟨taken, rfl, tail⟩
      exact ⟨'\\' :: next :: taken, rfl, .escape next tail⟩
  | case7 c next behind other plain ih =>
      rcases Option.map_eq_some_iff.1 found with ⟨⟨inner, after⟩, further, same⟩
      cases same
      rcases ih further with ⟨taken, same, tail⟩
      exact ⟨c :: taken, congrArg (c :: ·) same,
        .other (by simpa using other) (by simpa using plain) tail⟩

/-- A token takes the characters that it is read from. -/
theorem readFrom_of_scanToken {c : Char} {text rest : List Char} {token : Token}
    (found : scanToken (c :: text) = .ok (token, rest)) :
    ∃ taken, c :: text = taken ++ rest ∧ token.ReadFrom taken := by
  unfold scanToken at found
  dsimp only at found
  split at found
  · exact readFrom_of_scanNumber found
  split at found
  · rename_i opens
    have opens : c = '\'' ∨ c = '"' := by simpa using opens
    split at found <;> cases found
    rename_i value read
    rcases literalTail_of_scanString read with ⟨taken, rfl, tail⟩
    exact ⟨c :: taken, rfl, .literal _ opens tail⟩
  split at found
  · rename_i accent
    cases beq_iff_eq.1 accent
    split at found <;> cases found
    rename_i last closing
    have closes : last = '\x60' := by
      have present : text.dropWhile (· != '\x60') ≠ [] := by rw [closing]; exact nofun
      simpa [closing] using List.head_dropWhile_not (· != '\x60') present
    subst closes
    refine ⟨'\x60' :: (text.takeWhile (· != '\x60') ++ ['\x60']), ?_, .name fun inside => ?_⟩
    · rw [List.cons_append, List.append_assoc, List.singleton_append, ← closing,
        List.takeWhile_append_dropWhile]
    · simpa using List.mem_takeWhile_imp inside
  split at found
  · cases found
    refine ⟨_, (List.takeWhile_append_dropWhile ..).symm, .plain ?_ ?_⟩
    · unfold wordToken
      dsimp only
      split <;> exact nofun
    · exact fun c inside => isTokenChar_of_isWordChar (List.mem_takeWhile_imp inside)
  · split at found <;> cases found
    rename_i read
    exact readFrom_of_scanSymbol read

/-- What is left behind a token is the end of its text. -/
theorem exists_append_of_scanToken {text rest : List Char} {token : Token}
    (found : scanToken text = .ok (token, rest)) : ∃ taken, text = taken ++ rest := by
  cases text with
  | nil =>
      cases found
      exact ⟨[], rfl⟩
  | cons c more =>
      rcases readFrom_of_scanToken found with ⟨taken, split, -⟩
      exact ⟨taken, split⟩

end RecordQuery.Sql
