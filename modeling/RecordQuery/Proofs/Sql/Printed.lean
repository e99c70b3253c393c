import Mathlib.Data.List.TakeWhile
import RecordQuery.Proofs.Sql.Tokens
import RecordQuery.Proofs.Text.Blanks

/-!
# Printed tokens

A token can be printed in many ways: a keyword in any case of letters, a string between either kind
of quotes, some signs with two spellings. Tokens with blanks and comments between them are read back
as they are, each at the position of its first character. A blank has to stand behind each token: a
comment alone could be taken for a part of it.
-/

namespace RecordQuery.Sql

open Text (isBlank)

/-! ## What is printed -/

/-- The characters between the quotes of a string. A quote is written twice or behind a backslash,
and so are backslashes and the characters that have an escape. -/
inductive StringText (quote : Char) : List Char → List Char → Prop where
  | nil : StringText quote [] []
  | plain {c : Char} {value text : List Char} (notQuote : c ≠ quote) (notSlash : c ≠ '\\')
      (others : StringText quote value text) : StringText quote (c :: value) (c :: text)
  | twice {value text : List Char} (others : StringText quote value text) :
      StringText quote (quote :: value) (quote :: quote :: text)
  | escaped {value text : List Char} (c : Char) (others : StringText quote value text) :
      StringText quote (unescape c :: value) ('\\' :: c :: text)

/-- The spellings of a sign. -/
def Symbol.spellings : Symbol → List String
  | .equal => ["=", "=="]
  | .notEqual => ["!=", "<>"]
  | other => [other.text]

/-- The printed forms of a token. -/
inductive Token.Prints : Token → List Char → Prop where
  | keyword {word : Keyword} {text : List Char}
      (spelled : (String.ofList text).toUpper = word.text) : Prints (.keyword word) text
  | identifier {name : List Char} (plain : '\x60' ∉ name) :
      Prints (.identifier (String.ofList name)) ('\x60' :: (name ++ ['\x60']))
  | string {quote : Char} {value text : List Char} (mark : quote = '\'' ∨ quote = '"')
      (inside : StringText quote value text) :
      Prints (.string (String.ofList value)) (quote :: (text ++ [quote]))
  | integer {value : Int64} (natural : 0 ≤ value.toInt) :
      Prints (.integer value) (Nat.toDigits 10 value.toInt.toNat)
  | float {whole fraction : List Char} (some : whole ≠ []) (more : fraction ≠ [])
      (digits : ∀ c ∈ whole ++ fraction, c.isDigit = true) :
      Prints
        (.float (.ofDecimal false (digitsValue (whole ++ fraction)) (-(fraction.length : Int))))
        (whole ++ '.' :: fraction)
  | placeholder : Prints .placeholder ['?']
  | symbol {sign : Symbol} {spelling : String} (spelled : spelling ∈ sign.spellings) :
      Prints (.symbol sign) spelling.toList

/-- Blanks and complete comments in any order. -/
inductive Trivia : List Char → Prop where
  | nil : Trivia []
  | blank {c : Char} {others : List Char} (blank : isBlank c = true) (rest : Trivia others) :
      Trivia (c :: others)
  | line {text others : List Char} (unclosed : '\n' ∉ text) (rest : Trivia others) :
      Trivia ('-' :: '-' :: (text ++ '\n' :: others))
  | block {text others : List Char} (unclosed : ¬ ['*', '/'] <:+: text) (rest : Trivia others) :
      Trivia ('/' :: '*' :: (text ++ '*' :: '/' :: others))

/-- The text of some tokens that stands at a position. Behind each token but the last there is a
blank, and then any blanks and comments; they may also stand behind the last one. -/
inductive Printed : Nat → List Located → List Char → Prop where
  | done {place : Nat} : Printed place [] []
  | last {place : Nat} {token : Token} {text : List Char} (prints : token.Prints text) :
      Printed place [⟨token, place⟩] text
  | cons {place : Nat} {token : Token} {text gap behind : List Char} {c : Char}
      {tokens : List Located} (prints : token.Prints text) (blank : isBlank c = true)
      (trivia : Trivia gap)
      (others : Printed (place + (text ++ c :: gap).length) tokens behind) :
      Printed place (⟨token, place⟩ :: tokens) (text ++ c :: gap ++ behind)

variable {c : Char} {text rest gap behind value : List Char} {token : Token}

/-! ## Blanks and comments -/

/-- No blank or comment starts with any other character. -/
theorem skipTrivia_cons (rest : List Char) (hyphen : c ≠ '-') (slash : c ≠ '/')
    (blank : isBlank c = false) : skipTrivia .blank (c :: rest) = c :: rest := by
  generalize same : c :: rest = input
  generalize between : Gap.blank = gap
  fun_cases skipTrivia gap input with
  | case1 => cases same
  | case2 | case3 | case4 => cases between
  | case5 =>
      cases same
      exact absurd rfl hyphen
  | case6 =>
      cases same
      exact absurd rfl slash
  | case7 first more _ _ space =>
      cases same
      rw [space] at blank
      cases blank
  | case8 => rfl

theorem skipTrivia_blank_cons (rest : List Char) (blank : isBlank c = true) :
    skipTrivia .blank (c :: rest) = skipTrivia .blank rest := by
  have hyphen : c ≠ '-' := by
    intro same
    subst same
    cases blank
  have slash : c ≠ '/' := by
    intro same
    subst same
    cases blank
  rw [skipTrivia.eq_def]
  split <;> simp_all

theorem skipTrivia_blanks {blanks : List Char} (space : ∀ c ∈ blanks, isBlank c = true)
    (text : List Char) : skipTrivia .blank (blanks ++ text) = skipTrivia .blank text := by
  induction blanks with
  | nil => rfl
  | cons c rest ih =>
      rw [List.forall_mem_cons] at space
      rw [List.cons_append, skipTrivia_blank_cons _ space.1]
      exact ih space.2

/-- A comment behind two hyphens ends with the line. -/
theorem skipTrivia_line (unclosed : '\n' ∉ text) (rest : List Char) :
    skipTrivia .lineComment (text ++ '\n' :: rest) = skipTrivia .blank rest := by
  induction text with
  | nil => rfl
  | cons c text ih =>
      rw [List.mem_cons, not_or] at unclosed
      have inside : (c == '\n') = false := by simpa using Ne.symm unclosed.1
      have onward : skipTrivia .lineComment (c :: text ++ '\n' :: rest) =
          skipTrivia (if c == '\n' then .blank else .lineComment) (text ++ '\n' :: rest) := rfl
      rw [onward, inside]
      exact ih unclosed.2

/-- A block comment goes on up to a star and a slash. -/
theorem skipTrivia_block_cons (inside : ∀ more, c = '*' → rest ≠ '/' :: more) :
    skipTrivia .blockComment (c :: rest) = skipTrivia .blockComment rest := by
  rw [skipTrivia.eq_def]
  split
  case h_3 same =>
    cases same
    exact absurd rfl (inside _ rfl)
  case h_4 same =>
    cases same
    rfl
  all_goals simp_all

/-- A block comment ends with the first star and slash. -/
theorem skipTrivia_block (unclosed : ¬ ['*', '/'] <:+: text) (rest : List Char) :
    skipTrivia .blockComment (text ++ '*' :: '/' :: rest) = skipTrivia .blank rest := by
  induction text with
  | nil => rfl
  | cons c text ih =>
      rw [List.cons_append, skipTrivia_block_cons]
      · exact ih fun inside => unclosed (inside.trans (List.suffix_cons ..).isInfix)
      · rintro more rfl same
        cases text with
        | nil => cases same
        | cons d text =>
            cases same
            exact unclosed (List.prefix_append ['*', '/'] text).isInfix

/-- What stands between tokens is skipped. -/
theorem skipTrivia_append (trivia : Trivia gap) (rest : List Char) :
    skipTrivia .blank (gap ++ rest) = skipTrivia .blank rest := by
  induction trivia with
  | nil => rfl
  | blank blank _ ih => rw [List.cons_append, skipTrivia_blank_cons _ blank, ih]
  | @line text others unclosed _ ih =>
      have enter : skipTrivia .blank ('-' :: '-' :: (text ++ '\n' :: others) ++ rest) =
          skipTrivia .lineComment (text ++ '\n' :: others ++ rest) := rfl
      rw [enter, List.append_assoc, List.cons_append, skipTrivia_line unclosed, ih]
  | @block text others unclosed _ ih =>
      have enter : skipTrivia .blank ('/' :: '*' :: (text ++ '*' :: '/' :: others) ++ rest) =
          skipTrivia .blockComment (text ++ '*' :: '/' :: others ++ rest) := rfl
      rw [enter, List.append_assoc, List.cons_append, List.cons_append, skipTrivia_block unclosed,
        ih]

/-! ## Words -/

theorem isWordChar_of_isAlpha (letter : c.isAlpha = true) : Text.isWordChar c = true := by
  simp [Text.isWordChar, Text.isAlphabetic_of_isAlpha letter]

/-- A letter starts a word and nothing else. -/
theorem startsWord_of_isAlpha (letter : c.isAlpha = true) :
    c.isDigit = false ∧ (c == '\'' || c == '"') = false ∧ (c == '\x60') = false ∧
      Text.isWordStart c = true := by
  have each : ∀ code < 123, 65 ≤ code → (Char.ofNat code).isAlpha = true →
      (Char.ofNat code).isDigit = false ∧
      (Char.ofNat code == '\'' || Char.ofNat code == '"') = false ∧
      (Char.ofNat code == '\x60') = false ∧ Text.isWordStart (Char.ofNat code) = true := by
    decide
  have bounds : c.toNat < 123 ∧ 65 ≤ c.toNat := by
    rcases Bool.or_eq_true_iff.1 letter with capital | small
    · have range := of_decide_eq_true capital
      exact ⟨Nat.lt_of_le_of_lt range.2 (by decide), range.1⟩
    · have range := Bool.and_eq_true_iff.1 small
      exact ⟨Nat.lt_succ_of_le (of_decide_eq_true range.2),
        Nat.le_trans (by decide) (show 97 ≤ c.toNat from of_decide_eq_true range.1)⟩
  have own := each c.toNat bounds.1 bounds.2
  rw [Char.ofNat_toNat] at own
  exact own letter

/-- A word is read up to the first character that no word has. -/
theorem scanToken_word {word : List Char} (letter : c.isAlpha = true)
    (chars : ∀ next ∈ c :: word, Text.isWordChar next = true)
    (ends : ∀ next ∈ rest.head?, Text.isWordChar next = false) :
    scanToken (c :: word ++ rest) = .ok (wordToken (c :: word), rest) := by
  rcases startsWord_of_isAlpha letter with ⟨digit, quote, accent, start⟩
  rw [List.cons_append, scanToken, digit, quote, accent, start, ← List.cons_append,
    Text.takeWhile_append_of_head? chars ends, Text.dropWhile_append_of_head? chars ends]
  rfl

theorem isAlpha_of_isUpper_toUpper {c : Char} (capital : c.toUpper.isUpper = true) :
    c.isAlpha = true := by
  have letter : c.isUpper = true ∨ c.isLower = true := by
    unfold Char.toUpper at capital
    split at capital
    · rename_i small
      right
      exact Bool.and_eq_true_iff.2 ⟨decide_eq_true small.1, decide_eq_true small.2⟩
    · exact .inl capital
  exact Bool.or_eq_true_iff.2 letter

/-- Keywords are spelled in letters. -/
theorem Keyword.isAlpha_of_toUpper {word : Keyword}
    (spelled : (String.ofList text).toUpper = word.text) :
    text ≠ [] ∧ ∀ c ∈ text, c.isAlpha = true := by
  have present : word.text.toList.isEmpty = false := by
    cases word <;> decide +kernel
  have capitals : word.text.toList.all Char.isUpper = true := by
    cases word <;> decide +kernel
  have upper : text.map Char.toUpper = word.text.toList := by
    rw [← spelled, String.toUpper, String.toList_map, String.toList_ofList]
  constructor
  · intro empty
    subst empty
    rw [← upper] at present
    cases present
  · intro c inside
    rw [← upper, List.all_eq_true] at capitals
    exact isAlpha_of_isUpper_toUpper (capitals c.toUpper (List.mem_map_of_mem inside))

theorem wordToken_of_toUpper {word : Keyword}
    (spelled : (String.ofList text).toUpper = word.text) : wordToken text = .keyword word := by
  have found : Keyword.ofWord? (String.ofList text) = some word := by
    rw [Keyword.ofWord?, spelled]
    cases word <;> decide +kernel
  rw [wordToken, found]

/-! ## Strings -/

/-- A quote that no quote follows ends a string. -/
theorem scanString_quote {quote : Char} (ends : ∀ next ∈ rest.head?, next ≠ quote) :
    scanString quote (quote :: rest) = some ([], rest) := by
  cases rest with
  | nil => rw [scanString, if_pos (beq_self_eq_true quote)]
  | cons next rest =>
      rw [scanString, if_pos (beq_self_eq_true quote), if_neg (by simpa using ends next rfl)]

/-- A character that neither ends a string nor starts an escape stands for itself. -/
theorem scanString_cons {quote : Char} (notQuote : c ≠ quote) (notSlash : c ≠ '\\')
    (behind : scanString quote text = some (value, rest)) :
    scanString quote (c :: text) = some (c :: value, rest) := by
  cases text with
  | nil => cases behind
  | cons next text =>
      rw [scanString, if_neg (by simpa using notQuote), if_neg (by simpa using notSlash), behind]
      rfl

/-- The characters between quotes are read up to the quote that closes them. -/
theorem scanString_of_stringText {quote : Char} (mark : quote ≠ '\\')
    (inside : StringText quote value text) (ends : ∀ next ∈ rest.head?, next ≠ quote) :
    scanString quote (text ++ quote :: rest) = some (value, rest) := by
  induction inside with
  | nil => exact scanString_quote ends
  | plain notQuote notSlash _ ih => exact scanString_cons notQuote notSlash ih
  | twice _ ih =>
      rw [List.cons_append, List.cons_append, scanString, if_pos (beq_self_eq_true quote),
        if_pos (beq_self_eq_true quote), ih]
      rfl
  | escaped c _ ih =>
      rw [List.cons_append, List.cons_append, scanString, if_neg (by simpa using Ne.symm mark),
        if_pos (by decide), ih]
      rfl

/-! ## Numbers -/

/-- A number without a point ends before the first character that is neither a digit nor a point,
and is refused where it has no place in a word. -/
theorem scanNumber_whole (digits : ∀ c ∈ text, c.isDigit = true)
    (ends : ∀ next ∈ rest.head?, next.isDigit = false ∧ next ≠ '.') :
    scanNumber (text ++ rest) =
      if digitsValue text < 0x8000000000000000 then
        .ok (.integer (Int64.ofNat (digitsValue text)), rest)
      else .error ⟨.invalidInteger, text.length⟩ := by
  have stop : ∀ next ∈ rest.head?, next.isDigit = false := fun next own => (ends next own).1
  rw [scanNumber, Text.takeWhile_append_of_head? digits stop,
    Text.dropWhile_append_of_head? digits stop]
  dsimp only
  split
  · exact absurd rfl (ends '.' rfl).2
  · rfl

/-- A number with a point goes on with the digits behind it. -/
theorem scanNumber_fraction {whole fraction : List Char} (more : fraction ≠ [])
    (digits : ∀ c ∈ whole ++ fraction, c.isDigit = true)
    (ends : ∀ next ∈ rest.head?, next.isDigit = false) :
    scanNumber (whole ++ '.' :: fraction ++ rest) =
      .ok (.float (.ofDecimal false (digitsValue (whole ++ fraction))
        (-(fraction.length : Int))), rest) := by
  rw [List.forall_mem_append] at digits
  rcases List.exists_cons_of_ne_nil more with ⟨first, others, rfl⟩
  have point : ∀ next ∈ ('.' :: (first :: others ++ rest)).head?, next.isDigit = false := by
    rintro next ⟨⟩
    rfl
  have behind := List.forall_mem_cons.1 digits.2
  rw [List.append_assoc, List.cons_append, scanNumber,
    Text.takeWhile_append_of_head? digits.1 point, Text.dropWhile_append_of_head? digits.1 point,
    List.cons_append]
  refine (if_pos behind.1).trans ?_
  rw [Text.takeWhile_append_of_head? behind.2 ends, Text.dropWhile_append_of_head? behind.2 ends]

/-! ## Printed tokens -/

/-- Only `=` and `>` can go on with a sign. -/
theorem scanSymbol_text (sign : Symbol) (ends : ∀ next ∈ rest.head?, next ≠ '=' ∧ next ≠ '>') :
    scanSymbol (sign.text.toList ++ rest) = some (.symbol sign, rest) := by
  rcases rest with _ | ⟨next, rest⟩
  · cases sign <;> rfl
  · have other := ends next rfl
    cases sign
    case equal | less | greater =>
      rw [scanSymbol.eq_def]
      split <;> simp_all [Symbol.text]
    all_goals rfl

/-- A sign is read where no other token starts. -/
theorem scanToken_of_scanSymbol {found : Token × List Char}
    (alone : (c.isDigit || (c == '\'' || c == '"') || c == '\x60' || Text.isWordStart c) = false)
    (symbol : scanSymbol (c :: rest) = some found) : scanToken (c :: rest) = .ok found := by
  simp only [Bool.or_eq_false_iff] at alone
  rcases alone with ⟨⟨⟨digit, quote⟩, accent⟩, word⟩
  simp [scanToken, digit, quote, accent, word, symbol]

theorem scanToken_symbol {sign : Symbol} {spelling : String}
    (spelled : spelling ∈ sign.spellings) (ends : ∀ next ∈ rest.head?, isBlank next = true) :
    scanToken (spelling.toList ++ rest) = .ok (.symbol sign, rest) := by
  have alone := scanSymbol_text sign fun next own => by
    have blank := ends next own
    constructor <;> (rintro rfl; cases blank)
  have first : scanToken (sign.text.toList ++ rest) = .ok (.symbol sign, rest) := by
    cases sign <;> exact scanToken_of_scanSymbol (by decide) alone
  cases sign
  case equal | notEqual =>
    rcases List.mem_cons.1 spelled with rfl | second
    · exact first
    · cases List.mem_singleton.1 second
      rfl
  all_goals
    cases List.mem_singleton.1 spelled
    exact first

theorem scanToken_keyword {word : Keyword} (spelled : (String.ofList text).toUpper = word.text)
    (ends : ∀ next ∈ rest.head?, isBlank next = true) :
    scanToken (text ++ rest) = .ok (.keyword word, rest) := by
  rcases Keyword.isAlpha_of_toUpper spelled with ⟨some, letters⟩
  rcases List.exists_cons_of_ne_nil some with ⟨c, more, rfl⟩
  rw [← wordToken_of_toUpper spelled]
  exact scanToken_word (letters c List.mem_cons_self)
    (fun next inside => isWordChar_of_isAlpha (letters next inside))
    fun next own => Text.isWordChar_eq_false_of_isBlank (ends next own)

/-- A name is read up to the grave accent that closes it. -/
theorem scanToken_identifier {name : List Char} (plain : '\x60' ∉ name) (rest : List Char) :
    scanToken ('\x60' :: (name ++ ['\x60']) ++ rest) =
      .ok (.identifier (String.ofList name), rest) := by
  have inside : ∀ next ∈ name, (next != '\x60') = true := by
    intro next member
    rw [bne_iff_ne]
    rintro rfl
    exact plain member
  have stop : ∀ next ∈ ('\x60' :: rest).head?, (next != '\x60') = false := by
    rintro next ⟨⟩
    rfl
  rw [List.cons_append, List.append_assoc, List.singleton_append, scanToken,
    if_neg (by decide), if_neg (by decide), if_pos (by decide),
    Text.takeWhile_append_of_head? inside stop, Text.dropWhile_append_of_head? inside stop]

theorem scanToken_string {quote : Char} (mark : quote = '\'' ∨ quote = '"')
    (inside : StringText quote value text) (ends : ∀ next ∈ rest.head?, isBlank next = true) :
    scanToken (quote :: (text ++ [quote]) ++ rest) = .ok (.string (String.ofList value), rest) := by
  have close : scanString quote (text ++ quote :: rest) = some (value, rest) := by
    refine scanString_of_stringText ?_ inside fun next own => ?_
    · rcases mark with rfl | rfl <;> decide
    · have blank := ends next own
      rintro rfl
      rcases mark with rfl | rfl <;> cases blank
  rw [List.cons_append, List.append_assoc, List.singleton_append]
  rcases mark with rfl | rfl
  · rw [scanToken, if_neg (by decide), if_pos (by decide), close]
  · rw [scanToken, if_neg (by decide), if_pos (by decide), close]

theorem isWordChar_of_isDigit (digit : c.isDigit = true) : Text.isWordChar c = true := by
  simp [Text.isWordChar, Text.isNumeric_of_isDigit digit]

theorem isBlank_eq_false_of_isDigit (digit : c.isDigit = true) : isBlank c = false :=
  Text.isBlank_eq_false_of_isWordChar (isWordChar_of_isDigit digit)

theorem isDigit_eq_false_of_isBlank (blank : isBlank c = true) : c.isDigit = false := by
  by_contra digit
  rw [isBlank_eq_false_of_isDigit (by simpa using digit)] at blank
  cases blank

/-- A whole number in front of anything that is neither a digit nor a point. -/
theorem scanToken_integer {value : Int64} (natural : 0 ≤ value.toInt)
    (ends : ∀ next ∈ rest.head?, next.isDigit = false ∧ next ≠ '.') :
    scanToken (Nat.toDigits 10 value.toInt.toNat ++ rest) = .ok (.integer value, rest) := by
  have own : Int64.ofNat value.toInt.toNat = value := by
    rw [← Int64.ofInt_eq_ofNat, Int.toNat_of_nonneg natural, Int64.ofInt_toInt]
  have small : value.toInt.toNat < 0x8000000000000000 := by
    have := Int64.toInt_lt value
    omega
  generalize value.toInt.toNat = n at own small ⊢
  have digits : ∀ c ∈ Nat.toDigits 10 n, c.isDigit = true := fun c inside =>
    Nat.isDigit_of_mem_toDigits (by decide) (by decide) inside
  have size : digitsValue (Nat.toDigits 10 n) = n := Nat.ofDigitChars_ten_toDigits
  have scanned := scanNumber_whole digits ends
  rw [size, own, if_pos small] at scanned
  cases spelled : Nat.toDigits 10 n with
  | nil => exact absurd spelled Nat.toDigits_ne_nil
  | cons first more =>
      rw [spelled] at digits scanned
      rw [List.cons_append, scanToken, if_pos (digits first List.mem_cons_self)]
      exact scanned

/-- A printed token is read up to a blank. -/
theorem scanToken_of_prints (prints : token.Prints text)
    (ends : ∀ next ∈ rest.head?, isBlank next = true) :
    scanToken (text ++ rest) = .ok (token, rest) := by
  cases prints with
  | keyword spelled => exact scanToken_keyword spelled ends
  | identifier plain => exact scanToken_identifier plain rest
  | string mark inside => exact scanToken_string mark inside ends
  | integer natural =>
      refine scanToken_integer natural fun next own => ?_
      have blank := ends next own
      refine ⟨isDigit_eq_false_of_isBlank blank, ?_⟩
      rintro rfl
      cases blank
  | float some more digits =>
      have scanned := scanNumber_fraction more digits fun next own =>
        isDigit_eq_false_of_isBlank (ends next own)
      rcases List.exists_cons_of_ne_nil some with ⟨first, others, rfl⟩
      rw [List.cons_append, List.cons_append, scanToken, if_pos (digits first List.mem_cons_self)]
      exact scanned
  | placeholder => rfl
  | symbol spelled => exact scanToken_symbol spelled ends

theorem Token.Prints.ne_nil (prints : token.Prints text) : text ≠ [] := by
  rintro rfl
  have scanned : scanToken [] = .ok (token, []) := scanToken_of_prints prints nofun
  cases scanned
  nomatch prints

/-- No blank and no comment starts with a character of a word. -/
theorem skipTrivia_isWordChar (word : Text.isWordChar c = true) (rest : List Char) :
    skipTrivia .blank (c :: rest) = c :: rest := by
  refine skipTrivia_cons rest ?_ ?_ (Text.isBlank_eq_false_of_isWordChar word)
  · rintro rfl
    cases word
  · rintro rfl
    cases word

/-- One hyphen starts no comment. -/
theorem skipTrivia_hyphen (alone : ∀ next ∈ rest.head?, next ≠ '-') :
    skipTrivia .blank ('-' :: rest) = '-' :: rest := by
  rcases rest with _ | ⟨next, rest⟩
  · rfl
  · have other := alone next rfl
    rw [skipTrivia.eq_def]
    split
    case h_7 same =>
      cases same
      rfl
    all_goals simp_all

/-- No blank and no comment starts with a printed token. -/
theorem skipTrivia_of_prints (prints : token.Prints text)
    (ends : ∀ next ∈ rest.head?, isBlank next = true) :
    skipTrivia .blank (text ++ rest) = text ++ rest := by
  cases prints with
  | keyword spelled =>
      rcases Keyword.isAlpha_of_toUpper spelled with ⟨some, letters⟩
      rcases List.exists_cons_of_ne_nil some with ⟨c, more, rfl⟩
      exact skipTrivia_isWordChar (isWordChar_of_isAlpha (letters c List.mem_cons_self)) _
  | identifier plain => exact skipTrivia_cons _ (by decide) (by decide) (by decide)
  | string mark inside =>
      rcases mark with rfl | rfl <;>
        exact skipTrivia_cons _ (by decide) (by decide) (by decide)
  | @integer value natural =>
      cases spelled : Nat.toDigits 10 value.toInt.toNat with
      | nil => exact absurd spelled Nat.toDigits_ne_nil
      | cons first more =>
          have inside : first ∈ Nat.toDigits 10 value.toInt.toNat := spelled ▸ List.mem_cons_self
          have digit := Nat.isDigit_of_mem_toDigits (by decide) (by decide) inside
          exact skipTrivia_isWordChar (isWordChar_of_isDigit digit) _
  | float some more digits =>
      rcases List.exists_cons_of_ne_nil some with ⟨first, others, rfl⟩
      exact skipTrivia_isWordChar (isWordChar_of_isDigit (digits first List.mem_cons_self)) _
  | placeholder => rfl
  | @symbol sign spelling spelled =>
      cases sign
      case minus =>
        cases List.mem_singleton.1 spelled
        refine skipTrivia_hyphen fun next own => ?_
        have blank := ends next own
        rintro rfl
        cases blank
      case equal | notEqual =>
        rcases List.mem_cons.1 spelled with rfl | second
        · rfl
        · cases List.mem_singleton.1 second
          rfl
      all_goals
        cases List.mem_singleton.1 spelled
        rfl

/-! ## Whole texts -/

/-- Before a token, only what no token has is skipped. -/
theorem Cursor.skip_eq (skipped : skipTrivia .blank (gap ++ behind) = behind) (place : Nat) :
    Cursor.skip ⟨gap ++ behind, place⟩ = ⟨behind, place + gap.length⟩ := by
  rw [Cursor.skip, skipped, Cursor.advance, List.length_append, Nat.add_sub_cancel]

/-- The tokens of a text are the one at its front and those behind it. -/
theorem tokenizeFrom_append (some : text ≠ [])
    (scanned : scanToken (text ++ rest) = .ok (token, rest)) (place : Nat) :
    tokenizeFrom ⟨text ++ rest, place⟩ =
      (⟨token, place⟩ :: ·) <$> tokenizeFrom (Cursor.skip ⟨rest, place + text.length⟩) := by
  rcases List.exists_cons_of_ne_nil some with ⟨c, more, rfl⟩
  rw [tokenizeFrom_cons (List.cons_append ..)]
  dsimp only
  rw [scanned]
  dsimp only
  rw [Cursor.advance, List.length_append, Nat.add_sub_cancel]

variable {place : Nat} {tokens : List Located}

/-- No blank and no comment starts with printed tokens. -/
theorem skipTrivia_of_printed (printed : Printed place tokens text) :
    skipTrivia .blank text = text := by
  cases printed with
  | done => rfl
  | last prints =>
      have own : skipTrivia .blank (text ++ []) = text ++ [] := skipTrivia_of_prints prints nofun
      rwa [List.append_nil] at own
  | cons prints blank trivia others =>
      rw [List.append_assoc]
      refine skipTrivia_of_prints prints ?_
      rintro next ⟨⟩
      exact blank

/-- Printed tokens are read from where they stand up to the end of the input. -/
theorem tokenizeFrom_printed (printed : Printed place tokens text) :
    tokenizeFrom ⟨text, place⟩ = .ok (tokens ++ [⟨.endOfInput, place + text.length⟩]) := by
  induction printed with
  | done => exact tokenizeFrom_nil rfl
  | @last place token text prints =>
      have scanned : scanToken (text ++ []) = .ok (token, []) := scanToken_of_prints prints nofun
      have own := tokenizeFrom_append prints.ne_nil scanned place
      rw [List.append_nil] at own
      rw [own, tokenizeFrom_nil rfl]
      rfl
  | @cons place token text gap behind c tokens prints blank trivia others ih =>
      have ends : ∀ next ∈ (c :: gap ++ behind).head?, isBlank next = true := by
        rintro next ⟨⟩
        exact blank
      have skipped : skipTrivia .blank (c :: gap ++ behind) = behind := by
        rw [skipTrivia_append (.blank blank trivia), skipTrivia_of_printed others]
      have width : place + (text ++ c :: gap).length + behind.length =
          place + (text ++ (c :: gap ++ behind)).length := by
        simp only [List.length_append]
        omega
      rw [List.append_assoc, tokenizeFrom_append prints.ne_nil (scanToken_of_prints prints ends),
        Cursor.skip_eq skipped, Nat.add_assoc, ← List.length_append, ih, width]
      rfl

/-- The tokens of a text are those behind what is skipped at its front. -/
theorem tokenize_eq {lead : List Char} (skipped : skipTrivia .blank (lead ++ text) = text)
    (offset : Nat) :
    tokenize (String.ofList (lead ++ text)) offset = tokenizeFrom ⟨text, offset + lead.length⟩ := by
  rw [tokenize, Cursor.start, String.toList_ofList, Cursor.skip_eq skipped]

/-- Tokens are read back from every text that they are printed as, wherever it starts: each of them
with the position of its first character, and the end of the input behind them. -/
theorem tokenize_printed {lead : List Char} {offset : Nat} (trivia : Trivia lead)
    (printed : Printed (offset + lead.length) tokens text) :
    tokenize (String.ofList (lead ++ text)) offset =
      .ok (tokens ++ [⟨.endOfInput, offset + (lead ++ text).length⟩]) := by
  have skipped : skipTrivia .blank (lead ++ text) = text := by
    rw [skipTrivia_append trivia, skipTrivia_of_printed printed]
  rw [tokenize_eq skipped, tokenizeFrom_printed printed, List.length_append, Nat.add_assoc]

/-- Comments, a keyword in letters of both cases, a quote that is written twice, and the other
spelling of a sign. -/
theorem tokenize_printed_mixed :
    tokenize "/*1*/sElEcT\t--2\n'it''s' <>" 7 =
      .ok [⟨.keyword .select, 12⟩, ⟨.string "it's", 23⟩, ⟨.symbol .notEqual, 31⟩,
        ⟨.endOfInput, 33⟩] := by
  have lead : Trivia ['/', '*', '1', '*', '/'] := @Trivia.block ['1'] _ (by decide) .nil
  have gap : Trivia ['-', '-', '2', '\n'] := @Trivia.line ['2'] _ (by decide) .nil
  have word : (Token.keyword .select).Prints ['s', 'E', 'l', 'E', 'c', 'T'] :=
    .keyword (by decide +kernel)
  have name : (Token.string (String.ofList ['i', 't', '\'', 's'])).Prints
      ['\'', 'i', 't', '\'', '\'', 's', '\''] :=
    @Token.Prints.string '\'' _ ['i', 't', '\'', '\'', 's'] (.inl rfl)
      (.plain (by decide) (by decide) (.plain (by decide) (by decide)
        (.twice (.plain (by decide) (by decide) .nil))))
  have sign : (Token.symbol .notEqual).Prints "<>".toList := .symbol (by decide)
  have printed : Printed (7 + ['/', '*', '1', '*', '/'].length) _ _ :=
    .cons (c := '\t') word rfl gap (.cons (c := ' ') name rfl .nil (.last sign))
  exact (congrArg (tokenize · 7) (by decide +kernel)).trans
    ((tokenize_printed lead printed).trans (congrArg Except.ok (by decide +kernel)))

end RecordQuery.Sql
