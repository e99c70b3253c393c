import RecordQuery.QueryError
import RecordQuery.Text.Taken

/-!
# From text to tokens

Blanks and comments separate tokens. Positions count characters from the start of the statement,
also where only a part of it is scanned.
-/

namespace RecordQuery.Sql

open Text (Taken)

/-! ## Blanks and comments -/

/-- Where in the space between tokens a character stands. -/
inductive Gap where
  | blank
  | lineComment
  | blockComment

/-- Skips blanks, comments from two hyphens to the end of the line, and block comments; a block
comment that is never closed runs to the end. -/
def skipTrivia : Gap → List Char → List Char
  | _, [] => []
  | .lineComment, c :: rest => skipTrivia (if c == '\n' then .blank else .lineComment) rest
  | .blockComment, '*' :: '/' :: rest => skipTrivia .blank rest
  | .blockComment, _ :: rest => skipTrivia .blockComment rest
  | .blank, '-' :: '-' :: rest => skipTrivia .lineComment rest
  | .blank, '/' :: '*' :: rest => skipTrivia .blockComment rest
  | .blank, c :: rest => if Text.isBlank c then skipTrivia .blank rest else c :: rest

theorem length_skipTrivia_le (gap : Gap) (input : List Char) :
    (skipTrivia gap input).length ≤ input.length := by
  fun_induction skipTrivia gap input <;> simp_all <;> omega

/-! ## Tokens -/

/-- A fault in a token, and how many of its characters were read before the fault. -/
structure ScanFault where
  fault : SyntaxFault
  read : Nat

/-- The character that a backslash and a letter stand for inside a string. -/
def unescape : Char → Char
  | 'n' => '\n'
  | 't' => '\t'
  | 'r' => '\r'
  | c => c

/-- The rest of a string behind its opening quote, and what follows the closing one. A quote
inside is written twice or after a backslash. -/
def scanString (quote : Char) : List Char → Option (List Char × List Char)
  | [] => none
  | [c] => if c == quote then some ([], []) else none
  | c :: next :: rest =>
      if c == quote then
        if next == quote then
          (scanString quote rest).map fun (text, after) => (quote :: text, after)
        else some ([], next :: rest)
      else if c == '\\' then
        (scanString quote rest).map fun (text, after) => (unescape next :: text, after)
      else (scanString quote (next :: rest)).map fun (text, after) => (c :: text, after)

theorem length_lt_of_scanString {quote : Char} {input text after : List Char}
    (found : scanString quote input = some (text, after)) : after.length < input.length := by
  fun_induction scanString quote input generalizing text after with
  | case1 => cases found
  | case2 => cases found; simp
  | case3 => cases found
  | case5 => cases found; simp
  | case4 | case6 | case7 =>
      rename_i ih
      obtain ⟨pair, inner, same⟩ := Option.map_eq_some_iff.1 found
      have := ih inner
      simp only [Prod.mk.injEq] at same
      simp only [List.length_cons, ← same.2] at *
      omega

/-- The value of a run of decimal digits. -/
def digitsValue (digits : List Char) : Nat := Nat.ofDigitChars 10 digits 0

/-- A number that starts with a digit. A point belongs to it only when a digit follows. -/
def scanNumber (input : List Char) : Except ScanFault (Token × List Char) :=
  let digits := input.takeWhile Char.isDigit
  let rest := input.dropWhile Char.isDigit
  let whole : Except ScanFault (Token × List Char) :=
    if digitsValue digits < 0x8000000000000000 then
      .ok (.integer (Int64.ofNat (digitsValue digits)), rest)
    else .error ⟨.invalidInteger, digits.length⟩
  match rest with
  | '.' :: first :: more =>
      if first.isDigit then
        let fraction := first :: more.takeWhile Char.isDigit
        let value :=
          ExtDouble.ofDecimal false (digitsValue (digits ++ fraction)) (-(fraction.length : Int))
        .ok (.float value, more.dropWhile Char.isDigit)
      else whole
  | _ => whole

/-- An operator or a punctuation mark. -/
def scanSymbol : List Char → Option (Token × List Char)
  | '?' :: rest => some (.placeholder, rest)
  | '=' :: '=' :: rest => some (.symbol .equal, rest)
  | '=' :: rest => some (.symbol .equal, rest)
  | '!' :: '=' :: rest => some (.symbol .notEqual, rest)
  | '<' :: '=' :: rest => some (.symbol .lessEqual, rest)
  | '<' :: '>' :: rest => some (.symbol .notEqual, rest)
  | '<' :: rest => some (.symbol .less, rest)
  | '>' :: '=' :: rest => some (.symbol .greaterEqual, rest)
  | '>' :: rest => some (.symbol .greater, rest)
  | '-' :: rest => some (.symbol .minus, rest)
  | '*' :: rest => some (.symbol .star, rest)
  | ',' :: rest => some (.symbol .comma, rest)
  | '.' :: rest => some (.symbol .dot, rest)
  | '(' :: rest => some (.symbol .leftParen, rest)
  | ')' :: rest => some (.symbol .rightParen, rest)
  | ';' :: rest => some (.symbol .semicolon, rest)
  | _ => none

/-- The token of a bare word. -/
def wordToken (word : List Char) : Token :=
  let word := String.ofList word
  match Keyword.ofWord? word with
  | some keyword => .keyword keyword
  | none => .identifier word

/-- The token at the front of an input that starts with neither a blank nor a comment. -/
def scanToken (input : List Char) : Except ScanFault (Token × List Char) :=
  match input with
  | [] => .ok (.endOfInput, [])
  | c :: rest =>
      if c.isDigit then scanNumber input
      else if c == '\'' || c == '"' then
        match scanString c rest with
        | some (text, after) => .ok (.string (String.ofList text), after)
        | none => .error ⟨.unterminatedString, input.length⟩
      else if c == '\x60' then
        match rest.dropWhile (· != '\x60') with
        | [] => .error ⟨.unterminatedIdentifier, input.length⟩
        | _ :: after => .ok (.identifier (String.ofList (rest.takeWhile (· != '\x60'))), after)
      else if Text.isWordStart c then
        .ok (wordToken (input.takeWhile Text.isWordChar), input.dropWhile Text.isWordChar)
      else
        match scanSymbol input with
        | some found => .ok found
        | none => .error ⟨.unexpectedCharacter, 0⟩

theorem length_lt_of_scanSymbol {input rest : List Char} {token : Token}
    (found : scanSymbol input = some (token, rest)) : rest.length < input.length := by
  unfold scanSymbol at found
  split at found <;> grind

theorem length_lt_of_scanNumber {c : Char} {input rest : List Char} {token : Token}
    (digit : c.isDigit) (found : scanNumber (c :: input) = .ok (token, rest)) :
    rest.length < (c :: input).length := by
  have behind : ((c :: input).dropWhile Char.isDigit).length < (c :: input).length := by
    rw [List.dropWhile_cons_of_pos digit]
    exact Nat.lt_succ_of_le (Text.length_dropWhile_le _ _)
  unfold scanNumber at found
  dsimp only at found
  split at found
  · rename_i first more dropped
    rw [dropped] at behind
    split at found
    · cases found
      have := Text.length_dropWhile_le Char.isDigit more
      simp only [List.length_cons] at *
      omega
    · split at found <;> cases found
      simpa [dropped] using behind
  · split at found <;> cases found
    exact behind

/-- A token other than the end of the input has at least one character. -/
theorem length_lt_of_scanToken {c : Char} {input rest : List Char} {token : Token}
    (found : scanToken (c :: input) = .ok (token, rest)) :
    rest.length < (c :: input).length := by
  unfold scanToken at found
  dsimp only at found
  split at found
  · rename_i digit
    exact length_lt_of_scanNumber digit found
  split at found
  · split at found <;> cases found
    rename_i string
    exact Nat.lt_succ_of_lt (length_lt_of_scanString string)
  split at found
  · split at found <;> cases found
    rename_i dropped
    exact Nat.lt_succ_of_lt (Text.length_lt_of_dropWhile_eq_cons dropped)
  split at found
  · cases found
    rename_i start
    rw [List.dropWhile_cons_of_pos (Text.isWordChar_of_isWordStart start)]
    exact Nat.lt_succ_of_le (Text.length_dropWhile_le _ _)
  · split at found <;> cases found
    rename_i symbol
    exact length_lt_of_scanSymbol symbol

/-! ## Cursors -/

/-- Unread text and the position of its first character. -/
structure Cursor where
  rest : List Char
  position : Nat

namespace Cursor

/-- The start of a text whose first character has the position `offset`. -/
def start (text : String) (offset : Nat) : Cursor := ⟨text.toList, offset⟩

/-- The cursor in front of what is left of its text. -/
def advance (cursor : Cursor) (rest : List Char) : Cursor :=
  ⟨rest, cursor.position + (cursor.rest.length - rest.length)⟩

/-- The cursor in front of the next token. -/
def skip (cursor : Cursor) : Cursor := cursor.advance (skipTrivia .blank cursor.rest)

/-- The part of the text that shows a fault: what was read and one character more, at most sixteen
characters. -/
def fragment (cursor : Cursor) (read : Nat) : String :=
  String.ofList (cursor.rest.take (min (read + 1) 16))

/-- The next token and the cursor behind it. -/
def next (cursor : Cursor) : QueryResult (Token × Cursor) :=
  let here := cursor.skip
  match scanToken here.rest with
  | .ok (token, rest) => .ok (token, here.advance rest)
  | .error fault => .error (.locatedAt fault.fault (here.fragment fault.read) here.position)

end Cursor

/-- The tokens of a text from a cursor in front of a token on; the last is the end of the input. -/
def tokenizeFrom (here : Cursor) : QueryResult (List Located) :=
  match start : here.rest with
  | [] => .ok [⟨.endOfInput, here.position⟩]
  | _ :: _ =>
      match found : scanToken here.rest with
      | .error fault => .error (.locatedAt fault.fault (here.fragment fault.read) here.position)
      | .ok (token, rest) => do
          have : rest.length < here.rest.length := by
            rw [start] at found ⊢
            exact length_lt_of_scanToken found
          have : (here.advance rest).skip.rest.length ≤ rest.length :=
            length_skipTrivia_le .blank rest
          let tokens ← tokenizeFrom (here.advance rest).skip
          return ⟨token, here.position⟩ :: tokens
termination_by here.rest.length

/-- The tokens of a text whose first character has the position `offset`. -/
def tokenize (text : String) (offset : Nat) : QueryResult (List Located) :=
  tokenizeFrom (Cursor.start text offset).skip

end RecordQuery.Sql
