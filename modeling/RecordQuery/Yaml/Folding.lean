import RecordQuery.Yaml.Property

/-!
# Scalars that fold lines

A plain or quoted scalar may go on over several lines. One line end between two words counts as a
space, and of more line ends all but the first are kept. Blanks around line ends do not count.
-/

namespace RecordQuery.Yaml

/-! ## Gaps -/

/-- What stands between two words of a scalar: blanks, or the ends of lines. The first of them is
left out where it is escaped. -/
inductive Gap where
  | blanks (text : List Char)
  | lines (first : Option Char) (more : List Char)

namespace Gap

/-- The gap inside a word. -/
def none : Gap := .blanks []

def hasLines : Gap → Bool
  | .blanks _ => false
  | .lines _ _ => true

/-- Whether a word ends in front of the gap. -/
def isSome : Gap → Bool
  | .blanks text => !text.isEmpty
  | .lines _ _ => true

/-- The gap with one more blank or line end. -/
def add (gap : Gap) (letter : Letter) : Gap :=
  match gap, letter.isBreak with
  | .blanks _, true => .lines (some letter.char) []
  | .blanks text, false => .blanks (text ++ [letter.char])
  | .lines first more, true => .lines first (more ++ [letter.char])
  | .lines first more, false => .lines first more

/-- What a gap counts as. -/
def text : Gap → List Char
  | .blanks text => text
  | .lines (some '\n') [] => [' ']
  | .lines (some '\n') more => more
  | .lines first more => first.toList ++ more

end Gap

/-! ## Plain scalars -/

/-- The signs that end a plain scalar in brackets and braces. -/
def flowSigns : List Char := [',', '[', ']', '\x7b', '\x7d']

/-- A plain scalar, whether lines end behind it, and what follows. -/
structure PlainText where
  text : List Char
  endsLine : Bool
  behind : List Letter

/-- The rest of a plain scalar behind a gap. Its lines start at the column `indent` or further
right. In brackets a colon right before another sign is malformed. -/
def readPlain (inFlow : Bool) (indent : Nat) (gap : Gap) : List Letter → Option PlainText
  | [] => some ⟨[], gap.hasLines, []⟩
  | letter :: rest =>
      let isOut := gap.hasLines && letter.column < indent
      let ends :=
        gap.hasLines && atDocumentMark (letter :: rest) || (!inFlow && isOut) ||
          (gap.isSome && letter.char == '#') || (letter.char == ':' && atBlank rest) ||
          (inFlow && flowSigns.contains letter.char)
      if letter.isBlank then
        if isOut && letter.char == '\t' then none
        else readPlain inFlow indent (gap.add letter) rest
      else if letter.isBreak then readPlain inFlow indent (gap.add letter) rest
      else if inFlow && letter.char == ':' && startsWithAny ('?' :: flowSigns) rest then none
      else if ends then some ⟨[], gap.hasLines, letter :: rest⟩
      else do
        let found ← readPlain inFlow indent .none rest
        return { found with text := gap.text ++ letter.char :: found.text }

/-! ## Quoted scalars -/

/-- The character of an escape of two characters. -/
def escaped? : Char → Option Char
  | '0' => some '\x00'
  | 'a' => some '\x07'
  | 'b' => some '\x08'
  | 't' | '\t' => some '\t'
  | 'n' => some '\n'
  | 'v' => some '\x0b'
  | 'f' => some '\x0c'
  | 'r' => some '\r'
  | 'e' => some '\x1b'
  | ' ' => some ' '
  | '"' => some '"'
  | '/' => some '/'
  | '\\' => some '\\'
  | 'N' => some '\u0085'
  | '_' => some '\u00a0'
  | 'L' => some '\u2028'
  | 'P' => some '\u2029'
  | _ => none

/-- How many hexadecimal digits follow the mark of an escape. -/
def escapeDigits? : Char → Option Nat
  | 'x' => some 2
  | 'u' => some 4
  | 'U' => some 8
  | _ => none

/-- The character of a code point in hexadecimal digits. -/
def codePoint? (count : Nat) (digits : List Letter) : Option Char := do
  let values ← digits.mapM (digit? 16 ·.char)
  let code := values.foldl (fun code digit => code * 16 + digit) 0
  if values.length == count && Nat.isValidChar code then some (Char.ofNat code) else none

/-- The rest of a scalar in single quotes behind a gap. A quote inside is written twice. -/
def readSingleQuoted (gap : Gap) : List Letter → Option (List Char × List Letter)
  | [] => none
  | letter :: rest =>
      let found (result : Option (List Char × List Letter)) (c : Char) :=
        result.map fun (text, behind) => (gap.text ++ c :: text, behind)
      if atDocumentMark (letter :: rest) then none
      else if letter.isBlank || letter.isBreak then readSingleQuoted (gap.add letter) rest
      else if letter.char != '\'' then found (readSingleQuoted .none rest) letter.char
      else
        match rest with
        | [] => some (gap.text, [])
        | next :: behind =>
            if next.char == '\'' then found (readSingleQuoted .none behind) '\''
            else some (gap.text, next :: behind)

/-- The rest of a scalar in double quotes behind a gap. -/
def readDoubleQuoted (gap : Gap) (text : List Letter) : Option (List Char × List Letter) :=
  let found (result : Option (List Char × List Letter)) (c : Char) :=
    result.map fun (text, behind) => (gap.text ++ c :: text, behind)
  match text with
  | [] => none
  | letter :: rest =>
      if atDocumentMark (letter :: rest) then none
      else if letter.isBlank || letter.isBreak then readDoubleQuoted (gap.add letter) rest
      else if letter.char == '"' then some (gap.text, rest)
      else if letter.char != '\\' then found (readDoubleQuoted .none rest) letter.char
      else
        match rest with
        | [] => none
        | mark :: behind =>
            if mark.isBreak then
              (readDoubleQuoted (.lines none []) behind).map fun (text, behind) =>
                (gap.text ++ text, behind)
            else
              match escaped? mark.char, escapeDigits? mark.char with
              | some c, _ => found (readDoubleQuoted .none behind) c
              | none, some count => do
                  let c ← codePoint? count (behind.take count)
                  found (readDoubleQuoted .none (behind.drop count)) c
              | none, none => none
termination_by text.length
decreasing_by
  all_goals simp only [List.length_drop, List.length_cons]; omega

end RecordQuery.Yaml
