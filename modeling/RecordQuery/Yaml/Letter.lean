/-!
# Letters of a document

A document is read as letters, which are characters that know their place. The different ends of
lines are told apart no longer, except for the two separators that stay as they are in text.
-/

namespace RecordQuery.Yaml

/-- A character of a document, and its place: the bytes in front, the line, and the characters in
front of it on its line. -/
structure Letter where
  char : Char
  offset : Nat
  line : Nat
  column : Nat

/-- Whether a character may occur in a document. -/
def isAllowed (c : Char) : Bool :=
  let code := c.toNat
  code == 0x09 || code == 0x0a || code == 0x0d || (0x20 ≤ code && code ≤ 0x7e) || code == 0x85 ||
    (0xa0 ≤ code && code != 0xfffe && code != 0xffff)

/-- A character that separates lines or paragraphs and stays itself. -/
def isSeparator (c : Char) : Bool := c == '\u2028' || c == '\u2029'

/-- The letters of a text from a place on. A carriage return and a line feed end one line. -/
def lettersFrom (offset line column : Nat) : List Char → List Letter
  | [] => []
  | '\r' :: '\n' :: rest => ⟨'\n', offset, line, column⟩ :: lettersFrom (offset + 2) (line + 1) 0 rest
  | c :: rest =>
      let behind := offset + c.utf8Size
      if c == '\r' || c == '\n' || c == '\x85' then
        ⟨'\n', offset, line, column⟩ :: lettersFrom behind (line + 1) 0 rest
      else if isSeparator c then
        ⟨c, offset, line, column⟩ :: lettersFrom behind (line + 1) 0 rest
      else ⟨c, offset, line, column⟩ :: lettersFrom behind line (column + 1) rest

/-- The letters of a text. -/
def letters (text : List Char) : List Letter := lettersFrom 0 0 0 text

namespace Letter

def isBlank (letter : Letter) : Bool := letter.char == ' ' || letter.char == '\t'

/-- Whether a letter ends its line. -/
def isBreak (letter : Letter) : Bool := letter.char == '\n' || isSeparator letter.char

/-- A letter of a name. -/
def isName (letter : Letter) : Bool :=
  letter.char.isAlphanum || letter.char == '_' || letter.char == '-'

end Letter

/-! ## What stands in front -/

/-- Whether a character stands in front. -/
def startsWith (c : Char) (text : List Letter) : Bool :=
  (text.head?.map (·.char)) == some c

/-- Whether one of some characters stands in front. -/
def startsWithAny (characters : List Char) (text : List Letter) : Bool :=
  text.head?.any (characters.contains ·.char)

/-- Whether a line ends in front, or the text. -/
def atLineEnd (text : List Letter) : Bool :=
  text.head?.all (·.isBreak)

/-- Whether a blank or the end of a line or text stands in front. -/
def atBlank (text : List Letter) : Bool :=
  text.head?.all fun letter => letter.isBlank || letter.isBreak

/-- Whether a line starts with three of a character that stand alone. -/
def atMark (c : Char) (text : List Letter) : Bool :=
  text.head?.any (·.column == 0) && (text.take 3).map (·.char) == [c, c, c] &&
    atBlank (text.drop 3)

/-- Whether a mark stands in front that starts or ends a document. -/
def atDocumentMark (text : List Letter) : Bool :=
  atMark '-' text || atMark '.' text

/-- The text behind blanks. -/
def skipBlanks (text : List Letter) : List Letter :=
  text.dropWhile (·.isBlank)

/-- The text behind blanks, a comment, and the end of the line, where nothing else is on it. -/
def skipLine? (text : List Letter) : Option (List Letter) :=
  let behind := skipBlanks text
  let behind := if startsWith '#' behind then behind.dropWhile (!·.isBreak) else behind
  if atLineEnd behind then some (behind.drop 1) else none

end RecordQuery.Yaml
