import RecordQuery.Yaml.Block
import RecordQuery.Yaml.Directive

/-!
# From letters to tokens

Outside of brackets the depth of a token on its line starts and ends blocks. A node on one line can
turn out to be a key when a colon is found behind it; the tokens that start a mapping and its key
then go in front of it. A colon that comes late finds no key.
-/

namespace RecordQuery.Yaml

/-- The start of a node that may be a key: its first letter, and the number of tokens in front. A
node at the depth of a block has to be a key. -/
structure KeyStart where
  letter : Letter
  number : Nat
  required : Bool

/-- How far the reading of a document has come. In brackets and braces `outer` holds a start of a
key for everything around them. -/
structure Scan where
  text : List Letter
  tokens : Array Token
  indents : List Nat
  keyStart : Option KeyStart
  outer : List (Option KeyStart)
  keyAllowed : Bool

namespace Scan

def ofText (text : List Char) : Scan := ⟨letters text, #[], [], none, [], true⟩

def inFlow (scan : Scan) : Bool := !scan.outer.isEmpty

/-- The column at which a block starts that is inside all others. -/
def depth (scan : Scan) : Nat := (scan.indents.head?.map (· + 1)).getD 0

def push (scan : Scan) (token : Token) : Scan :=
  { scan with tokens := scan.tokens.push token }

/-! ## Blanks -/

/-- The character that marks a text as Unicode. It may start a line. -/
def unicodeMark : Char := '\uFEFF'

/-- What follows blanks, comments and line ends, and whether a key may start there. Tabs are no
indentation. -/
def skipSpace ( inFlow keyAllowed inComment : Bool) : List Letter → Bool × List Letter
  | [] => (keyAllowed, [])
  | letter :: rest =>
      let isSkipped := inComment || letter.char == ' ' ||
        (letter.char == '\t' && (inFlow || !keyAllowed)) ||
        (letter.char == unicodeMark && letter.column == 0)
      if letter.isBreak then skipSpace inFlow (keyAllowed || !inFlow) false rest
      else if letter.char == '#' then skipSpace inFlow keyAllowed true rest
      else if isSkipped then skipSpace inFlow keyAllowed inComment rest
      else (keyAllowed, letter :: rest)

/-! ## Keys -/

/-- The greatest number of bytes between the start of a key and its colon. -/
def maxKeyBytes : Nat := 1024

/-- Forgets the start of a key, which must not be one that has to be a key. -/
def dropKey (scan : Scan) : Option Scan :=
  if scan.keyStart.any (·.required) then none else some { scan with keyStart := none }

/-- A start of a key that may still be one at a letter. -/
def KeyStart.at? (start : Option KeyStart) (letter : Letter) : Option (Option KeyStart) :=
  match start with
  | none => some none
  | some key =>
      if key.letter.line < letter.line || key.letter.offset + maxKeyBytes < letter.offset then
        if key.required then none else some none
      else some (some key)

/-- Forgets starts of keys that are too far in front of a letter. -/
def dropFarKeys (scan : Scan) (letter : Letter) : Option Scan := do
  let keyStart ← KeyStart.at? scan.keyStart letter
  return { scan with keyStart, outer := ← scan.outer.mapM (KeyStart.at? · letter) }

/-- Notes that a key may start at a letter. -/
def noteKey (scan : Scan) (letter : Letter) : Option Scan := do
  if !scan.keyAllowed then return scan
  let required := !scan.inFlow && scan.indents.head? == some letter.column
  let scan ← scan.dropKey
  return { scan with keyStart := some ⟨letter, scan.tokens.size, required⟩ }

/-! ## Blocks -/

/-- Ends the blocks whose columns satisfy a condition. -/
def closeBlocks (scan : Scan) ( isClosed : Nat → Bool) : Scan :=
  if scan.inFlow then scan
  else
    { scan with
      indents := scan.indents.dropWhile isClosed
      tokens := scan.tokens ++ (scan.indents.takeWhile isClosed).map fun _ => Token.blockEnd }

/-- Starts a block at a column in front of the token of a number, where no block has started. -/
def openBlock (scan : Scan) (column number : Nat) (token : Token) : Scan :=
  if scan.inFlow || scan.indents.head?.any (column ≤ ·) then scan
  else
    { scan with
      indents := column :: scan.indents
      tokens := scan.tokens.insertIdxIfInBounds number token }

/-- Closes all blocks in front of a token that stands outside of documents. -/
def leaveDocument (scan : Scan) : Option Scan := do
  let scan ← (scan.closeBlocks fun _ => true).dropKey
  return { scan with keyAllowed := false }

/-! ## Tokens -/

/-- An opening bracket or brace. -/
def readOpen (scan : Scan) (token : Token) (letter : Letter) (rest : List Letter) :
    Option Scan := do
  let scan ← scan.noteKey letter
  let outer := scan.keyStart :: scan.outer
  return { scan.push token with text := rest, keyStart := none, outer, keyAllowed := true }

/-- A closing bracket or brace. It may stand outside of all others. -/
def readClose (scan : Scan) (token : Token) (rest : List Letter) : Option Scan := do
  let scan ← scan.dropKey
  let scan := { scan.push token with text := rest, keyAllowed := false }
  match scan.outer with
  | [] => return scan
  | keyStart :: outer => return { scan with keyStart, outer }

/-- A comma in brackets. -/
def readComma (scan : Scan) (rest : List Letter) : Option Scan := do
  let scan ← scan.dropKey
  return { scan.push .comma with text := rest, keyAllowed := true }

/-- The scan with the block that a sign in front of a node starts. -/
def atSign (scan : Scan) (block : Token) (letter : Letter) : Option Scan :=
  if scan.inFlow then some scan
  else if scan.keyAllowed then some (scan.openBlock letter.column scan.tokens.size block)
  else none

/-- The dash in front of an item. -/
def readItem (scan : Scan) (letter : Letter) (rest : List Letter) : Option Scan := do
  let scan ← (← scan.atSign .blockSequence letter).dropKey
  return { scan.push .item with text := rest, keyAllowed := true }

/-- The question mark in front of a key. -/
def readKey (scan : Scan) (letter : Letter) (rest : List Letter) : Option Scan := do
  let scan ← (← scan.atSign .blockMapping letter).dropKey
  return { scan.push .key with text := rest, keyAllowed := !scan.inFlow }

/-- The colon in front of a value. -/
def readValue (scan : Scan) (letter : Letter) (rest : List Letter) : Option Scan :=
  match scan.keyStart with
  | some start =>
      let scan := { scan with tokens := scan.tokens.insertIdxIfInBounds start.number .key }
      let scan := scan.openBlock start.letter.column start.number .blockMapping
      some { scan.push .value with text := rest, keyStart := none, keyAllowed := false }
  | none => do
      let scan ← scan.atSign .blockMapping letter
      return { scan.push .value with text := rest, keyAllowed := !scan.inFlow }

/-- A node or a property of one token, which may start a key. -/
def readPart (scan : Scan) (letter : Letter) (found : Option (Token × List Letter)) :
    Option Scan := do
  let scan ← scan.noteKey letter
  let (token, text) ← found
  return { scan.push token with text, keyAllowed := false }

/-- A block scalar, which is no key. -/
def readBlockScalar (scan : Scan) ( isFolded : Bool) (rest : List Letter) : Option Scan := do
  let scan ← scan.dropKey
  let (text, behind) ← readBlock isFolded scan.depth rest
  return { scan.push (.scalar false text) with text := behind, keyAllowed := true }

/-- The signs that no plain scalar starts with. -/
def signs : List Char := flowSigns ++ "-?:#&*!|>'\"%@\x60".toList

/-- Whether a plain scalar starts with a letter that is no blank. -/
def startsPlain ( inFlow : Bool) (letter : Letter) (rest : List Letter) : Bool :=
  !(letter.isBlank || signs.contains letter.char) ||
    (letter.char == '-' && !rest.head?.any (·.isBlank)) ||
    (!inFlow && (letter.char == '?' || letter.char == ':') && !atBlank rest)

/-- A plain scalar. A key may start behind it where its last lines are empty. -/
def readPlainScalar (scan : Scan) (letter : Letter) (rest : List Letter) : Option Scan := do
  let scan ← scan.noteKey letter
  let found ← readPlain scan.inFlow scan.depth .none (letter :: rest)
  let text := found.behind
  return { scan.push (.scalar true found.text) with text, keyAllowed := found.endsLine }

/-- The token that starts with a letter. -/
def readToken (scan : Scan) (letter : Letter) (rest : List Letter) : Option Scan :=
  if letter.column == 0 && letter.char == '%' then do
    let scan ← scan.leaveDocument
    let (directive, text) ← readDirective rest
    return { scan.push (.directive directive) with text }
  else if atMark '-' (letter :: rest) then do
    return { (← scan.leaveDocument).push .documentStart with text := rest.drop 2 }
  else if atMark '.' (letter :: rest) then do
    return { (← scan.leaveDocument).push .documentEnd with text := rest.drop 2 }
  else
    let isSign := atBlank rest
    let token {α : Type} (make : α → Token) (found : Option (α × List Letter)) :=
      found.map fun (content, behind) => (make content, behind)
    match letter.char with
    | '[' => scan.readOpen .openBracket letter rest
    | '\x7b' => scan.readOpen .openBrace letter rest
    | ']' => scan.readClose .closeBracket rest
    | '\x7d' => scan.readClose .closeBrace rest
    | ',' => scan.readComma rest
    | '*' => scan.readPart letter (token .alias (readAnchor rest))
    | '&' => scan.readPart letter (token .anchor (readAnchor rest))
    | '!' => scan.readPart letter (token .tag (readTag scan.inFlow rest))
    | '\'' => scan.readPart letter (token (.scalar false) (readSingleQuoted .none rest))
    | '"' => scan.readPart letter (token (.scalar false) (readDoubleQuoted .none rest))
    | c =>
        if c == '-' && isSign then scan.readItem letter rest
        else if c == '?' && (scan.inFlow || isSign) then scan.readKey letter rest
        else if c == ':' && (scan.inFlow || isSign) then scan.readValue letter rest
        else if c == '|' && !scan.inFlow then scan.readBlockScalar false rest
        else if c == '>' && !scan.inFlow then scan.readBlockScalar true rest
        else if startsPlain scan.inFlow letter rest then scan.readPlainScalar letter rest
        else none

/-- Reads tokens up to the end of the text. A token takes at least one letter, so more steps than
there are letters are enough. -/
def run : (steps : Nat) → Scan → Option (List Token)
  | 0, _ => none
  | steps + 1, scan =>
      match skipSpace scan.inFlow scan.keyAllowed false scan.text with
      | (_, []) => (scan.leaveDocument).map (·.tokens.toList)
      | (keyAllowed, letter :: rest) => do
          let scan ← { scan with keyAllowed }.dropFarKeys letter
          run steps (← (scan.closeBlocks (letter.column < ·)).readToken letter rest)

end Scan

/-- The tokens of a document. -/
def tokens (text : List Char) : Option (List Token) :=
  if text.all isAllowed then (Scan.ofText text).run (text.length + 1) else none

end RecordQuery.Yaml
