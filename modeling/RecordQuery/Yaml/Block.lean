import RecordQuery.Yaml.Folding

/-!
# Block scalars

A block scalar is text on lines of its own that stand deeper than what is around them. It keeps its
line ends or folds them, and says how much of what ends it counts.
-/

namespace RecordQuery.Yaml

/-- Which of the line ends behind a block scalar belong to it. -/
inductive Chomping where
  | strip
  | clip
  | keep

/-- What is said in front of a block scalar: the line ends that belong to it, and how much deeper
it stands. -/
structure BlockHeader where
  chomping : Chomping
  increment : Option Nat

/-- A line of a block scalar, with its end and the empty lines behind it. -/
structure BlockLine where
  text : List Char
  breaks : List Char

/-! ## Reading -/

/-- The sign for the line ends that belong to a block scalar. -/
def chomping? (letter : Letter) : Option Chomping :=
  if letter.char == '+' then some .keep else if letter.char == '-' then some .strip else none

/-- The text behind the sign for the line ends, if there is one. -/
def readChomping (text : List Letter) : Option Chomping × List Letter :=
  match text with
  | [] => (none, [])
  | letter :: rest =>
      match chomping? letter with
      | some chomping => (some chomping, rest)
      | none => (none, letter :: rest)

/-- The text behind a digit for the depth, if there is one. Zero is none. -/
def readIncrement (text : List Letter) : Option (Option Nat × List Letter) :=
  match text with
  | [] => some (none, [])
  | letter :: rest =>
      if letter.char == '0' then none
      else if letter.char.isDigit then some (some (letter.char.toNat - '0'.toNat), rest)
      else some (none, letter :: rest)

/-- What is said in front of a block scalar, in either order, and the text from the next line on. -/
def readBlockHeader (text : List Letter) : Option (BlockHeader × List Letter) := do
  let (first, behind) := readChomping text
  let (increment, behind) ← readIncrement behind
  let (chomping, behind) :=
    if first.isNone && increment.isSome then readChomping behind else (first, behind)
  return (⟨chomping.getD .clip, increment⟩, ← skipLine? behind)

/-- Skips the spaces in front of lines and the empty lines, up to the column `indent` if that is
known: the ends of the lines, the widest column that was reached, and what follows. -/
def skipIndent (indent : Option Nat) (widest : Nat) : List Letter →
    Option (List Char × Nat × List Letter)
  | [] => some ([], widest, [])
  | letter :: rest =>
      let isInFront := indent.all (letter.column < ·)
      let reached := max widest letter.column
      if isInFront && letter.char == ' ' then skipIndent indent widest rest
      else if isInFront && letter.char == '\t' then none
      else if letter.isBreak then do
        let (breaks, reached, behind) ← skipIndent indent reached rest
        return (letter.char :: breaks, reached, behind)
      else some ([], reached, letter :: rest)

/-- The lines that start at a column, and what follows. A line takes at least one letter, so as
many steps as there are letters are enough. -/
def readBlockLines (indent : Nat) : (steps : Nat) → List Letter →
    Option (List BlockLine × List Letter)
  | 0, text => some ([], text)
  | steps + 1, text =>
      if text.head?.any (·.column == indent) then do
        let line := (text.takeWhile (!·.isBreak)).map (·.char)
        let behind := text.dropWhile (!·.isBreak)
        let lineEnd := (behind.head?.map (·.char)).toList
        let (breaks, _, behind) ← skipIndent (some indent) 0 (behind.drop 1)
        let (lines, behind) ← readBlockLines indent steps behind
        return (⟨line, lineEnd ++ breaks⟩ :: lines, behind)
      else some ([], text)

/-! ## Folding -/

/-- Whether a line starts with a blank, so that its end and the one before it are kept. -/
def BlockLine.isDeeper (line : BlockLine) : Bool :=
  line.text.head?.any fun c => c == ' ' || c == '\t'

/-- The line ends between two lines as they count. -/
def BlockLine.gap ( isFolded : Bool) (line next : BlockLine) : List Char :=
  match line.breaks with
  | '\n' :: more =>
      if isFolded && !line.isDeeper && !next.isDeeper then if more.isEmpty then [' '] else more
      else line.breaks
  | breaks => breaks

/-- The line ends behind the last line that belong to the text. -/
def Chomping.lastBreaks (chomping : Chomping) (breaks : List Char) : List Char :=
  match chomping with
  | .strip => []
  | .clip => breaks.take 1
  | .keep => breaks

/-- The text of lines. -/
def blockText ( isFolded : Bool) (chomping : Chomping) : List BlockLine → List Char
  | [] => []
  | [last] => last.text ++ chomping.lastBreaks last.breaks
  | line :: next :: rest =>
      line.text ++ line.gap isFolded next ++ blockText isFolded chomping (next :: rest)

/-- A block scalar behind its sign, where the blocks around it stand at columns below `outer`. -/
def readBlock ( isFolded : Bool) (outer : Nat) (text : List Letter) :
    Option (List Char × List Letter) := do
  let (header, behind) ← readBlockHeader text
  let known := header.increment.map fun increment => max outer 1 - 1 + increment
  let (breaks, widest, behind) ← skipIndent known 0 behind
  let (lines, behind) ← readBlockLines (known.getD (max widest (max outer 1))) text.length behind
  match lines with
  | [] =>
      match header.chomping with
      | .keep => return (breaks, behind)
      | _ => return ([], behind)
  | lines => return (breaks ++ blockText isFolded header.chomping lines, behind)

end RecordQuery.Yaml
