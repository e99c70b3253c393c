import RecordQuery.Text.Composite
import RecordQuery.Text.Mark
import RecordQuery.Text.Table

/-!
# The composed form of text

A letter with marks can be one character or several, and the marks can stand in several orders. In
composed form marks are in the order of their classes, and what makes one character is one.
-/

namespace RecordQuery.Text

/-! ## Composites -/

/-- A character that two others make. -/
structure Composite where
  whole : Char
  first : Char
  second : Char

/-- The composites of the table. -/
def composites : List Composite :=
  (words compositeText.toList).map fun entry =>
    let (whole, parts) := cutAt '=' entry
    let (first, second) := cutAt '+' parts
    ⟨namedChar whole, namedChar first, namedChar second⟩

/-- The parts of a syllable of Hangul come one behind the other: leading consonants, vowels and
trailing consonants, where the first trailing one stands for none. -/
def leadingStart : Nat := 0x1100
def leadingCount : Nat := 19
def vowelStart : Nat := 0x1161
def vowelCount : Nat := 21
def trailingStart : Nat := 0x11a7
def trailingCount : Nat := 28

/-- The syllables of Hangul stand in the order of their parts. -/
def syllableStart : Nat := 0xac00

/-- The two parts of a syllable of Hangul: it without its trailing consonant and that consonant, or
its leading consonant and its vowel. -/
def splitSyllable? (c : Char) : Option (Char × Char) :=
  let number := c.toNat - syllableStart
  if c.toNat < syllableStart || leadingCount * vowelCount * trailingCount ≤ number then none
  else if number % trailingCount == 0 then
    let pair := number / trailingCount
    some (Char.ofNat (leadingStart + pair / vowelCount), Char.ofNat (vowelStart + pair % vowelCount))
  else
    some (Char.ofNat (c.toNat - number % trailingCount),
      Char.ofNat (trailingStart + number % trailingCount))

/-- The syllable of Hangul that two parts make. -/
def joinSyllable? (first second : Char) : Option Char :=
  let leading := first.toNat - leadingStart
  let vowel := second.toNat - vowelStart
  let trailing := second.toNat - trailingStart
  let number := first.toNat - syllableStart
  if leadingStart ≤ first.toNat && leading < leadingCount && vowelStart ≤ second.toNat &&
      vowel < vowelCount then
    some (Char.ofNat (syllableStart + (leading * vowelCount + vowel) * trailingCount))
  else if syllableStart ≤ first.toNat && number < leadingCount * vowelCount * trailingCount &&
      number % trailingCount == 0 && trailingStart < second.toNat && trailing < trailingCount then
    some (Char.ofNat (first.toNat + trailing))
  else none

/-- The two parts of a character. -/
def split? (c : Char) : Option (Char × Char) :=
  match splitSyllable? c with
  | some parts => some parts
  | none => (composites.find? (·.whole == c)).map fun found => (found.first, found.second)

/-- The character that two others make. -/
def join? (first second : Char) : Option Char :=
  match joinSyllable? first second with
  | some c => some c
  | none =>
      (composites.find? fun entry => entry.first == first && entry.second == second).map (·.whole)

/-! ## The order of marks -/

/-- The class of a mark, which is zero for other characters. -/
def combiningClass (c : Char) : Nat :=
  ((combiningRuns.find? fun (first, last, _) => first ≤ c.toNat && c.toNat ≤ last).map
    (·.2.2)).getD 0

/-- Puts a character behind a text in reverse, where marks of greater classes stand behind it. -/
def insertMark (reversed : List Char) (c : Char) : List Char :=
  let rank := combiningClass c
  let isBehind (other : Char) : Bool := rank != 0 && rank < combiningClass other
  reversed.takeWhile isBehind ++ c :: reversed.dropWhile isBehind

/-- The text with its marks in the order of their classes. -/
def orderMarks (text : List Char) : List Char :=
  (text.foldl insertMark []).reverse

/-! ## Composing -/

/-- How often a character can be taken apart. -/
def maxParts : Nat := 4

/-- The characters that make a character and cannot be taken apart. -/
def decompose : (steps : Nat) → Char → List Char
  | 0, c => [c]
  | steps + 1, c =>
      match split? c with
      | some (first, second) => decompose steps first ++ [second]
      | none => [c]

/-- Composes what follows a character and some marks that it has not taken in. A mark behind another
one of its class or a greater one is not taken in. -/
def composeFrom (start : Char) (marks : List Char) : List Char → List Char
  | [] => start :: marks
  | c :: rest =>
      let rank := combiningClass c
      let isNear := marks.getLast?.all (combiningClass · < rank)
      match if isNear then join? start c else none with
      | some whole => composeFrom whole marks rest
      | none =>
          if rank == 0 then start :: marks ++ composeFrom c [] rest
          else composeFrom start (marks ++ [c]) rest

/-- The composed form of a text. -/
def compose (text : List Char) : List Char :=
  let ordered := orderMarks (text.flatMap (decompose maxParts))
  let isMark (c : Char) : Bool := combiningClass c != 0
  match ordered.dropWhile isMark with
  | [] => ordered
  | start :: rest => ordered.takeWhile isMark ++ composeFrom start [] rest

end RecordQuery.Text
