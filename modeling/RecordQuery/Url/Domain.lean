import RecordQuery.Text.Writing
import RecordQuery.Url.Domain.Mapping
import RecordQuery.Url.Punycode

/-!
# Domains

A domain consists of labels with dots between them. Characters stand for others in it, such as
capitals for small letters, and an ASCII label with a certain start spells another one. What a
reader could not tell apart, or would see in another order, is refused.
-/

namespace RecordQuery.Url

open Text (splitAt)

def isAscii (c : Char) : Bool := c.toNat < 0x80

/-! ## Joiners -/

/-- The character that letters do not join across, and the one that letters join across. -/
def nonJoiner : Char := '\u200c'
def joiner : Char := '\u200d'

/-- Whether the first letter in a text, behind marks that letters join across, is of a kind. -/
def meets (kind : Char → Bool) : List Char → Bool
  | [] => false
  | c :: rest => kind c || (Text.isJoinedAcross c && meets kind rest)

/-- Whether the joiners in a text stand behind a virama, or between letters that would join, where
the text before is given in reverse. -/
def hasJoinersInPlace (before : List Char) : List Char → Bool
  | [] => true
  | c :: rest =>
      let afterVirama := before.head?.any Text.isVirama
      let between := meets Text.joinsBehind before && meets Text.joinsBefore rest
      let inPlace :=
        if c == joiner then afterVirama
        else if c == nonJoiner then afterVirama || between
        else true
      inPlace && hasJoinersInPlace (c :: before) rest

/-! ## Labels -/

/-- The start of a label that spells another one. -/
def codeMark : List Char := "xn--".toList

/-- The greatest number of characters behind the start of a label that spells another one. -/
def maxCode : Nat := 2000

/-- The greatest number of characters in a label that is not ASCII. -/
def maxLabel : Nat := 1000

def startsWithCodeMark (label : List Char) : Bool :=
  (label.take 4).map Char.toLower == codeMark

/-- The label that Punycode spells: a composed text of valid characters. -/
def readCode (code : List Char) : Option (List Char) := do
  if code.isEmpty || code.getLast? == some '-' || maxCode < code.length then none
  else
    let label ← Punycode.decode code
    let isSound := label.all (fun c => isValidInDomain c && c != '.') && Text.compose label == label
    if isSound then return label else none

/-- Checks that joiners are in place in a label, that it is not too long, and that no mark stands
first, unless the first character is known. -/
def checkLabel ( isStartKnown : Bool) (label : List Char) : Option (List Char) :=
  let isStrayMark := !isStartKnown && label.head?.any Text.isMark
  let isTooLong := !label.all isAscii && maxLabel < label.length
  if isStrayMark || isTooLong || !hasJoinersInPlace [] label then none else some label

/-- A label of ASCII characters. -/
def readPlainLabel (label : List Char) : Option (List Char) :=
  if startsWithCodeMark label then do checkLabel false (← readCode (label.drop 4))
  else
    let label := label.map Char.toLower
    if label.any isForbiddenInDomain then none else some label

/-- A label after its characters have been replaced; it may turn out to spell another one. -/
def readReplacedLabel ( isStartKnown : Bool) (label : List Char) : Option (List Char) := do
  if codeMark.isPrefixOf label then
    if label.all isAscii then checkLabel false (← readCode (label.drop 4)) else none
  else checkLabel isStartKnown label

/-- The labels between dots of a part of a domain: other characters can stand for dots. The ASCII
characters in front but the last stay apart from those that are composed. -/
def readPart (part : List Char) : Option (List (List Char)) := do
  if part.all isAscii then return [← readPlainLabel part]
  else
    let plain := (part.takeWhile isAscii).dropLast
    let rest := part.drop plain.length
    let replaced := Text.compose (← rest.mapM standsFor?).flatten
    let text := plain.map Char.toLower ++ replaced
    if text.any isForbiddenInDomain then none
    else
      match splitAt '.' text with
      | [] => return []
      | first :: others =>
          return (← readReplacedLabel (!plain.isEmpty) first) ::
            (← others.mapM (readReplacedLabel false))

/-! ## Directions -/

/-- Whether the characters of a label are seen in one order: it starts with a letter, and all
characters behind it go with its direction. -/
def isSeenInOrder (label : List Char) : Bool :=
  match label.map Text.direction with
  | [] => true
  | first :: rest =>
      let rest := (rest.reverse.dropWhile (· == .nonspacing)).reverse
      let hasNumber (number : Text.Direction) : Bool := rest.contains number
      match first with
      | .left =>
          rest.all (fun direction => direction != .right && direction != .arabicNumber) &&
            rest.getLast?.all (fun last => last == .left || last == .europeanNumber)
      | .right =>
          rest.all (· != .left) && rest.getLast?.all (· != .neutral) &&
            !(hasNumber .europeanNumber && hasNumber .arabicNumber)
      | _ => false

/-- Whether the labels of a domain are seen in one order. Those without anything that is written
from right to left always are. -/
def areSeenInOrder (labels : List (List Char)) : Bool :=
  let isTurned (c : Char) : Bool :=
    Text.direction c == .right || Text.direction c == .arabicNumber
  !labels.any (·.any isTurned) || labels.all isSeenInOrder

/-! ## Domains -/

/-- The domain that a text spells, in the characters that its own stand for. -/
def readDomain (text : List Char) : Option (List Char) := do
  let labels := (← (splitAt '.' text).mapM readPart).flatten
  if areSeenInOrder labels then return ['.'].intercalate labels else none

end RecordQuery.Url
