import RecordQuery.Text.Character
import RecordQuery.Text.Compose
import RecordQuery.Text.Direction
import RecordQuery.Text.Joining

/-!
# How characters are written

The direction in which a character is written, and whether letters join beside it.
-/

namespace RecordQuery.Text

/-- How a character stands in a line of text. -/
inductive Direction where
  | left
  | right
  | arabicNumber
  | europeanNumber
  | nonspacing
  | neutral
  deriving DecidableEq

/-- The direction in which a character is written. -/
def direction (c : Char) : Direction :=
  if c.toNat < 0x80 then
    if c.isAlpha then .left else if c.isDigit then .europeanNumber else .neutral
  else if inRanges rightToLeftRanges c.toNat then .right
  else if inRanges arabicNumberRanges c.toNat then .arabicNumber
  else if inRanges europeanNumberRanges c.toNat then .europeanNumber
  else if inRanges nonspacingRanges c.toNat then .nonspacing
  else if inRanges neutralRanges c.toNat then .neutral
  else .left

/-- A mark, with or without room of its own. -/
def isMark (c : Char) : Bool :=
  inRanges nonspacingRanges c.toNat || inRanges spacingRanges c.toNat

/-- A mark that takes away the vowel of the letter in front of it. -/
def isVirama (c : Char) : Bool := combiningClass c == 9

def joinsBehind (c : Char) : Bool := inRanges joinsBehindRanges c.toNat

def joinsBefore (c : Char) : Bool := inRanges joinsBeforeRanges c.toNat

/-- Whether the letters on both sides of a character join. -/
def isJoinedAcross (c : Char) : Bool :=
  (inRanges nonspacingRanges c.toNat && c.toNat != 0x1171e) || inRanges joinedAcrossRanges c.toNat

end RecordQuery.Text
