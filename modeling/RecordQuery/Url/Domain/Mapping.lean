import RecordQuery.Text.Table
import RecordQuery.Url.Domain.Mapped
import RecordQuery.Url.Domain.Refused

/-!
# What characters stand for in domains

A character of a domain can stand for others, or for nothing, or be refused. Those that stand for
themselves are valid.
-/

namespace RecordQuery.Url

/-- What some consecutive characters stand for: as many others, or each for a text of its own. -/
inductive Replacement where
  | shift (first last target : Nat)
  | each (first : Nat) (targets : List (List Char))

namespace Replacement

/-- Reads a word of the table. -/
def ofWord (word : List Char) : Replacement :=
  let (source, target) := Text.cutAt '=' word
  if source.contains '-' then
    let (first, last) := Text.cutAt '-' source
    .shift (Text.hexNumber first) (Text.hexNumber last) (Text.hexNumber target)
  else
    .each (Text.hexNumber source)
      ((Text.splitAt ',' target).map fun text => (Text.splitAt '+' text).map Text.namedChar)

/-- What a character stands for. -/
def at? (replacement : Replacement) (code : Nat) : Option (List Char) :=
  match replacement with
  | .shift first last target =>
      if first ≤ code && code ≤ last then some [Char.ofNat (target + (code - first))] else none
  | .each first targets => if first ≤ code then targets[code - first]? else none

end Replacement

/-- The replacements of the table. -/
def replacements : List Replacement := (Text.words mappedText.toList).map .ofWord

/-- A character that no domain may hold. -/
def isForbiddenInDomain (c : Char) : Bool :=
  c.toNat ≤ 0x20 || c == '\x7f' || "%#/:<>?@[\\]^\x60\x7b|\x7d".toList.contains c

/-- What a character stands for, unless it is refused. Whether what it stands for may stand in a
domain is another question. -/
def standsFor? (c : Char) : Option (List Char) :=
  if c.toNat < 0x80 then some [c.toLower]
  else if Text.inRanges omittedRanges c.toNat then some []
  else if Text.inRanges refusedRanges c.toNat then none
  else
    match replacements.findSome? (·.at? c.toNat) with
    | some text => some text
    | none => some (Text.lowercase c)

/-- A character that stands for itself. -/
def isValidInDomain (c : Char) : Bool :=
  standsFor? c == some [c] && !isForbiddenInDomain c

end RecordQuery.Url
