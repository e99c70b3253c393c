import RecordQuery.Yaml.Letter
import RecordQuery.Yaml.Scalar

/-!
# Tags and anchors in front of nodes

A tag is written in full between angle brackets, or as a handle and a suffix. Its bytes may be
percent-encoded. An anchor names a node.
-/

namespace RecordQuery.Yaml

/-! ## Encoded bytes -/

/-- How many encoded bytes have to follow one, where `missing` were expected with it. -/
def following? (missing : Nat) (byte : Nat) : Option Nat :=
  if missing != 0 then if byte / 0x40 == 2 then some (missing - 1) else none
  else if byte < 0x80 then some 0
  else if byte / 0x20 == 6 then some 1
  else if byte / 0x10 == 14 then some 2
  else if byte / 0x08 == 30 then some 3
  else none

/-- A character that tags are made of; commas and brackets may stand in a tag that is written in
full. -/
def isTagChar (inFull : Bool) (letter : Letter) : Bool :=
  letter.isName || ";/?:@&=+$.!~*'()".toList.contains letter.char ||
    (inFull && ",[]".toList.contains letter.char)

/-- The bytes of a tag in front, and what follows. -/
def readTagBytes (inFull : Bool) (missing : Nat) : List Letter → Option (List UInt8 × List Letter)
  | [] => if missing == 0 then some ([], []) else none
  | letter :: rest =>
      if letter.char == '%' then
        match rest with
        | high :: low :: behind => do
            let byte := (← digit? 16 high.char) * 16 + (← digit? 16 low.char)
            let (bytes, behind) ← readTagBytes inFull (← following? missing byte) behind
            return (byte.toUInt8 :: bytes, behind)
        | _ => none
      else if missing != 0 then none
      else if isTagChar inFull letter then do
        let (bytes, behind) ← readTagBytes inFull 0 rest
        return (letter.char.toNat.toUInt8 :: bytes, behind)
      else some ([], letter :: rest)

/-- The bytes of a tag, at least one. -/
def readSomeTagBytes (inFull : Bool) (text : List Letter) :
    Option (List UInt8 × List Letter) :=
  (readTagBytes inFull 0 text).filter (!·.1.isEmpty)

/-! ## Reading -/

/-- A handle between exclamation marks, the first of which has been read. -/
def readHandle? (text : List Letter) : Option (String × List Letter) :=
  let name := (text.takeWhile (·.isName)).map (·.char)
  match text.dropWhile (·.isName) with
  | mark :: behind =>
      if mark.char == '!' then some (String.ofList ('!' :: name ++ ['!']), behind) else none
  | [] => none

/-- A tag behind its exclamation mark, whatever follows. -/
def readTagName (text : List Letter) : Option (TagName × List Letter) := do
  if startsWith '<' text then
    let (bytes, behind) ← readSomeTagBytes true (text.drop 1)
    if startsWith '>' behind then return (⟨"", Tag.cut bytes⟩, behind.drop 1) else none
  else
    match readHandle? text with
    | some (handle, behind) =>
        let (bytes, behind) ← readSomeTagBytes false behind
        return (⟨handle, Tag.cut bytes⟩, behind)
    | none =>
        let (bytes, behind) ← readTagBytes false 0 text
        let suffix := Tag.cut bytes
        return (if suffix.isEmpty then ⟨"", Tag.bare⟩ else ⟨"!", suffix⟩, behind)

/-- A tag behind its exclamation mark. A blank follows it, or a comma in brackets. -/
def readTag (inFlow : Bool) (text : List Letter) : Option (TagName × List Letter) := do
  let (name, behind) ← readTagName text
  if atBlank behind || (inFlow && startsWith ',' behind) then return (name, behind) else none

/-- The name of an anchor behind its mark. -/
def readAnchor (text : List Letter) : Option (String × List Letter) :=
  let name := (text.takeWhile (·.isName)).map (·.char)
  let behind := text.dropWhile (·.isName)
  let ends := atBlank behind || startsWithAny "?:,]\x7d%@\x60".toList behind
  if !name.isEmpty && ends then some (String.ofList name, behind) else none

end RecordQuery.Yaml
