import RecordQuery.Text.Taken

/-!
# UTF-8

Bytes are read as UTF-8 in two ways: strictly, where ill-formed bytes make the whole unreadable,
and leniently, where every ill-formed part becomes one replacement character.
-/

namespace RecordQuery.Text

/-- The bytes of a text. -/
def toBytes (text : List Char) : List UInt8 :=
  (String.ofList text).toUTF8.toList

/-- The text that bytes spell, if they are well formed. -/
def ofBytes? (bytes : List UInt8) : Option (List Char) :=
  (String.fromUTF8? bytes.toByteArray).map String.toList

/-- The character that stands for ill-formed bytes. -/
def replacement : Char := '\uFFFD'

/-- How many bytes a character takes that starts with a byte, and the smallest and the greatest
second byte of such a character. -/
def leading? (byte : UInt8) : Option (Nat × UInt8 × UInt8) :=
  if byte < 0x80 then some (1, 0x80, 0xbf)
  else if byte < 0xc2 then none
  else if byte < 0xe0 then some (2, 0x80, 0xbf)
  else if byte == 0xe0 then some (3, 0xa0, 0xbf)
  else if byte == 0xed then some (3, 0x80, 0x9f)
  else if byte < 0xf0 then some (3, 0x80, 0xbf)
  else if byte == 0xf0 then some (4, 0x90, 0xbf)
  else if byte < 0xf4 then some (4, 0x80, 0xbf)
  else if byte == 0xf4 then some (4, 0x80, 0x8f)
  else none

/-- How many of the next bytes continue a character that lacks `count` of them. The first has to
lie between two bounds. -/
def continuing (lower upper : UInt8) : (count : Nat) → List UInt8 → Nat
  | 0, _ => 0
  | _, [] => 0
  | count + 1, byte :: rest =>
      if lower ≤ byte && byte ≤ upper then continuing 0x80 0xbf count rest + 1 else 0

/-- The text that bytes spell. The longest part of a character that is not finished becomes one
replacement character. -/
def ofBytesLenient : List UInt8 → List Char
  | [] => []
  | byte :: rest =>
      match leading? byte with
      | none => replacement :: ofBytesLenient rest
      | some (size, lower, upper) =>
          let count := continuing lower upper (size - 1) rest
          let found := if count + 1 == size then ofBytes? (byte :: rest.take count) else none
          found.getD [replacement] ++ ofBytesLenient (rest.drop count)
termination_by bytes => bytes.length
decreasing_by
  all_goals simp only [List.length_cons, List.length_drop]; omega

end RecordQuery.Text
