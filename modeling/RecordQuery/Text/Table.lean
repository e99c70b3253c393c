import RecordQuery.Text.Character
import RecordQuery.Text.Split

/-!
# Tables in text

Large tables of characters are written as words of hexadecimal numbers.
-/

namespace RecordQuery.Text

/-- The number that hexadecimal digits spell. -/
def hexNumber (digits : List Char) : Nat :=
  digits.foldl (fun number c =>
    number * 16 + (if c.isDigit then c.toNat - '0'.toNat else c.toNat - 'a'.toNat + 10)) 0

/-- The character that hexadecimal digits name. -/
def namedChar (digits : List Char) : Char := Char.ofNat (hexNumber digits)

/-- What stands in front of the first occurrence of a sign, and behind it. -/
def cutAt (sign : Char) (text : List Char) : List Char × List Char :=
  (text.takeWhile (· != sign), (text.dropWhile (· != sign)).drop 1)

end RecordQuery.Text
