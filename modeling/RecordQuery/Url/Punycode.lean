import RecordQuery.Text.Taken

/-!
# Punycode

Punycode spells text in ASCII: the ASCII characters of the text, and digits that say which other
characters go where. The characters come in ascending order; each is told by how far it lies behind
the one before, counted through all places of the text.
-/

namespace RecordQuery.Url.Punycode

open Text (Taken)

/-- The number of digits. -/
def base : Nat := 36

/-- Numbers of more than 32 bits do not count. -/
def limit : Nat := 0x100000000

/-- The value of a digit: a letter in either case, or a decimal digit behind the letters. -/
def digit? (c : Char) : Option Nat :=
  if c.isAlpha then some (c.toLower.toNat - 'a'.toNat)
  else if c.isDigit then some (c.toNat - '0'.toNat + 26)
  else none

/-- The least digit that is followed by another one, at a place. -/
def threshold (bias place : Nat) : Nat :=
  if place ≤ bias then 1 else if bias + 26 ≤ place then 26 else place - bias

/-- Divides until a number is small: what is left, and a base for each division. -/
def scale (number places : Nat) : Nat × Nat :=
  if 455 < number then scale (number / 35) (places + base) else (number, places)
termination_by number
decreasing_by exact Nat.div_lt_self (by omega) (by decide)

/-- The bias behind a number, when the text has so many characters. -/
def adapt ( isFirst : Bool) (number length : Nat) : Nat :=
  let damped := number / (if isFirst then 700 else 2)
  let (rest, places) := scale (damped + damped / length) 0
  places + base * rest / (rest + 38)

/-- Adds a number of several digits to a value. -/
def readNumber (bias place weight value : Nat) : (text : List Char) → Option (Taken Nat text)
  | [] => none
  | c :: rest => do
      let digit ← digit? c
      let value := value + digit * weight
      if limit ≤ digit * weight || limit ≤ value then none
      else if digit < threshold bias place then return .head value c rest
      else
        let weight := weight * (base - threshold bias place)
        if limit ≤ weight then none
        else
          let found ← readNumber bias (place + base) weight value rest
          return found.behind c

/-- Inserts the characters that digits tell into a text: `place` is where the next one can go, and
`code` the one before. -/
def insertAll (bias code place : Nat) (text digits : List Char) : Option (List Char) :=
  if digits.isEmpty then some text
  else do
    let found ← readNumber bias base 1 place digits
    have shorter := found.shorter
    let length := text.length + 1
    let code := code + found.value / length
    if !Nat.isValidChar code then none
    else
      let next := found.value % length
      insertAll (adapt (place == 0) (found.value - place) length) code (next + 1)
        (text.insertIdx next (Char.ofNat code)) found.rest
termination_by digits.length

/-- The text that Punycode spells. -/
def decode (text : List Char) : Option (List Char) :=
  let behind := (text.reverse.takeWhile (· != '-')).reverse
  let plain := (text.take (text.length - behind.length - 1)).map Char.toLower
  if plain.isEmpty then insertAll 72 0x80 0 [] text
  else insertAll 72 0x80 0 plain behind

end RecordQuery.Url.Punycode
