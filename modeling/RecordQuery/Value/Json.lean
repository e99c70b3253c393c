import RecordQuery.Value
import RecordQuery.Text.Taken

/-!
# Reading JSON text

One value, with blanks around it and nothing else. Of fields with one name the last value counts,
in the place of the first. A whole number that no word of 64 bits holds is a double.

A number with a fraction or an exponent is read in two roundings: as many leading digits as a word
of 64 bits holds become a double, which is then multiplied or divided by a power of ten.
-/

namespace RecordQuery.Json

open Text (Taken)

def isBlank (c : Char) : Bool := c == ' ' || c == '\n' || c == '\t' || c == '\r'

/-- Arrays and objects may be nested inside each other to this depth, counting the outermost. -/
def maxDepth : Nat := 127

/-! ## Numbers -/

/-- Appends digits to a significand until a word of 64 bits overflows; also counts the digits
that were appended. -/
def accumulate (significand : Nat) : List Char → Nat × Nat
  | [] => (significand, 0)
  | c :: rest =>
      let next := significand * 10 + (c.toNat - '0'.toNat)
      if next < 0x10000000000000000 then
        let (final, count) := accumulate next rest
        (final, count + 1)
      else (significand, 0)

/-- `x` divided by `10 ^ exponent`, in steps of at most `10 ^ 308`. -/
def divideByPower (x : Double) (exponent : Nat) : Option Double :=
  if x.isZero then some x
  else if exponent ≤ 308 then do x.div? (← Double.powerOfTen? exponent)
  else do divideByPower (← x.div? (← Double.powerOfTen? 308)) (exponent - 308)
termination_by exponent

/-- `significand * 10 ^ exponent`, or none beyond the range of doubles. -/
def scale (significand : Nat) (exponent : Int) : Option Double := do
  let x ← Double.ofUnits? false (significand * Double.unitsPerOne) 1
  if exponent < 0 then divideByPower x exponent.natAbs
  else if x.isZero then some x
  else if 308 < exponent then none
  else x.mul? (← Double.powerOfTen? exponent.toNat)

/-- The digits at the front and what follows them. -/
def spanDigits (input : List Char) : List Char × List Char :=
  (input.takeWhile Char.isDigit, input.dropWhile Char.isDigit)

/-- The digits after a point; none at all if there is no point. -/
def readFraction (input : List Char) : Option (List Char × List Char) :=
  match input with
  | '.' :: rest =>
      let (digits, rest) := spanDigits rest
      if digits.isEmpty then none else some (digits, rest)
  | _ => some ([], input)

/-- The number after an exponent mark, where there is one; nothing may follow it. -/
def readExponent (input : List Char) : Option (Option Int) :=
  match input with
  | [] => some none
  | mark :: rest =>
      if mark == 'e' || mark == 'E' then
        let (negative, digits) :=
          match rest with
          | '+' :: rest => (false, rest)
          | '-' :: rest => (true, rest)
          | _ => (false, rest)
        if digits.isEmpty || !digits.all Char.isDigit then none
        else
          let size : Nat := Nat.ofDigitChars 10 digits 0
          some (some (if negative then -(size : Int) else size))
      else none

/-- A whole number: a word if one holds it, else a double. The negative zero is a double. -/
def wholeNumber (negative : Bool) (digits : List Char) : Option Number := do
  let (significand, count) := accumulate 0 digits
  let size : Int := significand
  let word := if count == digits.length then WordInt.ofInt? (if negative then -size else size)
    else none
  match word with
  | some n =>
      if negative && significand == 0 then some (.float { Double.zero with negative := true })
      else some (.int n)
  | none =>
      let x ← scale significand (digits.length - count)
      some (.float { x with negative })

/-- A character that may occur in a number. -/
def isNumberChar (c : Char) : Bool :=
  c.isDigit || c == '-' || c == '+' || c == '.' || c == 'e' || c == 'E'

/-- The number that a run of characters spells. -/
def number? (lexeme : List Char) : Option Number := do
  let (negative, input) :=
    match lexeme with
    | '-' :: rest => (true, rest)
    | _ => (false, lexeme)
  let (digits, afterDigits) := spanDigits input
  guard (!digits.isEmpty)
  guard (digits.length == 1 || digits.head? != some '0')
  let (fraction, afterFraction) ← readFraction afterDigits
  let exponent ← readExponent afterFraction
  if fraction.isEmpty && exponent.isNone then
    wholeNumber negative digits
  else
    let (whole, wholeCount) := accumulate 0 digits
    let (significand, fractionCount) := accumulate whole fraction
    let dropped : Int := digits.length - wholeCount
    let x ← scale significand (dropped - fractionCount + exponent.getD 0)
    return .float { x with negative }

/-! ## Strings -/

/-- Four hexadecimal digits. -/
def hexFour? (a b c d : Char) : Option Nat := do
  let digit (c : Char) : Option Nat :=
    if c.isDigit then some (c.toNat - '0'.toNat)
    else if 'a' ≤ c && c ≤ 'f' then some (c.toNat - 'a'.toNat + 10)
    else if 'A' ≤ c && c ≤ 'F' then some (c.toNat - 'A'.toNat + 10)
    else none
  return (((← digit a) * 16 + (← digit b)) * 16 + (← digit c)) * 16 + (← digit d)

/-- The character of a two-character escape. -/
def escaped? : Char → Option Char
  | '"' => some '"'
  | '\\' => some '\\'
  | '/' => some '/'
  | 'b' => some '\x08'
  | 'f' => some '\x0c'
  | 'n' => some '\n'
  | 'r' => some '\r'
  | 't' => some '\t'
  | _ => none

/-- The rest of a string behind its opening quote, and what follows the closing one. Code points
above the basic plane are escaped as surrogate pairs; a surrogate alone is refused. -/
def readString : List Char → Option (List Char × List Char)
  | [] => none
  | '"' :: rest => some ([], rest)
  | '\\' :: 'u' :: a :: b :: c :: d :: rest =>
      match hexFour? a b c d with
      | none => none
      | some unit =>
          if 0xd800 ≤ unit && unit < 0xdc00 then
            match rest with
            | '\\' :: 'u' :: e :: f :: g :: h :: rest =>
                match hexFour? e f g h with
                | none => none
                | some low =>
                    if 0xdc00 ≤ low && low < 0xe000 then
                      let code := 0x10000 + (unit - 0xd800) * 0x400 + (low - 0xdc00)
                      (readString rest).map fun (cs, rest) => (Char.ofNat code :: cs, rest)
                    else none
            | _ => none
          else if 0xdc00 ≤ unit && unit < 0xe000 then none
          else (readString rest).map fun (cs, rest) => (Char.ofNat unit :: cs, rest)
  | '\\' :: c :: rest =>
      match escaped? c with
      | none => none
      | some c => (readString rest).map fun (cs, rest) => (c :: cs, rest)
  | c :: rest =>
      if c.toNat < 0x20 then none
      else (readString rest).map fun (cs, rest) => (c :: cs, rest)

theorem length_lt_of_readString {input cs rest : List Char}
    (found : readString input = some (cs, rest)) : rest.length < input.length := by
  fun_induction readString input generalizing cs rest with
  | case1 => cases found
  | case2 => cases found; simp
  | case3 => cases found
  | case4 => cases found
  | case5 =>
      rename_i ih
      obtain ⟨pair, inner, same⟩ := Option.map_eq_some_iff.1 found
      have := ih inner
      simp only [Prod.mk.injEq] at same
      simp only [List.length_cons, ← same.2]
      omega
  | case6 => cases found
  | case7 => cases found
  | case8 => cases found
  | case9 =>
      rename_i ih
      obtain ⟨pair, inner, same⟩ := Option.map_eq_some_iff.1 found
      have := ih inner
      simp only [Prod.mk.injEq] at same
      simp only [List.length_cons, ← same.2]
      omega
  | case10 => cases found
  | case11 =>
      rename_i ih
      obtain ⟨pair, inner, same⟩ := Option.map_eq_some_iff.1 found
      have := ih inner
      simp only [Prod.mk.injEq] at same
      simp only [List.length_cons, ← same.2]
      omega
  | case12 => cases found
  | case13 =>
      rename_i ih
      obtain ⟨pair, inner, same⟩ := Option.map_eq_some_iff.1 found
      have := ih inner
      simp only [Prod.mk.injEq] at same
      simp only [List.length_cons, ← same.2]
      omega

/-- The string behind an opening quote. -/
def takeString (input : List Char) : Option (Taken String input) :=
  match found : readString input with
  | none => none
  | some (cs, rest) => some ⟨String.ofList cs, rest, length_lt_of_readString found⟩

/-! ## Values -/

mutual
/-- A value at the front of the input, at most `depth` levels of nesting deep. -/
def readValue (depth : Nat) (input : List Char) : Option (Taken Value input) :=
  match blanks : input.dropWhile isBlank with
  | [] => none
  | c :: rest =>
      have below : rest.length < input.length := Text.length_lt_of_dropWhile_eq_cons blanks
      if c == '"' then
        (takeString rest).map fun found => (found.map .string).widen (Nat.le_of_lt below)
      else if c == '[' then
        if depth == 0 then none
        else
          match closing : rest.dropWhile isBlank with
          | ']' :: after =>
              some ⟨.array [], after,
                Nat.lt_trans (Text.length_lt_of_dropWhile_eq_cons closing) below⟩
          | _ => do
              let items ← readItems (depth - 1) rest
              return (items.map .array).widen (Nat.le_of_lt below)
      else if c == '\x7b' then
        if depth == 0 then none
        else
          match closing : rest.dropWhile isBlank with
          | '\x7d' :: after =>
              some ⟨.object [], after,
                Nat.lt_trans (Text.length_lt_of_dropWhile_eq_cons closing) below⟩
          | _ => do
              let fields ← readFields (depth - 1) rest
              return (fields.map fun writes => .object (Fields.ofWrites writes)).widen
                (Nat.le_of_lt below)
      else if isNumberChar c then do
        let number ← number? (c :: rest.takeWhile isNumberChar)
        return ⟨.number number, rest.dropWhile isNumberChar,
          Nat.lt_of_le_of_lt (Text.length_dropWhile_le _ _) below⟩
      else do
        let (value, count) ←
          if c :: rest.take 3 == ['n', 'u', 'l', 'l'] then some (Value.null, 3)
          else if c :: rest.take 3 == ['t', 'r', 'u', 'e'] then some (.bool true, 3)
          else if c :: rest.take 4 == ['f', 'a', 'l', 's', 'e'] then some (.bool false, 4)
          else none
        return ⟨value, rest.drop count,
          Nat.lt_of_le_of_lt (by rw [List.length_drop]; exact Nat.sub_le _ _) below⟩
termination_by 2 * input.length

/-- The items of an array up to its closing bracket, at least one. -/
def readItems (depth : Nat) (input : List Char) : Option (Taken (List Value) input) := do
  let item ← readValue depth input
  match found : item.rest.dropWhile isBlank with
  | ',' :: rest =>
      have below : rest.length < input.length :=
        Nat.lt_trans (Text.length_lt_of_dropWhile_eq_cons found) item.shorter
      let items ← readItems depth rest
      return (items.map (item.value :: ·)).widen (Nat.le_of_lt below)
  | ']' :: rest =>
      return ⟨[item.value], rest,
        Nat.lt_trans (Text.length_lt_of_dropWhile_eq_cons found) item.shorter⟩
  | _ => none
termination_by 2 * input.length + 1

/-- The fields of an object up to its closing brace, at least one, in the order of the text. -/
def readFields (depth : Nat) (input : List Char) :
    Option (Taken (List (String × Value)) input) :=
  match opening : input.dropWhile isBlank with
  | '"' :: quoted => do
      have inside : quoted.length < input.length := Text.length_lt_of_dropWhile_eq_cons opening
      let name ← takeString quoted
      match colon : name.rest.dropWhile isBlank with
      | ':' :: start =>
          have within : start.length < input.length :=
            Nat.lt_trans (Text.length_lt_of_dropWhile_eq_cons colon)
              (Nat.lt_trans name.shorter inside)
          let value ← readValue depth start
          have after : value.rest.length < input.length := Nat.lt_trans value.shorter within
          let field := (name.value, value.value)
          match found : value.rest.dropWhile isBlank with
          | ',' :: rest =>
              have below : rest.length < input.length :=
                Nat.lt_trans (Text.length_lt_of_dropWhile_eq_cons found) after
              let fields ← readFields depth rest
              return (fields.map (field :: ·)).widen (Nat.le_of_lt below)
          | '\x7d' :: rest =>
              return ⟨[field], rest,
                Nat.lt_trans (Text.length_lt_of_dropWhile_eq_cons found) after⟩
          | _ => none
      | _ => none
  | _ => none
termination_by 2 * input.length + 1
end

/-- The value that a text holds. -/
def read (text : List Char) : Option Value := do
  let found ← readValue maxDepth text
  if (found.rest.dropWhile isBlank).isEmpty then some found.value else none

end RecordQuery.Json
