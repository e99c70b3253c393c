import RecordQuery.Value

/-!
# Floating-point literals

Text that people write for a floating-point number: digits with a point anywhere among them and an
exponent behind, or a word for a value that is not finite. Data holds finite numbers only, so such
a word stands for null.
-/

namespace RecordQuery

/-- What a literal spells. -/
inductive FloatLiteral where
  | number (value : ExtDouble)
  | notANumber
  deriving DecidableEq

namespace FloatLiteral

/-- An optional sign in front of a text: whether it is a minus, and the rest. -/
def readSign : List Char → Bool × List Char
  | '-' :: rest => (true, rest)
  | '+' :: rest => (false, rest)
  | rest => (false, rest)

/-- The digits at the front and what follows them. -/
def spanDigits (text : List Char) : List Char × List Char :=
  (text.takeWhile Char.isDigit, text.dropWhile Char.isDigit)

/-- The exponent that a text consists of; no text at all is the exponent zero. -/
def readExponent : List Char → Option Int
  | [] => some 0
  | mark :: rest =>
      if mark == 'e' || mark == 'E' then
        let (negative, digits) := readSign rest
        if digits.isEmpty || !digits.all Char.isDigit then none
        else
          let size : Nat := Nat.ofDigitChars 10 digits 0
          some (if negative then -(size : Int) else size)
      else none

/-- A number without its sign, rounded to the nearest double. -/
def readNumber (negative : Bool) (text : List Char) : Option ExtDouble :=
  let (whole, rest) := spanDigits text
  let (fraction, rest) :=
    match rest with
    | '.' :: rest => spanDigits rest
    | rest => ([], rest)
  if whole.isEmpty && fraction.isEmpty then none
  else
    (readExponent rest).map fun exponent =>
      ExtDouble.ofDecimal negative (Nat.ofDigitChars 10 (whole ++ fraction) 0)
        (exponent - fraction.length)

/-- The literal that a text holds, with nothing around it. Words are read in any case. -/
def read? (text : List Char) : Option FloatLiteral :=
  let (negative, unsigned) := readSign text
  let word := (String.ofList unsigned).toLower
  if word == "inf" || word == "infinity" then some (.number (.infinite negative))
  else if word == "nan" then some .notANumber
  else (readNumber negative unsigned).map .number

/-- The literal as data. -/
def toValue : FloatLiteral → Value
  | .number value => .ofExtDouble value
  | .notANumber => .null

/-- The finite number that a literal spells, if it does. -/
def finite? : FloatLiteral → Option Double
  | .number value => value.finite?
  | .notANumber => none

end FloatLiteral

end RecordQuery
