import RecordQuery.Number.Literal
import RecordQuery.Yaml.Tag

/-!
# Scalars of YAML

A plain scalar, one without quotes, is a null, a truth value or a number where it reads like one,
and a string otherwise. A tag may ask for one of these kinds; a tag of the document's own cannot be
understood.
-/

namespace RecordQuery.Yaml

/-- A scalar as it is written, with its tag. -/
structure Scalar where
  plain : Bool
  tag : Option Tag
  text : List Char

/-! ## Kinds of plain text -/

def isNull (text : List Char) : Bool :=
  ["null", "Null", "NULL", "~"].contains (String.ofList text)

def bool? (text : List Char) : Option Bool :=
  if ["true", "True", "TRUE"].contains (String.ofList text) then some true
  else if ["false", "False", "FALSE"].contains (String.ofList text) then some false
  else none

/-- The value of a digit in some base up to sixteen. -/
def digit? (base : Nat) (c : Char) : Option Nat :=
  let value :=
    if c.isDigit then c.toNat - '0'.toNat
    else if c.isAlpha then c.toLower.toNat - 'a'.toNat + 10
    else base
  if value < base then some value else none

/-- The number that digits spell, at least one. -/
def digits? (base : Nat) (text : List Char) : Option Nat :=
  if text.isEmpty then none
  else (text.mapM (digit? base)).map (·.foldl (fun number digit => number * base + digit) 0)

/-- Digits behind a zero, which are no number. -/
def hasLeadingZero (text : List Char) : Bool :=
  1 < text.length && text.head? == some '0' && text.all Char.isDigit

/-- A whole number without a sign: decimal, or in the base that its first two characters name. -/
def magnitude? (text : List Char) : Option Nat :=
  match text with
  | '0' :: 'x' :: digits => digits? 16 digits
  | '0' :: 'o' :: digits => digits? 8 digits
  | '0' :: 'b' :: digits => digits? 2 digits
  | digits => if hasLeadingZero digits then none else digits? 10 digits

/-- A whole number. One that needs more than 128 bits does not count as whole. -/
def whole? (text : List Char) : Option Int := do
  let number : Int ←
    match text with
    | '-' :: rest => (magnitude? rest).map fun size => -(size : Int)
    | '+' :: rest => (magnitude? rest).map fun size => (size : Int)
    | rest => (magnitude? rest).map fun size => (size : Int)
  guard (-0x80000000000000000000000000000000 ≤ number &&
    number < 0x100000000000000000000000000000000)
  return number

def isSign (c : Char) : Bool := c == '+' || c == '-'

/-- A floating-point number. Words for values that are not finite start with a point. -/
def float? (text : List Char) : Option FloatLiteral :=
  let (positive, unsigned) :=
    match text with
    | '+' :: rest => (true, rest)
    | rest => (false, rest)
  if positive && (unsigned.head?.map isSign).getD false then none
  else
    let word := String.ofList unsigned
    if [".inf", ".Inf", ".INF"].contains word then some (.number (.infinite false))
    else if ["-.inf", "-.Inf", "-.INF"].contains word then some (.number (.infinite true))
    else if !positive && [".nan", ".NaN", ".NAN"].contains word then some .notANumber
    else (FloatLiteral.read? unsigned).filter (·.finite?.isSome)

/-! ## Values -/

/-- A whole number as data, or none if no word of 64 bits holds it. -/
def wholeValue (number : Int) : Option Value :=
  (WordInt.ofInt? number).map fun word => .number (.int word)

/-- The value of a plain scalar. -/
def plainValue (text : List Char) : Option Value :=
  if text.isEmpty || isNull text then some .null
  else
    match bool? text with
    | some value => some (.bool value)
    | none =>
        match whole? text with
        | some number => wholeValue number
        | none =>
            let unsigned := if (text.head?.map isSign).getD false then text.drop 1 else text
            let float := if hasLeadingZero unsigned then none else float? text
            some ((float.map (·.toValue)).getD (.string (String.ofList text)))

namespace Scalar

/-- The value of a scalar without a tag. -/
def untagged (scalar : Scalar) : Option Value :=
  if scalar.plain then plainValue scalar.text
  else some (.string (String.ofList scalar.text))

/-- The value of a scalar. -/
def value (scalar : Scalar) : Option Value :=
  match scalar.tag with
  | none => scalar.untagged
  | some tag =>
      if tag.isOwn then none
      else if tag == Tag.standard "bool" then (bool? scalar.text).map .bool
      else if tag == Tag.standard "int" then (whole? scalar.text).bind wholeValue
      else if tag == Tag.standard "float" then (float? scalar.text).map (·.toValue)
      else if tag == Tag.standard "null" then if isNull scalar.text then some .null else none
      else if tag.head? == some Tag.ownMark then scalar.untagged
      else some (.string (String.ofList scalar.text))

end Scalar

end RecordQuery.Yaml
