import RecordQuery.Number.Shortest

/-!
# How numbers are written

A layout fixes the decisions that the digits of a number leave open. Three layouts are in use:
numbers in JSON text, numbers quoted in messages about tokens, and numbers in the outline of an
expression.
-/

namespace RecordQuery

/-- The decisions about the text of a double. -/
structure Layout where
  /-- The least and the greatest decimal exponent written without an exponent mark. -/
  least : Int
  greatest : Int
  /-- Whole numbers end in `.0`. -/
  pointZero : Bool
  /-- A plus sign stands before an exponent that is not negative. -/
  exponentPlus : Bool
  /-- Of two shortest decimals equally near, the greater is taken; else the even one. -/
  tieUp : Bool

namespace Layout

/-- JSON text: `1e+16`, `0.00001`, `3.0`. -/
def json : Layout := ⟨-5, 15, true, true, false⟩

/-- Always positional, whole numbers without a point: `100`. -/
def plain : Layout := ⟨-400, 400, false, false, true⟩

/-- The outline of expressions: `1e16`, `1e-5`, `3.0`. -/
def outline : Layout := ⟨-4, 15, true, false, true⟩

/-- A decimal whose leading digit has the weight `10 ^ leading`, without an exponent mark. -/
def positional (layout : Layout) (digits : List Char) (leading : Int) : List Char :=
  let ending := if layout.pointZero then ['.', '0'] else []
  let count : Int := digits.length
  if leading < 0 then '0' :: '.' :: (List.replicate (leading.natAbs - 1) '0' ++ digits)
  else if leading < count - 1 then
    digits.take (leading.toNat + 1) ++ '.' :: digits.drop (leading.toNat + 1)
  else digits ++ List.replicate (leading + 1 - count).toNat '0' ++ ending

/-- A decimal with one digit before the point and an exponent mark. -/
def scientific (layout : Layout) (digits : List Char) (leading : Int) : List Char :=
  let fraction := if digits.length ≤ 1 then [] else '.' :: digits.drop 1
  let sign := if leading < 0 then ['-'] else if layout.exponentPlus then ['+'] else []
  digits.take 1 ++ fraction ++ 'e' :: sign ++ Nat.toDigits 10 leading.natAbs

/-- The digits of a double without its sign. -/
def unsigned (layout : Layout) (x : Double) : List Char :=
  if x.isZero then layout.positional ['0'] 0
  else
    let decimal := x.shortest layout.tieUp
    let digits := Nat.toDigits 10 decimal.digits
    let leading := decimal.exponent + digits.length - 1
    if layout.least ≤ leading && leading ≤ layout.greatest then layout.positional digits leading
    else layout.scientific digits leading

/-- The text of a double. -/
def write (layout : Layout) (x : Double) : String :=
  String.ofList ((if x.negative then ['-'] else []) ++ layout.unsigned x)

/-- The text of a double that may be infinite. -/
def writeExt (layout : Layout) : ExtDouble → String
  | .finite x => layout.write x
  | .infinite negative => if negative then "-inf" else "inf"

end Layout

end RecordQuery
