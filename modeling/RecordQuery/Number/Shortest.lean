import RecordQuery.Number.Double

/-!
# The shortest decimal of a double

A decimal reads back as a double when it lies in the interval of values that round to it. The
shortest decimal of a double is the one with the fewest digits in that interval, and of two such
decimals the nearer one. A decimal grid meets the interval only if one of the two grid points next
to the value does, so two candidates for each number of digits are enough.

All comparisons are made on whole numbers: values are counted in quarters of units times
`10 ^ 400`, where every bound and every grid point is whole.
-/

namespace RecordQuery

/-- A positive decimal `digits * 10 ^ exponent`. -/
structure Decimal where
  digits : Nat
  exponent : Int
  deriving DecidableEq

namespace Decimal

/-- How many digits a natural number has. -/
def width (n : Nat) : Nat := (Nat.toDigits 10 n).length

/-- Moves zeros at the end of at most `fuel` digits into the exponent. -/
def dropZeros : (fuel : Nat) → Decimal → Decimal
  | 0, d => d
  | fuel + 1, d =>
      if d.digits % 10 == 0 then dropZeros fuel ⟨d.digits / 10, d.exponent + 1⟩ else d

end Decimal

namespace Double

/-- The power of ten that makes every grid point of interest whole. -/
def gridBits : Nat := 400

/-- The least and the greatest scaled value that round to a number, and whether these two do. -/
structure Interval where
  lower : Nat
  upper : Nat
  closed : Bool

def Interval.contains (interval : Interval) (value : Nat) : Bool :=
  if interval.closed then interval.lower ≤ value && value ≤ interval.upper
  else interval.lower < value && value < interval.upper

/-- The magnitude on the scale of the grids. -/
def scaled (x : Double) : Nat := 4 * x.magnitude * Nat.pow 10 gridBits

/-- Half a gap on both sides, the lower gap being smaller at a power of two; the ends round to
the number when its mantissa is even. -/
def interval (x : Double) : Interval :=
  let gap := Nat.pow 2 x.shift * Nat.pow 10 gridBits
  let below := if x.mantissa == 0x10000000000000 && x.shift != 0 then gap else 2 * gap
  ⟨x.scaled - below, x.scaled + 2 * gap, x.mantissa % 2 == 0⟩

/-- The grid point with `count` digits that reads back, when `places` digits of the scaled number
stand before the point of the grid scale. A tie is broken upwards or to the even digit. -/
def candidate? (x : Double) (tieUp : Bool) (places count : Nat) : Option Decimal :=
  let step := 4 * unitsPerOne * Nat.pow 10 (places - count)
  let low := x.scaled / step
  let high := low + 1
  let decimal (digits : Nat) : Decimal := ⟨digits, (places : Int) - count - gridBits⟩
  let hitsLow := low != 0 && x.interval.contains (low * step)
  let hitsHigh := x.interval.contains (high * step)
  let below := x.scaled - low * step
  let above := high * step - x.scaled
  if hitsLow && hitsHigh then
    if below < above || (below == above && !tieUp && low % 2 == 0) then some (decimal low)
    else some (decimal high)
  else if hitsLow then some (decimal low)
  else if hitsHigh then some (decimal high)
  else none

/-- The shortest decimal of a double other than zero. -/
def shortest (x : Double) (tieUp : Bool) : Decimal :=
  let places := Decimal.width (x.scaled / (4 * unitsPerOne))
  let counts := (List.range 17).map (· + 1)
  let found := counts.findSome? (x.candidate? tieUp places)
  Decimal.dropZeros 20 (found.getD ⟨0, 0⟩)

end Double

end RecordQuery
