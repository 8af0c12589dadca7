import TagFix.Decimal.Binary

/-!
The fewest decimal digits that read back as a given double, and among those the nearest to it. Two
decimals of the same length can be equally near, and then a rule for ties chooses.

All decimals strictly between the midpoints to the two neighbouring doubles read back as the
double between them; the midpoints themselves do so when its mantissa is even. If a grid of
decimals meets this interval at all, then one of the two grid points beside the double lies in it,
so it is enough to look at those two, grid by grid.
-/

namespace TagFix

/-- A positive decimal: `digits` times ten to the `exponent`. -/
structure Decimal where
  digits : Nat
  exponent : Int
deriving DecidableEq, Repr

namespace Decimal

/-- The decimals that read back as one double, in units of a quarter of its last place: the double
itself and the midpoints to its neighbours. -/
structure Interval where
  low : Nat
  middle : Nat
  high : Nat
  closed : Bool
  exponent : Int
deriving Repr

/-- The interval of a positive double. Below a power of two the doubles lie twice as dense, so
the midpoint under it is half as far away. -/
def Interval.ofBinary (mantissa : Nat) (exponent : Int) : Interval :=
  { low := if mantissa = hiddenBit ∧ -1074 < exponent then 4 * mantissa - 1 else 4 * mantissa - 2
    middle := 4 * mantissa
    high := 4 * mantissa + 2
    closed := mantissa % 2 == 0
    exponent := exponent - 2 }

def tenPower (exponent : Int) : Nat × Nat :=
  if 0 ≤ exponent then (Nat.pow 10 exponent.toNat, 1) else (1, Nat.pow 10 (-exponent).toNat)

/-- The least `k ≥ start` with `numerator * 10 ^ k ≥ denominator`, or `start + fuel`. -/
def leastScale (numerator denominator : Nat) : Nat → Nat → Nat
  | 0, start => start
  | fuel + 1, start =>
      if denominator ≤ numerator * Nat.pow 10 start then start
      else leastScale numerator denominator fuel (start + 1)

/-- The number of digits before the point of a positive quotient; zero or less when its first
digit stands behind the point. -/
def magnitude (numerator denominator : Nat) : Int :=
  if denominator ≤ numerator then ((Nat.toDigits 10 (numerator / denominator)).length : Int)
  else 1 - (leastScale numerator denominator 400 1 : Int)

/-- The nearer of the two points of the grid of multiples of 10^`place` beside the middle of an
interval, if it reads back. -/
def Interval.pointOnGrid? (tie : Tie) (interval : Interval) (place : Int) : Option Nat :=
  let (unit, unitPart) := tenPower place
  let (power, powerPart) := quotient 1 interval.exponent
  let scaled := fun n => n * power * unitPart
  let step := powerPart * unit
  let inside := fun candidate =>
    let value := candidate * step
    if interval.closed then scaled interval.low ≤ value ∧ value ≤ scaled interval.high
    else scaled interval.low < value ∧ value < scaled interval.high
  let below := scaled interval.middle / step
  let nearest := roundDiv tie (scaled interval.middle) step
  if inside nearest then some nearest
  else if inside below then some below
  else if inside (below + 1) then some (below + 1)
  else none

/-- The first grid of at least `count` digits with a point in the interval. -/
def Interval.search (tie : Tie) (interval : Interval) (magnitude : Int) : Nat → Nat → Decimal
  | 0, count => ⟨0, magnitude - count⟩
  | fuel + 1, count =>
      match interval.pointOnGrid? tie (magnitude - count) with
      | some digits => ⟨digits, magnitude - count⟩
      | none => interval.search tie magnitude fuel (count + 1)

def strip : Nat → Decimal → Decimal
  | 0, decimal => decimal
  | fuel + 1, decimal =>
      if decimal.digits ≠ 0 ∧ decimal.digits % 10 = 0 then
        strip fuel ⟨decimal.digits / 10, decimal.exponent + 1⟩
      else decimal

/-- The fewest digits that read back as the double with this positive mantissa. Seventeen are
always enough. -/
def shortest (tie : Tie) (mantissa : Nat) (exponent : Int) : Decimal :=
  let interval := Interval.ofBinary mantissa exponent
  let (numerator, denominator) := quotient mantissa exponent
  (interval.search tie (magnitude numerator denominator) 17 1).strip 20

end Decimal

end TagFix
