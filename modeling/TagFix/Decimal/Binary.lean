/-!
A double taken apart into the exact number it stands for, and exact rounding of such numbers.
-/

namespace TagFix.Decimal

/-- What a double stands for: no number, an infinity, or a mantissa times a power of two. -/
inductive Binary
  | notANumber
  | infinite (negative : Bool)
  | finite (negative : Bool) (mantissa : Nat) (exponent : Int)
deriving DecidableEq, Repr

/-- The weight of the sign in the bits of a double. -/
def signBit : Nat := 9223372036854775808

/-- The weight of the digit before the fraction of a double. -/
def hiddenBit : Nat := 4503599627370496

/-- The parts of a double: a sign bit, eleven bits of exponent and 52 bits of fraction. The least
exponent has no hidden leading bit and the greatest stands for the infinities and for no number. -/
def Binary.ofFloat (x : Float) : Binary :=
  let bits := x.toBits.toNat
  let negative : Bool := bits / signBit == 1
  let field : Nat := bits / hiddenBit % 2048
  let fraction : Nat := bits % hiddenBit
  if field = 2047 then
    if fraction = 0 then .infinite negative else .notANumber
  else if field = 0 then .finite negative fraction (-1074)
  else .finite negative (hiddenBit + fraction) ((field : Int) - 1075)

/-- What becomes of a quotient that lies halfway between two integers. -/
inductive Tie
  | toEven
  | awayFromZero
deriving DecidableEq, Repr

def roundDiv (tie : Tie) (numerator denominator : Nat) : Nat :=
  let floor := numerator / denominator
  let twice := 2 * (numerator % denominator)
  if twice < denominator then floor
  else if denominator < twice then floor + 1
  else
    match tie with
    | .awayFromZero => floor + 1
    | .toEven => if floor % 2 = 0 then floor else floor + 1

/-- A mantissa times a power of two, as a quotient of natural numbers. -/
def quotient (mantissa : Nat) (exponent : Int) : Nat × Nat :=
  if 0 ≤ exponent then (mantissa * Nat.pow 2 exponent.toNat, 1)
  else (mantissa, Nat.pow 2 (-exponent).toNat)

/-- The integer nearest to `scale` times the magnitude of a binary number. -/
def roundScaled (tie : Tie) (scale mantissa : Nat) (exponent : Int) : Nat :=
  let (numerator, denominator) := quotient mantissa exponent
  roundDiv tie (numerator * scale) denominator

end TagFix.Decimal
