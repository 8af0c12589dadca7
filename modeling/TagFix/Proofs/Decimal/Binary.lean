import TagFix.Decimal.Layout
import TagFix.Proofs.Double

/-!
# The number that a double stands for

The parts into which the bits of a double are taken are those of the double as it is unpacked, and
the exact rounding of such parts is that of the rational number they stand for.
-/

open Float.Model (Format UnpackedFloat)
open Float.Model.UnpackedFloat (Sign packComponents unpackExponent unpackMantissa unpackSign)

namespace TagFix.Decimal

/-! ## Parts -/

def isNegative : Sign → Bool
  | .negative => true
  | .positive => false

/-- The number that an unpacked double stands for. -/
def Binary.ofUnpacked : UnpackedFloat → Binary
  | .notANumber => .notANumber
  | .infinity sign => .infinite (isNegative sign)
  | .zero sign => .finite (isNegative sign) 0 (-1074)
  | .finite sign mantissa exponent _ => .finite (isNegative sign) mantissa exponent

/-- The digit before the fraction of a normal double is one. -/
theorem toNat_implicit (fraction : BitVec 52) :
    (1#1 ++ fraction).toNat = hiddenBit + fraction.toNat := by
  rw [BitVec.toNat_append, ← Nat.shiftLeft_add_eq_or_of_lt fraction.isLt]
  simp [Nat.shiftLeft_eq, hiddenBit]

section Fields

variable (bits : BitVec 64)

private theorem toNat_unpackExponent :
    (@unpackExponent .binary64 bits).toNat = bits.toNat / hiddenBit % 2048 := by
  simp [unpackExponent, Nat.shiftRight_eq_div_pow, hiddenBit]

private theorem toNat_unpackMantissa :
    (@unpackMantissa .binary64 bits).toNat = bits.toNat % hiddenBit := by
  simp [unpackMantissa, hiddenBit]

private theorem toNat_unpackSign :
    (@unpackSign .binary64 bits).toNat = bits.toNat / signBit := by
  have small := bits.isLt
  simp [unpackSign, Nat.shiftRight_eq_div_pow, signBit]
  omega

private theorem isNegative_unpackSign :
    isNegative (Sign.ofBitVec (@unpackSign .binary64 bits)) =
      (bits.toNat / signBit == 1) := by
  rw [← toNat_unpackSign]
  generalize @unpackSign .binary64 bits = sign
  revert sign
  decide

end Fields

/-- The parts of a double are those of the unpacked one. -/
theorem ofFloat_eq (x : Float) : Binary.ofFloat x = Binary.ofUnpacked x.toModel.unpack := by
  change (
    let bits := x.toModel.toBits.toBitVec.toNat
    let negative : Bool := bits / signBit == 1
    let field : Nat := bits / hiddenBit % 2048
    let fraction : Nat := bits % hiddenBit
    if field = 2047 then
      if fraction = 0 then Binary.infinite negative else .notANumber
    else if field = 0 then .finite negative fraction (-1074)
    else .finite negative (hiddenBit + fraction) ((field : Int) - 1075)) = _
  unfold Float.Model.unpack UnpackedFloat.unpack
  generalize x.toModel.toBits.toBitVec = bits
  simp only [← toNat_unpackExponent, ← toNat_unpackMantissa, ← isNegative_unpackSign]
  generalize Sign.ofBitVec (@unpackSign .binary64 bits) = sign
  have special : @unpackExponent .binary64 bits = -1#11 ↔
      (@unpackExponent .binary64 bits).toNat = 2047 := BitVec.toNat_inj.symm
  have least : @unpackExponent .binary64 bits = 0#11 ↔
      (@unpackExponent .binary64 bits).toNat = 0 := BitVec.toNat_inj.symm
  have whole : @unpackMantissa .binary64 bits = 0#52 ↔
      (@unpackMantissa .binary64 bits).toNat = 0 := BitVec.toNat_inj.symm
  have hidden := toNat_implicit (@unpackMantissa .binary64 bits)
  have bias : ((Format.binary64.exponentBias : Nat) : Int) = 1023 := rfl
  simp only [special, least, whole, hidden, bias]
  split
  · split <;> rfl
  · split
    · next zero =>
      split
      · next none =>
        rw [none]
        rfl
      · rw [zero]
        rfl
    · simp only [Binary.ofUnpacked, hiddenBit, Binary.finite.injEq, true_and]
      omega

/-! ## Signs -/

private theorem unpackSign_pack (sign : Sign) (mantissa : Nat) (exponent : Int)
    (positive : 0 < mantissa) :
    unpackSign (UnpackedFloat.pack .binary64 (.finite sign mantissa exponent positive)) =
      sign.toBitVec := by
  unfold UnpackedFloat.pack
  dsimp only
  split
  · exact Double.unpackSign_packComponents
  · split
    · exact Double.unpackSign_packComponents
    · exact Double.unpackSign_packComponents

private theorem sign_of_unpack_infinity {bits : BitVec 64} {sign : Sign}
    (infinite : UnpackedFloat.unpack .binary64 bits = .infinity sign) :
    sign = Sign.ofBitVec (@unpackSign .binary64 bits) := by
  unfold UnpackedFloat.unpack at infinite
  dsimp only at infinite
  split at infinite
  · split at infinite
    · exact (UnpackedFloat.infinity.inj infinite).symm
    · cases infinite
  · split at infinite
    · split at infinite <;> cases infinite
    · cases infinite

/-- A finite number that is too large becomes the infinity of its sign. -/
theorem sign_of_pack_infinity {sign packed : Sign} {mantissa : Nat} {exponent : Int}
    {positive : 0 < mantissa}
    (infinite : (Float.Model.pack (.finite sign mantissa exponent positive)).unpack =
      .infinity packed) : packed = sign := by
  have signed := sign_of_unpack_infinity infinite
  rwa [Float.Model.pack, UInt64.toBitVec_ofBitVec, unpackSign_pack, Double.ofBitVec_toBitVec]
    at signed

/-- Rounding keeps the sign. -/
theorem roundWithAccuracy_cases (sign : Sign) (mantissa : Nat) (exponent : Int)
    (accuracy : UnpackedFloat.Accuracy) :
    UnpackedFloat.roundWithAccuracy .binary64 sign mantissa exponent accuracy = .zero sign ∨
      ∃ rounded last positive,
        UnpackedFloat.roundWithAccuracy .binary64 sign mantissa exponent accuracy =
          .finite sign rounded last positive := by
  unfold UnpackedFloat.roundWithAccuracy
  dsimp only
  split
  · exact Or.inl rfl
  · next nonzero => exact Or.inr ⟨_, _, Nat.pos_of_ne_zero nonzero, rfl⟩

/-! ## Rounding -/

/-- Halves go up when a half is added before the division. -/
theorem roundDiv_awayFromZero (numerator : Nat) {denominator : Nat} (positive : 0 < denominator) :
    roundDiv .awayFromZero numerator denominator =
      (2 * numerator + denominator) / (2 * denominator) := by
  have whole := Nat.div_add_mod numerator denominator
  have small := Nat.mod_lt numerator positive
  unfold roundDiv
  generalize numerator / denominator = floor at whole ⊢
  generalize numerator % denominator = rest at whole small ⊢
  dsimp only
  by_cases down : 2 * rest < denominator
  · rw [if_pos down]
    symm
    apply Nat.div_eq_of_lt_le
    · linarith
    · linarith
  · rw [if_neg down, ite_self]
    symm
    apply Nat.div_eq_of_lt_le
    · linarith
    · linarith

/-- Halves are rounded away from zero. -/
theorem roundDiv_eq_round (numerator : Nat) {denominator : Nat} (positive : 0 < denominator) :
    (roundDiv .awayFromZero numerator denominator : Int) =
      round (numerator / denominator : ℚ) := by
  have nonzero : (denominator : ℚ) ≠ 0 := Nat.cast_ne_zero.mpr (Nat.ne_of_gt positive)
  have half : (numerator / denominator + 1 / 2 : ℚ) =
      ((2 * numerator + denominator : Nat) : ℚ) / ((2 * denominator : Nat) : ℚ) := by
    push_cast
    field_simp
  rw [round_eq, half, Rat.floor_natCast_div_natCast, roundDiv_awayFromZero numerator positive,
    Int.natCast_ediv]

private theorem quotient_positive (mantissa : Nat) (exponent : Int) :
    0 < (quotient mantissa exponent).2 := by
  unfold quotient
  split
  · exact Nat.one_pos
  · exact Nat.two_pow_pos _

private theorem quotient_eq (mantissa : Nat) (exponent : Int) :
    ((quotient mantissa exponent).1 / (quotient mantissa exponent).2 : ℚ) =
      mantissa * 2 ^ exponent := by
  unfold quotient
  split
  · next large =>
    obtain ⟨places, rfl⟩ := Int.eq_ofNat_of_zero_le large
    simp
  · next small =>
    obtain ⟨places, same⟩ := Int.eq_ofNat_of_zero_le (by omega : 0 ≤ -exponent)
    obtain rfl : exponent = -places := by omega
    simp [div_eq_mul_inv]

theorem roundScaled_eq_round (mantissa : Nat) (exponent : Int) :
    (roundScaled .awayFromZero 1 mantissa exponent : Int) =
      round (mantissa * 2 ^ exponent : ℚ) := by
  rw [← quotient_eq, ← roundDiv_eq_round _ (quotient_positive mantissa exponent)]
  simp only [roundScaled, Nat.mul_one]

end TagFix.Decimal
