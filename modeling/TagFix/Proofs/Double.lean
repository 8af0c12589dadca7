import Mathlib

/-!
# Doubles

What the rounding of doubles comes to for numbers of normal size: a result of 53 or 54 bits changes
by less than the last bit that is left of it, and the double that is packed is the one that is
unpacked again.
-/

open Float.Model (Format UnpackedFloat totalExponent)
open Float.Model.UnpackedFloat

namespace TagFix.Double

/-! ## Packing -/

theorem unpackSign_packComponents {format : Format} {sign : Sign}
    {exponent : BitVec format.exponentBits}
    {mantissa : BitVec format.mantissaBitsWithoutImplicit} :
    unpackSign (packComponents format sign exponent mantissa) = sign.toBitVec := by
  ext index inside
  obtain rfl : index = 0 := by omega
  simp [unpackSign, packComponents, BitVec.getLsbD_append, BitVec.getElem_append]

theorem sign_mul_positive (sign : Sign) : sign * Sign.positive = sign := by
  cases sign <;> rfl

theorem ofBitVec_toBitVec (sign : Sign) : Sign.ofBitVec sign.toBitVec = sign := by
  cases sign <;> rfl

/-- The sign, the mantissa of 53 bits and the exponent of a normal double. -/
def Normal (mantissa : Nat) (exponent : Int) : Prop :=
  2 ^ 52 ≤ mantissa ∧ mantissa < 2 ^ 53 ∧ -1074 ≤ exponent ∧ exponent ≤ 971

/-- A normal double is packed into its fields. -/
theorem pack_eq {mantissa biased : Nat} {exponent : Int} (normal : Normal mantissa exponent)
    (same : exponent = biased - 1075) (sign : Sign) (positive : 0 < mantissa) :
    UnpackedFloat.pack .binary64 (.finite sign mantissa exponent positive) =
      packComponents .binary64 sign (BitVec.ofNat 11 biased) (BitVec.ofNat 52 mantissa) := by
  obtain ⟨lower, upper, least, greatest⟩ := normal
  have bits : mantissa.log2 = 52 := (Nat.log2_eq_iff (by omega)).mpr ⟨lower, upper⟩
  have value : (exponent + 1023 + 52).toNat = biased := by omega
  simp [UnpackedFloat.pack, Format.exponentBias, Format.mantissaBits, bits, value]
  omega

/-- A normal double is read as it was packed. -/
theorem unpack_pack {mantissa : Nat} {exponent : Int} (normal : Normal mantissa exponent)
    (sign : Sign) (positive : 0 < mantissa) :
    (Float.Model.pack (.finite sign mantissa exponent positive)).unpack =
      .finite sign mantissa exponent positive := by
  have bounds := normal
  obtain ⟨lower, upper, least, greatest⟩ := bounds
  obtain ⟨biased, same⟩ : ∃ biased : Nat, exponent = biased - 1075 :=
    ⟨(exponent + 1075).toNat, by omega⟩
  have value : (BitVec.ofNat 11 biased).toNat = biased := by
    rw [BitVec.toNat_ofNat]
    omega
  have finite : BitVec.ofNat 11 biased ≠ -1#11 := by
    intro special
    rw [special] at value
    simp at value
    omega
  have large : BitVec.ofNat 11 biased ≠ 0#11 := by
    intro small
    rw [small] at value
    simp at value
    omega
  have implicit : (1#1 ++ BitVec.ofNat 52 mantissa).toNat = mantissa := by
    rw [BitVec.toNat_append, BitVec.toNat_ofNat, ← Nat.shiftLeft_add_eq_or_of_lt (by omega)]
    simp [Nat.shiftLeft_eq]
    omega
  unfold Float.Model.unpack Float.Model.pack
  simp only [pack_eq normal same, UnpackedFloat.unpack, unpackExponent_packComponents,
    unpackMantissa_packComponents, unpackSign_packComponents, ofBitVec_toBitVec, finite, large,
    if_false, implicit, value]
  congr 1
  simp [Format.exponentBias]
  omega

/-! ## Shifts -/

theorem log2_eq {mantissa bits : Nat} (lower : 2 ^ bits ≤ mantissa)
    (upper : mantissa < 2 ^ (bits + 1)) : mantissa.log2 = bits := by
  have positive := Nat.two_pow_pos bits
  exact (Nat.log2_eq_iff (by omega)).mpr ⟨lower, upper⟩

theorem targetExponent_eq (mantissa : Nat) (exponent : Int) :
    Format.binary64.targetExponent (totalExponent mantissa exponent) =
      max (exponent + mantissa.log2 - 52) (-1074) := by
  simp [Format.targetExponent, totalExponent, Format.mantissaBits, Format.minExponent]
  omega

/-- A mantissa of at most 53 bits is not shifted. -/
theorem shift_narrow {mantissa : Nat} {exponent : Int} (accuracy : Accuracy)
    (upper : mantissa < 2 ^ 53) (least : -1074 ≤ exponent) :
    shiftToTargetExponent .binary64 mantissa exponent accuracy =
      (.ofMantissaAndAccuracy mantissa accuracy, exponent) := by
  have bits : mantissa.log2 ≤ 52 := by
    by_cases zero : mantissa = 0
    · simp [zero]
    · exact Nat.le_of_lt_succ ((Nat.log2_lt zero).mpr upper)
  have none : (max (exponent + mantissa.log2 - 52) (-1074) - exponent).toNat = 0 := by omega
  rw [shiftToTargetExponent, targetExponent_eq, shiftToExponent, none]
  simp [HShiftRight.hShiftRight, Nat.repeat]

/-- A mantissa of 54 bits is shifted by one. -/
theorem shift_wide {mantissa : Nat} {exponent : Int} (accuracy : Accuracy)
    (lower : 2 ^ 53 ≤ mantissa) (upper : mantissa < 2 ^ 54) (least : -1074 ≤ exponent) :
    shiftToTargetExponent .binary64 mantissa exponent accuracy =
      ((ExtendedMantissa.ofMantissaAndAccuracy mantissa accuracy).shiftRightOne, exponent + 1) := by
  have one : (max (exponent + mantissa.log2 - 52) (-1074) - exponent).toNat = 1 := by
    have bits := log2_eq lower upper
    omega
  rw [shiftToTargetExponent, targetExponent_eq, shiftToExponent, one]
  simp [HShiftRight.hShiftRight, Nat.repeat]

/-! ## Rounding -/

theorem mantissa_ofMantissaAndAccuracy (mantissa : Nat) (accuracy : Accuracy) :
    (ExtendedMantissa.ofMantissaAndAccuracy mantissa accuracy).mantissa = mantissa := by
  rcases accuracy with _ | ordering
  · rfl
  · cases ordering <;> rfl

private theorem mantissa_shiftRightOne (extended : ExtendedMantissa) :
    extended.shiftRightOne.mantissa = extended.mantissa / 2 := rfl

/-- Rounding leaves a mantissa as it is or adds one. -/
theorem roundedMantissa_near (extended : ExtendedMantissa) :
    extended.mantissa ≤ extended.roundedMantissa ∧
      extended.roundedMantissa ≤ extended.mantissa + 1 := by
  obtain ⟨mantissa, roundBit, stickyBit⟩ := extended
  cases roundBit <;> cases stickyBit <;>
    simp [ExtendedMantissa.roundedMantissa, ExtendedMantissa.accuracy,
      Accuracy.roundToNearestEven]
  omega

section Rounding

variable {mantissa : Nat} {exponent shifted : Int} {accuracy : Accuracy}
  {extended : ExtendedMantissa}

/-- A mantissa that is rounded to at most 53 bits stays at the exponent that the shift gave it. -/
theorem roundWithAccuracy_of_shift (sign : Sign)
    (shift : shiftToTargetExponent .binary64 mantissa exponent accuracy = (extended, shifted))
    (positive : 0 < extended.roundedMantissa) (fits : extended.roundedMantissa < 2 ^ 53)
    (least : -1074 ≤ shifted) :
    roundWithAccuracy .binary64 sign mantissa exponent accuracy =
      .finite sign extended.roundedMantissa shifted positive := by
  simp only [roundWithAccuracy, shift, shift_narrow .exact fits least,
    mantissa_ofMantissaAndAccuracy]
  rw [dif_neg (Nat.ne_of_gt positive)]

/-- A mantissa that rounding makes too wide is halved. -/
theorem roundWithAccuracy_of_carry (sign : Sign)
    (shift : shiftToTargetExponent .binary64 mantissa exponent accuracy = (extended, shifted))
    (carry : extended.roundedMantissa = 2 ^ 53) (least : -1074 ≤ shifted) :
    roundWithAccuracy .binary64 sign mantissa exponent accuracy =
      .finite sign (2 ^ 52) (shifted + 1) (Nat.two_pow_pos 52) := by
  simp only [roundWithAccuracy, shift, carry,
    shift_wide .exact (Nat.le_refl _) (by decide : 2 ^ 53 < 2 ^ 54) least]
  rfl

/-- That a mantissa and an exponent come from others by rounding to 53 bits: they differ by less
than one in the last place. -/
def Rounds (mantissa : Nat) (exponent : Int) (rounded : Nat) (shifted : Int) : Prop :=
  2 ^ 52 ≤ rounded ∧ rounded < 2 ^ 53 ∧
    (shifted = exponent ∧ mantissa ≤ rounded ∧ rounded ≤ mantissa + 1 ∨
      shifted = exponent + 1 ∧ mantissa ≤ 2 * rounded + 1 ∧ 2 * rounded ≤ mantissa + 2)

/-- What is shifted to 53 bits is rounded, and halved if that makes it too wide. -/
theorem exists_rounds_of_shift (sign : Sign)
    (shift : shiftToTargetExponent .binary64 mantissa exponent accuracy = (extended, shifted))
    (lower : 2 ^ 52 ≤ extended.mantissa) (upper : extended.mantissa < 2 ^ 53)
    (least : -1074 ≤ shifted) :
    ∃ rounded last positive, Rounds extended.mantissa shifted rounded last ∧
      roundWithAccuracy .binary64 sign mantissa exponent accuracy =
        .finite sign rounded last positive := by
  have near := roundedMantissa_near extended
  have positive : 0 < extended.roundedMantissa := by omega
  by_cases fits : extended.roundedMantissa < 2 ^ 53
  · refine ⟨_, _, positive, ?_, roundWithAccuracy_of_shift sign shift positive fits least⟩
    exact ⟨by omega, fits, Or.inl ⟨rfl, near⟩⟩
  · have carry : extended.roundedMantissa = 2 ^ 53 := by omega
    refine ⟨2 ^ 52, shifted + 1, by decide, ?_, roundWithAccuracy_of_carry sign shift carry least⟩
    exact ⟨Nat.le_refl _, by decide, Or.inr ⟨rfl, by omega, by omega⟩⟩

/-- A mantissa of 53 or 54 bits is rounded to 53, whatever is known about its accuracy. -/
theorem exists_roundWithAccuracy (sign : Sign) (accuracy : Accuracy) (lower : 2 ^ 52 ≤ mantissa)
    (upper : mantissa + 2 < 2 ^ 54) (least : -1074 ≤ exponent) :
    ∃ rounded shifted positive, Rounds mantissa exponent rounded shifted ∧
      roundWithAccuracy .binary64 sign mantissa exponent accuracy =
        .finite sign rounded shifted positive := by
  by_cases narrow : mantissa < 2 ^ 53
  · have same := mantissa_ofMantissaAndAccuracy mantissa accuracy
    have rounds := exists_rounds_of_shift sign (shift_narrow accuracy narrow least)
      (by omega) (by omega) least
    rwa [same] at rounds
  · have wide : 2 ^ 53 ≤ mantissa := Nat.le_of_not_lt narrow
    have bounded : mantissa < 2 ^ 54 := by omega
    have shift := shift_wide accuracy wide bounded least
    have near := roundedMantissa_near
      (ExtendedMantissa.ofMantissaAndAccuracy mantissa accuracy).shiftRightOne
    rw [mantissa_shiftRightOne, mantissa_ofMantissaAndAccuracy] at near
    generalize (ExtendedMantissa.ofMantissaAndAccuracy mantissa accuracy).shiftRightOne = extended
      at shift near
    have positive : 0 < extended.roundedMantissa := by omega
    refine ⟨_, _, positive, ?_,
      roundWithAccuracy_of_shift sign shift positive (by omega) (by omega)⟩
    exact ⟨by omega, by omega, Or.inr ⟨rfl, by omega, by omega⟩⟩

/-- What is shifted out of an exact mantissa that ends in zeros is nothing. -/
theorem shiftRight_exact (mantissa zeros : Nat) :
    ExtendedMantissa.ofMantissaAndAccuracy (mantissa * 2 ^ zeros) .exact >>> zeros =
      .ofMantissaAndAccuracy mantissa .exact := by
  induction zeros generalizing mantissa with
  | zero => simp [HShiftRight.hShiftRight, Nat.repeat]
  | succ zeros inductionHypothesis =>
      have halved := inductionHypothesis (mantissa * 2)
      rw [Nat.mul_assoc, ← Nat.pow_succ'] at halved
      change (ExtendedMantissa.ofMantissaAndAccuracy _ .exact >>> zeros).shiftRightOne = _
      rw [halved]
      simp [ExtendedMantissa.ofMantissaAndAccuracy, ExtendedMantissa.shiftRightOne]

theorem mantissa_shiftRight (extended : ExtendedMantissa) (places : Nat) :
    (extended >>> places).mantissa = extended.mantissa / 2 ^ places := by
  induction places with
  | zero => simp [HShiftRight.hShiftRight, Nat.repeat]
  | succ places inductionHypothesis =>
      change (extended >>> places).mantissa / 2 = _
      rw [inductionHypothesis, Nat.div_div_eq_div_mul, ← Nat.pow_succ]

/-- Of a mantissa of more than 53 bits the first 53 are left. -/
theorem shift_of_bits {places : Nat} (accuracy : Accuracy) (lower : 2 ^ (52 + places) ≤ mantissa)
    (upper : mantissa < 2 ^ (52 + places + 1)) (least : -1074 ≤ exponent) :
    shiftToTargetExponent .binary64 mantissa exponent accuracy =
      (ExtendedMantissa.ofMantissaAndAccuracy mantissa accuracy >>> places,
        exponent + places) := by
  have bits := log2_eq lower upper
  have amount : (max (exponent + mantissa.log2 - 52) (-1074) - exponent).toNat = places := by omega
  rw [shiftToTargetExponent, targetExponent_eq, shiftToExponent, amount]

/-- An exact result of 53 bits and zeros behind them is kept. -/
theorem roundWithAccuracy_exact (sign : Sign) (zeros : Nat) (exponent : Int)
    (lower : 2 ^ 52 ≤ mantissa) (upper : mantissa < 2 ^ 53) (least : -1074 ≤ exponent)
    (positive : 0 < mantissa) :
    roundWithAccuracy .binary64 sign (mantissa * 2 ^ zeros) exponent .exact =
      .finite sign mantissa (exponent + zeros) positive := by
  have lowerThen : 2 ^ (52 + zeros) ≤ mantissa * 2 ^ zeros := by
    rw [Nat.pow_add]
    exact Nat.mul_le_mul_right _ lower
  have upperThen : mantissa * 2 ^ zeros < 2 ^ (52 + zeros + 1) := by
    rw [Nat.add_right_comm, Nat.pow_add]
    exact Nat.mul_lt_mul_of_pos_right upper (Nat.two_pow_pos zeros)
  have shift := shift_of_bits .exact lowerThen upperThen least
  rw [shiftRight_exact] at shift
  exact roundWithAccuracy_of_shift sign shift positive upper (by omega)

/-- A mantissa of more bits is cut to 53 and rounded. -/
theorem exists_rounds_of_bits (places : Nat) (sign : Sign) (accuracy : Accuracy)
    (lower : 2 ^ (52 + places) ≤ mantissa) (upper : mantissa < 2 ^ (52 + places + 1))
    (least : -1074 ≤ exponent) :
    ∃ rounded last positive,
      Rounds (mantissa / 2 ^ places) (exponent + places) rounded last ∧
        roundWithAccuracy .binary64 sign mantissa exponent accuracy =
          .finite sign rounded last positive := by
  have cut := mantissa_shiftRight (.ofMantissaAndAccuracy mantissa accuracy) places
  rw [mantissa_ofMantissaAndAccuracy] at cut
  have enough : 2 ^ 52 ≤ mantissa / 2 ^ places := by
    rw [Nat.le_div_iff_mul_le (Nat.two_pow_pos places), ← Nat.pow_add]
    exact lower
  have fits : mantissa / 2 ^ places < 2 ^ 53 := by
    rw [Nat.div_lt_iff_lt_mul (Nat.two_pow_pos places), ← Nat.pow_add, Nat.add_right_comm 52 1]
    exact upper
  rw [← cut] at enough fits ⊢
  exact exists_rounds_of_shift sign (shift_of_bits accuracy lower upper least) enough fits
    (by omega)

end Rounding

/-! ## Products and quotients -/

/-- A number times one is the number again. -/
theorem mul_one_eq {mantissa : Nat} {exponent : Int} (normal : Normal mantissa exponent)
    (least : -1022 ≤ exponent) (sign : Sign) (positive : 0 < mantissa) :
    UnpackedFloat.mul .binary64 (.finite sign mantissa exponent positive)
        (.finite .positive (2 ^ 52) (-52) (Nat.two_pow_pos 52)) =
      .finite sign mantissa exponent positive := by
  have kept := roundWithAccuracy_exact sign 52 (exponent + -52) normal.1 normal.2.1 (by omega)
    positive
  rw [show exponent + -52 + (52 : Nat) = exponent by omega] at kept
  rw [UnpackedFloat.mul, sign_mul_positive, kept]

/-- The product of two mantissas of 53 bits has 105 or 106 bits, of which 53 are kept. -/
theorem exists_mul {mantissa₁ mantissa₂ : Nat} {exponent₁ exponent₂ : Int} (sign₁ sign₂ : Sign)
    (normal₁ : Normal mantissa₁ exponent₁) (normal₂ : Normal mantissa₂ exponent₂)
    (least : -1074 ≤ exponent₁ + exponent₂) (positive₁ : 0 < mantissa₁)
    (positive₂ : 0 < mantissa₂) :
    ∃ (places : Nat) (rounded : Nat) (last : Int) (positive : 0 < rounded),
      (places = 52 ∨ places = 53) ∧
      Rounds (mantissa₁ * mantissa₂ / 2 ^ places) (exponent₁ + exponent₂ + places) rounded last ∧
        UnpackedFloat.mul .binary64 (.finite sign₁ mantissa₁ exponent₁ positive₁)
            (.finite sign₂ mantissa₂ exponent₂ positive₂) =
          .finite (sign₁ * sign₂) rounded last positive := by
  have lower : 2 ^ 52 * 2 ^ 52 ≤ mantissa₁ * mantissa₂ := Nat.mul_le_mul normal₁.1 normal₂.1
  have upper : mantissa₁ * mantissa₂ < 2 ^ 53 * 2 ^ 53 :=
    Nat.mul_lt_mul'' normal₁.2.1 normal₂.2.1
  by_cases narrow : mantissa₁ * mantissa₂ < 2 ^ 105
  · obtain ⟨rounded, last, positive, rounds, result⟩ :=
      exists_rounds_of_bits 52 (sign₁ * sign₂) .exact lower narrow least
    exact ⟨52, rounded, last, positive, Or.inl rfl, rounds, result⟩
  · obtain ⟨rounded, last, positive, rounds, result⟩ :=
      exists_rounds_of_bits 53 (sign₁ * sign₂) .exact (Nat.le_of_not_lt narrow) upper least
    exact ⟨53, rounded, last, positive, Or.inr rfl, rounds, result⟩

/-- The quotient of two mantissas of 53 bits is taken to 53 more bits and then rounded. -/
theorem div_eq {mantissa₁ mantissa₂ : Nat} {exponent₁ exponent₂ : Int} (sign₁ sign₂ : Sign)
    (normal₁ : Normal mantissa₁ exponent₁) (normal₂ : Normal mantissa₂ exponent₂)
    (least : -1021 ≤ exponent₁ - exponent₂) (positive₁ : 0 < mantissa₁)
    (positive₂ : 0 < mantissa₂) :
    UnpackedFloat.div .binary64 (.finite sign₁ mantissa₁ exponent₁ positive₁)
        (.finite sign₂ mantissa₂ exponent₂ positive₂) =
      roundWithAccuracy .binary64 (sign₁ / sign₂) (mantissa₁ * 2 ^ 53 / mantissa₂)
        (exponent₁ - exponent₂ - 53)
        (accuracyOfFraction (mantissa₁ * 2 ^ 53 % mantissa₂) mantissa₂) := by
  have log₁ := log2_eq normal₁.1 normal₁.2.1
  have log₂ := log2_eq normal₂.1 normal₂.2.1
  have target : min (exponent₁ - exponent₂) (Format.binary64.targetExponent
      (totalExponent mantissa₁ exponent₁ - totalExponent mantissa₂ exponent₂)) =
        exponent₁ - exponent₂ - 53 := by
    simp only [Format.targetExponent, totalExponent, Format.mantissaBits, Format.minExponent, log₁,
      log₂]
    omega
  have amount : (exponent₁ - exponent₂ - (exponent₁ - exponent₂ - 53)).toNat = 53 := by omega
  simp only [UnpackedFloat.div, divCore, target, amount, Nat.shiftLeft_eq]

/-! ## Integers -/

/-- The mantissa of a positive integer of so many bits, of which the first is not counted. -/
def integerMantissa (number bits : Nat) : Nat :=
  number * 2 ^ (52 - bits)

/-- The sign of an integer; zero counts as positive. -/
def signOf (number : Int) : Sign :=
  if number < 0 then .negative else .positive

section Integers

variable {number bits : Nat} (lower : 2 ^ bits ≤ number) (upper : number < 2 ^ (bits + 1))
  (narrow : bits ≤ 52)

include lower upper narrow

/-- An integer of at most 53 bits fills the mantissa of a normal double from the left. -/
theorem normal_integerMantissa : Normal (integerMantissa number bits) (bits - 52) := by
  have power : 2 ^ bits * 2 ^ (52 - bits) = 2 ^ 52 := by
    rw [← Nat.pow_add, Nat.add_sub_cancel' narrow]
  have wider : 2 ^ (bits + 1) * 2 ^ (52 - bits) = 2 ^ 53 := by
    rw [← Nat.pow_add, Nat.add_right_comm, Nat.add_sub_cancel' narrow]
  refine ⟨?_, ?_, by omega, by omega⟩
  · rw [← power]
    exact Nat.mul_le_mul_right _ lower
  · rw [← wider]
    exact Nat.mul_lt_mul_of_pos_right upper (Nat.two_pow_pos _)

/-- Integers of at most 53 bits are exact. -/
theorem round_exact (sign : Sign) (positive : 0 < integerMantissa number bits) :
    UnpackedFloat.round .binary64 sign number 0 =
      .finite sign (integerMantissa number bits) (bits - 52) positive := by
  obtain ⟨wide, fits, least, greatest⟩ := normal_integerMantissa lower upper narrow
  have target : max ((0 : Int) + number.log2 - 52) (-1074) = bits - 52 := by
    have log := log2_eq lower upper
    omega
  have amount : ((0 : Int) - (bits - 52)).toNat = 52 - bits := by omega
  have exponent : (0 : Int) - ((52 - bits : Nat) : Int) = bits - 52 := by omega
  have kept := roundWithAccuracy_exact sign 0 (bits - 52) wide fits least positive
  rw [Nat.pow_zero, Nat.mul_one] at kept
  simp only [UnpackedFloat.round, targetExponent_eq, target, decreaseExponent, amount,
    Nat.shiftLeft_eq, exponent]
  simpa [integerMantissa] using kept

omit lower in
private theorem lt_of_narrow : number < 2 ^ 53 :=
  Nat.lt_of_lt_of_le upper (Nat.pow_le_pow_right (by decide) (Nat.succ_le_succ narrow))

private theorem unpack_toFloat (positive : 0 < integerMantissa number bits) :
    number.toUInt64.toFloat.toModel.unpack =
      .finite .positive (integerMantissa number bits) (bits - 52) positive := by
  have small := lt_of_narrow upper narrow
  have value : number.toUInt64.toNat = number := by
    rw [Nat.toUInt64, UInt64.toNat_ofNat']
    exact Nat.mod_eq_of_lt (by omega)
  have nonzero : 0 < number := Nat.lt_of_lt_of_le (Nat.two_pow_pos bits) lower
  have rounded := round_exact lower upper narrow .positive positive
  change (Float.Model.pack (UnpackedFloat.normalize .binary64 (number.toUInt64.toNat : Int) 0
    .positive)).unpack = _
  rw [value, UnpackedFloat.normalize, Int.compare_eq_gt.mpr (by omega : (number : Int) > 0),
    Int.toNat_natCast, rounded]
  exact unpack_pack (normal_integerMantissa lower upper narrow) _ _

private theorem unpack_ofNat (positive : 0 < integerMantissa number bits) :
    (Float.ofNat number).toModel.unpack =
      .finite .positive (integerMantissa number bits) (bits - 52) positive := by
  have normal := normal_integerMantissa lower upper narrow
  -- The conversion is that of a decimal without a fraction, which multiplies by the power zero of
  -- ten.
  have plain : Float.ofNat number = number.toUInt64.toFloat * Float.ofBits 0x3FF0000000000000 := by
    unfold Float.ofNat OfScientific.ofScientific instOfScientificFloat
    simp only [Float.ofScientific]
    rw [dif_pos ⟨lt_of_narrow upper narrow, by decide⟩]
    rfl
  have one : (Float.ofBits 0x3FF0000000000000).toModel.unpack =
      .finite .positive (2 ^ 52) (-52) (Nat.two_pow_pos 52) := rfl
  rw [plain]
  change (Float.Model.pack (UnpackedFloat.mul .binary64 number.toUInt64.toFloat.toModel.unpack
    (Float.ofBits 0x3FF0000000000000).toModel.unpack)).unpack = _
  rw [unpack_toFloat lower upper narrow positive, one, mul_one_eq normal (by omega)]
  exact unpack_pack normal _ _

end Integers

/-- Integers of at most 53 bits are exact, whatever their sign. -/
theorem unpack_ofInt {number : Int} {bits : Nat} (lower : 2 ^ bits ≤ number.natAbs)
    (upper : number.natAbs < 2 ^ (bits + 1)) (narrow : bits ≤ 52)
    (positive : 0 < integerMantissa number.natAbs bits) :
    (Float.ofInt number).toModel.unpack =
      .finite (signOf number) (integerMantissa number.natAbs bits) (bits - 52) positive := by
  cases number with
  | ofNat number =>
      rw [signOf, if_neg (Int.not_lt.mpr (Int.natCast_nonneg number) : ¬Int.ofNat number < 0)]
      exact unpack_ofNat lower upper narrow positive
  | negSucc number =>
      have magnitude : (Float.ofNat (number + 1)).toModel.unpack =
          .finite .positive (integerMantissa (number + 1) bits) (bits - 52) positive :=
        unpack_ofNat lower upper narrow positive
      change (Float.Model.pack (Float.ofNat (number + 1)).toModel.unpack.neg).unpack = _
      rw [magnitude, signOf, if_pos (Int.negSucc_lt_zero number)]
      exact unpack_pack (normal_integerMantissa lower upper narrow) _ _

end TagFix.Double
