import TagFix.Proofs.Double.Special

/-!
# The magnitude of doubles

How large the results of operations can be, told by the place of the first binary digit. A result
that is rounded has its first digit where the exact one has it, or one place higher, and is infinite
only from the place 1024 on.
-/

open Float.Model (Format UnpackedFloat totalExponent)
open Float.Model.UnpackedFloat

namespace TagFix.Double

/-! ## First digits -/

section Log

variable {number bits places : ℕ}

private theorem two_pow_log2_le (positive : 0 < number) : 2 ^ number.log2 ≤ number :=
  Nat.log2_self_le (Nat.ne_of_gt positive)

private theorem le_log2 (reaches : 2 ^ bits ≤ number) : bits ≤ number.log2 :=
  (Nat.le_log2 (Nat.ne_of_gt (Nat.lt_of_lt_of_le (Nat.two_pow_pos bits) reaches))).mpr reaches

private theorem log2_lt (some : 0 < bits) (below : number < 2 ^ bits) : number.log2 < bits := by
  by_cases zero : number = 0
  · rwa [zero, Nat.log2_zero]
  · exact (Nat.log2_lt zero).mpr below

private theorem log2_le_of_le (below : number ≤ 2 ^ bits) : number.log2 ≤ bits := by
  by_cases zero : number = 0
  · rw [zero, Nat.log2_zero]
    exact Nat.zero_le bits
  · by_contra above
    have steps := Nat.pow_lt_pow_right (by decide : 1 < 2) (Nat.lt_of_not_le above)
    have least := Nat.log2_self_le zero
    omega

private theorem log2_mul_two_pow (positive : 0 < number) (places : ℕ) :
    (number * 2 ^ places).log2 = number.log2 + places := by
  apply log2_eq
  · rw [Nat.pow_add]
    exact Nat.mul_le_mul_right _ (two_pow_log2_le positive)
  · rw [Nat.add_right_comm, Nat.pow_add]
    exact Nat.mul_lt_mul_of_pos_right Nat.lt_log2_self (Nat.two_pow_pos places)

end Log

/-! ## Rounding -/

/-- That a mantissa and an exponent are those of a double, be its exponent too large or not. -/
def Canonical (mantissa : ℕ) (exponent : ℤ) : Prop :=
  mantissa < 2 ^ 53 ∧ -1074 ≤ exponent ∧ (2 ^ 52 ≤ mantissa ∨ exponent = -1074)

/-- What a number whose first digit has the given place becomes by rounding: zero, or a double whose
first digit is at most one place higher. -/
inductive Rounded (sign : Sign) (first : ℤ) : UnpackedFloat → Prop
  | zero (low : first ≤ -1074) : Rounded sign first (.zero sign)
  | finite {mantissa : ℕ} {exponent : ℤ} (positive : 0 < mantissa)
      (canonical : Canonical mantissa exponent) (lower : first ≤ exponent + mantissa.log2)
      (upper : exponent + mantissa.log2 ≤ max (first + 1) (-1074)) :
      Rounded sign first (.finite sign mantissa exponent positive)

section Rounding

variable {mantissa : ℕ} {exponent : ℤ}

/-- That a mantissa has the digits of a double, or those that a double with the least exponent
keeps. -/
def Wide (mantissa : ℕ) (exponent : ℤ) : Prop :=
  52 ≤ mantissa.log2 ∨ exponent ≤ -1074

private theorem shift_places (places : ℕ) (accuracy : Accuracy)
    (same : exponent + places = max (exponent + mantissa.log2 - 52) (-1074)) :
    shiftToTargetExponent .binary64 mantissa exponent accuracy =
      (ExtendedMantissa.ofMantissaAndAccuracy mantissa accuracy >>> places,
        exponent + places) := by
  have amount : (max (exponent + mantissa.log2 - 52) (-1074) - exponent).toNat = places := by omega
  rw [shiftToTargetExponent, targetExponent_eq, shiftToExponent, amount]

private theorem mantissa_cut (mantissa places : ℕ) (accuracy : Accuracy) :
    (ExtendedMantissa.ofMantissaAndAccuracy mantissa accuracy >>> places).mantissa =
      mantissa / 2 ^ places := by
  rw [mantissa_shiftRight, mantissa_ofMantissaAndAccuracy]

private theorem roundWithAccuracy_of_nothing (sign : Sign) {accuracy : Accuracy} {shifted : ℤ}
    {extended : ExtendedMantissa}
    (shift : shiftToTargetExponent .binary64 mantissa exponent accuracy = (extended, shifted))
    (zero : extended.roundedMantissa = 0) (least : -1074 ≤ shifted) :
    roundWithAccuracy .binary64 sign mantissa exponent accuracy = .zero sign := by
  simp only [roundWithAccuracy, shift, zero, shift_narrow .exact (Nat.two_pow_pos 53) least,
    mantissa_ofMantissaAndAccuracy]
  rfl

private theorem rounded_of_normal (sign : Sign) (accuracy : Accuracy) (wide : 52 ≤ mantissa.log2)
    (normal : -1022 ≤ exponent + mantissa.log2) :
    Rounded sign (exponent + mantissa.log2)
      (roundWithAccuracy .binary64 sign mantissa exponent accuracy) := by
  obtain ⟨places, bits⟩ := Nat.exists_eq_add_of_le wide
  have positive : 0 < mantissa := by
    apply Nat.pos_of_ne_zero
    rintro rfl
    rw [Nat.log2_zero] at wide
    omega
  have shift := shift_places places accuracy
    (by omega : exponent + places = max (exponent + mantissa.log2 - 52) (-1074))
  have lower : 2 ^ 52 ≤ mantissa / 2 ^ places := by
    rw [Nat.le_div_iff_mul_le (Nat.two_pow_pos places), ← Nat.pow_add, ← bits]
    exact two_pow_log2_le positive
  have upper : mantissa / 2 ^ places < 2 ^ 53 := by
    rw [Nat.div_lt_iff_lt_mul (Nat.two_pow_pos places), ← Nat.pow_add, Nat.add_right_comm 52 1,
      ← bits]
    exact Nat.lt_log2_self
  rw [← mantissa_cut mantissa places accuracy] at lower upper
  obtain ⟨rounded, last, nonzero, ⟨most, fits, step⟩, result⟩ :=
    exists_rounds_of_shift sign shift lower upper (by omega)
  have digits : rounded.log2 = 52 := log2_eq most fits
  rw [result]
  exact .finite nonzero ⟨fits, by omega, Or.inl most⟩ (by omega) (by omega)

private theorem rounded_of_low (sign : Sign) (accuracy : Accuracy)
    (low : exponent + mantissa.log2 < -1022) (least : exponent ≤ -1074) :
    Rounded sign (exponent + mantissa.log2)
      (roundWithAccuracy .binary64 sign mantissa exponent accuracy) := by
  obtain ⟨places, shifted⟩ : ∃ places : ℕ, exponent + places = -1074 :=
    ⟨(-1074 - exponent).toNat, by omega⟩
  have shift := shift_places places accuracy
    (by omega : exponent + places = max (exponent + mantissa.log2 - 52) (-1074))
  have near := roundedMantissa_near
    (ExtendedMantissa.ofMantissaAndAccuracy mantissa accuracy >>> places)
  rw [mantissa_cut] at near
  rw [shifted] at shift
  generalize ExtendedMantissa.ofMantissaAndAccuracy mantissa accuracy >>> places = extended
    at shift near
  obtain ⟨atLeast, atMost⟩ := near
  have cut : mantissa / 2 ^ places < 2 ^ (mantissa.log2 + 1 - places) := by
    rw [Nat.div_lt_iff_lt_mul (Nat.two_pow_pos places), ← Nat.pow_add]
    exact Nat.lt_of_lt_of_le Nat.lt_log2_self (Nat.pow_le_pow_right (by decide) (by omega))
  by_cases zero : extended.roundedMantissa = 0
  · rw [roundWithAccuracy_of_nothing sign shift zero (Int.le_refl _)]
    have nothing : mantissa < 2 ^ places := by
      rwa [zero, Nat.le_zero, Nat.div_eq_zero_iff_lt (Nat.two_pow_pos places)] at atLeast
    have digits : mantissa.log2 ≤ places := log2_le_of_le nothing.le
    exact .zero (by omega)
  · have positive : 0 < extended.roundedMantissa := Nat.pos_of_ne_zero zero
    have fits : extended.roundedMantissa < 2 ^ 53 := by
      have most : 2 ^ (mantissa.log2 + 1 - places) ≤ 2 ^ 52 :=
        Nat.pow_le_pow_right (by decide) (by omega)
      omega
    have upper : extended.roundedMantissa.log2 ≤ mantissa.log2 + 1 - places :=
      log2_le_of_le (by omega)
    have lower : mantissa.log2 ≤ places + extended.roundedMantissa.log2 := by
      by_contra above
      have reaches : 2 ^ (extended.roundedMantissa.log2 + 1) ≤ mantissa / 2 ^ places := by
        rw [Nat.le_div_iff_mul_le (Nat.two_pow_pos places), ← Nat.pow_add]
        exact Nat.le_trans (Nat.pow_le_pow_right (by decide) (by omega))
          (two_pow_log2_le (Nat.pos_of_ne_zero (by rintro rfl; simp at above)))
      exact absurd Nat.lt_log2_self (Nat.not_lt.mpr (reaches.trans atLeast))
    rw [roundWithAccuracy_of_shift sign shift positive fits (Int.le_refl _)]
    exact .finite positive ⟨fits, Int.le_refl _, Or.inr rfl⟩ (by omega) (by omega)

/-- Rounding moves the first digit by at most one place. -/
theorem rounded_roundWithAccuracy (sign : Sign) (accuracy : Accuracy)
    (wide : Wide mantissa exponent) :
    Rounded sign (exponent + mantissa.log2)
      (roundWithAccuracy .binary64 sign mantissa exponent accuracy) := by
  by_cases normal : -1022 ≤ exponent + mantissa.log2
  · exact rounded_of_normal sign accuracy (by unfold Wide at wide; omega) normal
  · exact rounded_of_low sign accuracy (by omega) (by unfold Wide at wide; omega)

/-- The mantissa and the exponent that are rounded once there are digits enough. -/
theorem round_eq (sign : Sign) (positive : 0 < mantissa) (exponent : ℤ) :
    ∃ places : ℕ, Wide (mantissa * 2 ^ places) (exponent - places) ∧
      UnpackedFloat.round .binary64 sign mantissa exponent =
        roundWithAccuracy .binary64 sign (mantissa * 2 ^ places) (exponent - places) .exact := by
  refine ⟨(exponent - max (exponent + mantissa.log2 - 52) (-1074)).toNat, ?_, ?_⟩
  · rw [Wide, log2_mul_two_pow positive]
    omega
  · simp only [UnpackedFloat.round, targetExponent_eq, decreaseExponent, Nat.shiftLeft_eq]

private theorem rounded_round (sign : Sign) (positive : 0 < mantissa) :
    Rounded sign (exponent + mantissa.log2)
      (UnpackedFloat.round .binary64 sign mantissa exponent) := by
  obtain ⟨places, wide, result⟩ := round_eq sign positive exponent
  have rounded := rounded_roundWithAccuracy sign .exact wide
  rw [log2_mul_two_pow positive] at rounded
  rw [result]
  convert rounded using 1
  omega

/-- The rounding of a number that is not zero, whatever its sign. -/
theorem exists_normalize {number : ℤ} (nonzero : number ≠ 0) (exponent : ℤ) :
    ∃ sign, UnpackedFloat.normalize .binary64 number exponent .positive =
      UnpackedFloat.round .binary64 sign number.natAbs exponent := by
  rcases Int.lt_or_gt_of_ne nonzero with below | above
  · refine ⟨.negative, ?_⟩
    rw [UnpackedFloat.normalize, Int.compare_eq_lt.mpr below,
      show number.natAbs = (-number).toNat by omega]
  · refine ⟨.positive, ?_⟩
    rw [UnpackedFloat.normalize, Int.compare_eq_gt.mpr above,
      show number.natAbs = number.toNat by omega]

end Rounding

/-! ## Packing -/

section Packing

variable {mantissa : ℕ} {exponent : ℤ}

private theorem unpack_pack_least (sign : Sign) (positive : 0 < mantissa)
    (small : mantissa < 2 ^ 52) :
    (Float.Model.pack (.finite sign mantissa (-1074) positive)).unpack =
      .finite sign mantissa (-1074) positive := by
  have digits : mantissa.log2 + 1 ≠ 53 := by
    have below := log2_lt (by decide) small
    omega
  have value : (BitVec.ofNat 52 mantissa).toNat = mantissa := by
    rw [BitVec.toNat_ofNat, Nat.mod_eq_of_lt small]
  have some : BitVec.ofNat 52 mantissa ≠ 0#52 := by
    intro none
    rw [none] at value
    simp at value
    omega
  have packed : UnpackedFloat.pack .binary64 (.finite sign mantissa (-1074) positive) =
      packComponents .binary64 sign 0#11 (BitVec.ofNat 52 mantissa) := by
    simp [UnpackedFloat.pack, Format.exponentBias, Format.mantissaBits]
    omega
  unfold Float.Model.unpack Float.Model.pack
  simp only [packed, UnpackedFloat.unpack, unpackExponent_packComponents,
    unpackMantissa_packComponents, unpackSign_packComponents, ofBitVec_toBitVec, some, value]
  rfl

/-- A double is read as it was packed. -/
theorem unpack_pack_of_canonical (sign : Sign) (positive : 0 < mantissa)
    (canonical : Canonical mantissa exponent) (bounded : exponent ≤ 971) :
    (Float.Model.pack (.finite sign mantissa exponent positive)).unpack =
      .finite sign mantissa exponent positive := by
  obtain ⟨fits, least, most⟩ := canonical
  by_cases normal : 2 ^ 52 ≤ mantissa
  · exact unpack_pack ⟨normal, fits, least, bounded⟩ sign positive
  · obtain rfl : exponent = -1074 := by omega
    exact unpack_pack_least sign positive (Nat.lt_of_not_le normal)

private theorem unpack_pack_of_large (sign : Sign) (positive : 0 < mantissa)
    (large : 971 < exponent) :
    (Float.Model.pack (.finite sign mantissa exponent positive)).unpack = .infinity sign := by
  have packed : UnpackedFloat.pack .binary64 (.finite sign mantissa exponent positive) =
      packedInfinity .binary64 sign := by
    simp [UnpackedFloat.pack, Format.exponentBias]
    omega
  have infinite := unpack_pack_infinity sign
  change UnpackedFloat.unpack .binary64 (packedInfinity .binary64 sign) = _ at infinite
  change UnpackedFloat.unpack .binary64 (UnpackedFloat.pack .binary64 _) = _
  rw [packed, infinite]

/-- That an unpacked number is one that a double stands for. -/
inductive Unpacked : UnpackedFloat → Prop
  | notANumber : Unpacked .notANumber
  | infinity (sign : Sign) : Unpacked (.infinity sign)
  | zero (sign : Sign) : Unpacked (.zero sign)
  | finite {sign : Sign} {mantissa : ℕ} {exponent : ℤ} (positive : 0 < mantissa)
      (canonical : Canonical mantissa exponent) (bounded : exponent ≤ 971) :
      Unpacked (.finite sign mantissa exponent positive)

/-- Every double is one of the numbers that a double can stand for. -/
theorem unpacked (x : Float) : Unpacked x.toModel.unpack := by
  unfold Float.Model.unpack UnpackedFloat.unpack
  generalize x.toModel.toBits.toBitVec = bits
  have special : @unpackExponent .binary64 bits = -1#11 ↔
      (@unpackExponent .binary64 bits).toNat = 2047 := BitVec.toNat_inj.symm
  have least : @unpackExponent .binary64 bits = 0#11 ↔
      (@unpackExponent .binary64 bits).toNat = 0 := BitVec.toNat_inj.symm
  have bounded : (@unpackExponent .binary64 bits).toNat < 2048 :=
    (@unpackExponent .binary64 bits).isLt
  have fraction : (@unpackMantissa .binary64 bits).toNat < 4503599627370496 :=
    (@unpackMantissa .binary64 bits).isLt
  have implicit : (1#1 ++ @unpackMantissa .binary64 bits).toNat =
      4503599627370496 + (@unpackMantissa .binary64 bits).toNat :=
    Decimal.toNat_implicit (@unpackMantissa .binary64 bits)
  have bias : ((Format.binary64.exponentBias : ℕ) : ℤ) = 1023 := rfl
  simp only [special, least, bias]
  split
  · split
    · exact .infinity _
    · exact .notANumber
  · split
    · split
      · exact .zero _
      · exact .finite _ ⟨by omega, by omega, by omega⟩ (by omega)
    · exact .finite _ ⟨by omega, by omega, by omega⟩ (by omega)

end Packing

/-! ## Bounds -/

/-- That a number is finite and its first digit before the given place. -/
inductive Below (bound : ℤ) : UnpackedFloat → Prop
  | zero (sign : Sign) : Below bound (.zero sign)
  | finite {sign : Sign} {mantissa : ℕ} {exponent : ℤ} (positive : 0 < mantissa)
      (before : exponent + mantissa.log2 < bound) :
      Below bound (.finite sign mantissa exponent positive)

/-- That a number is infinite or its first digit not before the given place. -/
inductive Above (bound : ℤ) : UnpackedFloat → Prop
  | infinity (sign : Sign) : Above bound (.infinity sign)
  | finite {sign : Sign} {mantissa : ℕ} {exponent : ℤ} (positive : 0 < mantissa)
      (reaches : bound ≤ exponent + mantissa.log2) :
      Above bound (.finite sign mantissa exponent positive)

section Bounds

variable {bound : ℤ} {number : UnpackedFloat}

theorem Below.mono {wider : ℤ} (below : Below bound number) (le : bound ≤ wider) :
    Below wider number := by
  cases below with
  | zero sign => exact .zero sign
  | finite positive before => exact .finite positive (by omega)

private theorem Below.neg (below : Below bound number) : Below bound number.neg := by
  cases below with
  | zero sign => exact .zero (-sign)
  | finite positive before => exact .finite positive before

private theorem Below.isFinite (below : Below bound number) : number.isFinite = true := by
  cases below with
  | zero | finite => rfl

private theorem Canonical.exponent_le {mantissa : ℕ} {exponent : ℤ}
    (canonical : Canonical mantissa exponent) (before : exponent + mantissa.log2 ≤ 1023) :
    exponent ≤ 971 := by
  obtain ⟨-, -, most | least⟩ := canonical
  · have digits := le_log2 most
    omega
  · omega

private theorem below_zero (bound : ℤ) (sign : Sign) :
    Below bound (Float.Model.pack (.zero sign)).unpack := by
  rw [unpack_pack_zero]
  exact .zero sign

private theorem above_infinity (bound : ℤ) (sign : Sign) :
    Above bound (Float.Model.pack (.infinity sign)).unpack := by
  rw [unpack_pack_infinity]
  exact .infinity sign

private theorem Rounded.below {sign : Sign} {first : ℤ} (rounded : Rounded sign first number)
    (before : first < bound) (least : -1074 ≤ bound) (most : bound ≤ 1023) :
    Below (bound + 1) (Float.Model.pack number).unpack := by
  cases rounded with
  | zero low => exact below_zero _ sign
  | finite positive canonical lower upper =>
      rw [unpack_pack_of_canonical sign positive canonical (canonical.exponent_le (by omega))]
      exact .finite positive (by omega)

private theorem Rounded.above {sign : Sign} {first : ℤ} (rounded : Rounded sign first number)
    (reaches : bound ≤ first) (least : -1074 < bound) :
    Above bound (Float.Model.pack number).unpack := by
  cases rounded with
  | zero low => omega
  | @finite mantissa exponent positive canonical lower upper =>
      by_cases bounded : exponent ≤ 971
      · rw [unpack_pack_of_canonical sign positive canonical bounded]
        exact .finite positive (by omega)
      · rw [unpack_pack_of_large sign positive (Int.lt_of_not_ge bounded)]
        exact .infinity sign

end Bounds

/-! ## Sums -/

section Sums

variable {bound low exponent : ℤ} {mantissa : ℕ} {first second : UnpackedFloat}

private theorem natAbs_apply (sign : Sign) (number : ℕ) :
    (sign.apply (number : ℤ)).natAbs = number := by
  cases sign with
  | positive => simp [Sign.apply]
  | negative => simp [Sign.apply]

def aligned (mantissa : ℕ) (exponent low : ℤ) : ℕ :=
  mantissa * 2 ^ (exponent - low).toNat

private theorem aligned_lt (before : exponent + mantissa.log2 < bound) (le : low ≤ exponent) :
    aligned mantissa exponent low < 2 ^ (bound - low).toNat :=
  calc aligned mantissa exponent low
    _ < 2 ^ (mantissa.log2 + 1) * 2 ^ (exponent - low).toNat :=
        Nat.mul_lt_mul_of_pos_right Nat.lt_log2_self (Nat.two_pow_pos _)
    _ = 2 ^ (mantissa.log2 + 1 + (exponent - low).toNat) := (Nat.pow_add _ _ _).symm
    _ ≤ 2 ^ (bound - low).toNat := Nat.pow_le_pow_right (by decide) (by omega)

private theorem add_finite (sign otherSign : Sign) {otherMantissa : ℕ} {otherExponent : ℤ}
    (positive : 0 < mantissa) (otherPositive : 0 < otherMantissa)
    (least : low = min exponent otherExponent) :
    UnpackedFloat.add .binary64 (.finite sign mantissa exponent positive)
        (.finite otherSign otherMantissa otherExponent otherPositive) =
      UnpackedFloat.normalize .binary64
        (sign.apply (aligned mantissa exponent low) +
          otherSign.apply (aligned otherMantissa otherExponent low)) low .positive := by
  simp only [UnpackedFloat.add, decreaseExponent, Nat.shiftLeft_eq, aligned, least]

private theorem below_normalize {number : ℤ} (fits : number.natAbs < 2 ^ (bound - low).toNat)
    (wide : low < bound) (least : -1074 ≤ bound) (most : bound ≤ 1023) :
    Below (bound + 1)
      (Float.Model.pack (UnpackedFloat.normalize .binary64 number low .positive)).unpack := by
  by_cases zero : number = 0
  · rw [zero]
    exact below_zero _ .positive
  · obtain ⟨sign, result⟩ := exists_normalize zero low
    have digits : number.natAbs.log2 < (bound - low).toNat := log2_lt (by omega) fits
    rw [result]
    exact (rounded_round sign (Int.natAbs_pos.mpr zero)).below (by omega) least most

private theorem Unpacked.unpack_pack (unpacked : Unpacked first) :
    (Float.Model.pack first).unpack = first := by
  cases unpacked with
  | notANumber => rfl
  | infinity sign => exact unpack_pack_infinity sign
  | zero sign => exact unpack_pack_zero sign
  | finite positive canonical bounded =>
      exact unpack_pack_of_canonical _ positive canonical bounded

private theorem Unpacked.below (unpacked : Unpacked first) (below : Below bound first) :
    Below bound (Float.Model.pack first).unpack := by
  rwa [unpacked.unpack_pack]

private theorem Below.add (below : Below bound first) (other : Below bound second)
    (unpacked : Unpacked first) (otherUnpacked : Unpacked second) (least : -1075 ≤ bound)
    (most : bound ≤ 1022) :
    Below (bound + 2) (Float.Model.pack (UnpackedFloat.add .binary64 first second)).unpack := by
  cases below with
  | zero sign =>
      cases other with
      | zero otherSign => cases sign <;> cases otherSign <;> exact .zero _
      | finite otherPositive otherBefore =>
          exact otherUnpacked.below (.finite otherPositive (by omega))
  | @finite sign mantissa exponent positive before =>
      cases other with
      | zero otherSign => exact unpacked.below (.finite positive (by omega))
      | @finite otherSign otherMantissa otherExponent otherPositive otherBefore =>
          obtain ⟨low, same⟩ : ∃ low, low = min exponent otherExponent := ⟨_, rfl⟩
          rw [add_finite sign otherSign positive otherPositive same]
          have bounded := aligned_lt before (by omega : low ≤ exponent)
          have otherBounded := aligned_lt otherBefore (by omega : low ≤ otherExponent)
          have size := Int.natAbs_add_le (sign.apply (aligned mantissa exponent low))
            (otherSign.apply (aligned otherMantissa otherExponent low))
          rw [natAbs_apply, natAbs_apply] at size
          have wider : (bound + 1 - low).toNat = (bound - low).toNat + 1 := by omega
          have fits : (sign.apply (aligned mantissa exponent low) +
              otherSign.apply (aligned otherMantissa otherExponent low)).natAbs <
                2 ^ (bound + 1 - low).toNat := by
            rw [wider, Nat.pow_succ]
            omega
          exact (below_normalize fits (by omega) (by omega) (by omega)).mono (by omega)

private theorem above_normalize {number : ℕ} (positive : 0 < number)
    (reaches : bound ≤ low + number.log2) (least : -1074 < bound) :
    Above bound
      (Float.Model.pack (UnpackedFloat.normalize .binary64 number low .positive)).unpack := by
  obtain ⟨sign, result⟩ := exists_normalize (Int.natCast_ne_zero.mpr (Nat.ne_of_gt positive)) low
  rw [result, Int.natAbs_natCast]
  exact (rounded_round sign positive).above reaches least

private theorem Above.add (above : Above bound first) (nonNegative : NonNegative first)
    (other : NonNegative second) (unpacked : Unpacked first) (least : -1074 < bound) :
    Above bound (Float.Model.pack (UnpackedFloat.add .binary64 first second)).unpack := by
  cases nonNegative with
  | zero sign => cases above
  | infinity =>
      cases other with
      | _ => exact above_infinity bound .positive
  | finite mantissa exponent positive =>
      cases other with
      | zero sign =>
          change Above bound (Float.Model.pack (.finite _ _ _ _)).unpack
          rwa [unpacked.unpack_pack]
      | infinity => exact above_infinity bound .positive
      | finite otherMantissa otherExponent otherPositive =>
          cases above with
          | finite positive reaches =>
              obtain ⟨low, same⟩ : ∃ low, low = min exponent otherExponent := ⟨_, rfl⟩
              have some : 0 < aligned mantissa exponent low :=
                Nat.mul_pos positive (Nat.two_pow_pos _)
              have digits : mantissa.log2 + (exponent - low).toNat ≤
                  (aligned mantissa exponent low +
                    aligned otherMantissa otherExponent low).log2 := by
                rw [← log2_mul_two_pow positive]
                exact le_log2 ((two_pow_log2_le some).trans (Nat.le_add_right _ _))
              rw [add_finite .positive .positive positive otherPositive same]
              change Above bound (Float.Model.pack (UnpackedFloat.normalize .binary64
                ((aligned mantissa exponent low : ℤ) + aligned otherMantissa otherExponent low)
                low .positive)).unpack
              rw [← Nat.cast_add]
              exact above_normalize (Nat.add_pos_left some _) (by omega) least

private theorem add_comm (first second : UnpackedFloat) :
    UnpackedFloat.add .binary64 first second = UnpackedFloat.add .binary64 second first := by
  cases first with
  | notANumber =>
      cases second with
      | _ => rfl
  | infinity sign =>
      cases second with
      | infinity otherSign => cases sign <;> cases otherSign <;> rfl
      | _ => rfl
  | zero sign =>
      cases second with
      | zero otherSign => cases sign <;> cases otherSign <;> rfl
      | _ => rfl
  | finite sign mantissa exponent positive =>
      cases second with
      | finite otherSign otherMantissa otherExponent otherPositive =>
          rw [add_finite _ _ _ _ rfl, add_finite _ _ _ _ (min_comm exponent otherExponent),
            Int.add_comm]
      | _ => rfl

end Sums

/-! ## Sums without overflow -/

section Overflow

variable {low exponent : ℤ} {mantissa : ℕ} {first second : UnpackedFloat}

private theorem roundBit_shiftRight (extended : ExtendedMantissa) (places : ℕ) :
    (extended >>> (places + 1)).roundBit = (extended.mantissa / 2 ^ places % 2 != 0) := by
  rw [← mantissa_shiftRight]
  rfl

private theorem roundedMantissa_of_roundBit {extended : ExtendedMantissa}
    (down : extended.roundBit = false) : extended.roundedMantissa = extended.mantissa := by
  obtain ⟨mantissa, roundBit, stickyBit⟩ := extended
  obtain rfl : roundBit = false := down
  cases stickyBit with
  | false => rfl
  | true => rfl

/-- A number with its first digit at the last place of the doubles is rounded to one of them if it
is nearer to the greatest than to the next one there would be. -/
theorem roundedMantissa_lt {mantissa places : ℕ} (fits : mantissa < 2 ^ places * (2 ^ 54 - 1)) :
    (ExtendedMantissa.ofMantissaAndAccuracy mantissa .exact >>> (places + 1)).roundedMantissa <
      2 ^ 53 := by
  have cut : mantissa / 2 ^ places < 2 ^ 54 - 1 :=
    Nat.div_lt_of_lt_mul fits
  have halved : mantissa / 2 ^ (places + 1) = mantissa / 2 ^ places / 2 := by
    rw [Nat.div_div_eq_div_mul, Nat.pow_succ]
  have same := mantissa_cut mantissa (places + 1) .exact
  have bit := roundBit_shiftRight (.ofMantissaAndAccuracy mantissa .exact) places
  rw [mantissa_ofMantissaAndAccuracy] at bit
  generalize ExtendedMantissa.ofMantissaAndAccuracy mantissa .exact >>> (places + 1) = extended
    at same bit ⊢
  have near := roundedMantissa_near extended
  by_cases last : mantissa / 2 ^ places = 2 ^ 54 - 2
  · rw [last] at bit
    rw [roundedMantissa_of_roundBit bit]
    omega
  · omega

private theorem isFinite_roundWithAccuracy (places : ℕ) (sign : Sign)
    (top : exponent + places = 970)
    (fits : mantissa < 2 ^ places * (2 ^ 54 - 1)) (wide : Wide mantissa exponent) :
    (Float.Model.pack
      (roundWithAccuracy .binary64 sign mantissa exponent .exact)).unpack.isFinite = true := by
  have rounded := rounded_roundWithAccuracy sign .exact wide
  by_cases before : exponent + mantissa.log2 < 1023
  · exact (rounded.below before (by decide) (by decide)).isFinite
  · have digits : mantissa.log2 = places + 53 := by
      have most : mantissa < 2 ^ (places + 54) := by
        rw [Nat.pow_add]
        exact Nat.lt_of_lt_of_le fits (Nat.mul_le_mul_left _ (Nat.sub_le _ 1))
      have before := log2_lt (Nat.succ_pos _) most
      omega
    have shift := shift_places (places + 1) .exact
      (by omega : exponent + (places + 1 : ℕ) = max (exponent + mantissa.log2 - 52) (-1074))
    have last : exponent + (places + 1 : ℕ) = 971 := by omega
    rw [last] at shift
    have some : 0 < (ExtendedMantissa.ofMantissaAndAccuracy mantissa .exact >>>
        (places + 1)).roundedMantissa := by
      apply Nat.lt_of_lt_of_le _ (roundedMantissa_near _).1
      rw [mantissa_cut]
      apply Nat.div_pos _ (Nat.two_pow_pos _)
      have positive : 0 < mantissa := Nat.pos_of_ne_zero (by rintro rfl; simp at digits)
      exact (Nat.pow_le_pow_right (by decide) (by omega)).trans (two_pow_log2_le positive)
    rw [roundWithAccuracy_of_shift sign shift some (roundedMantissa_lt fits) (by decide)]
      at rounded ⊢
    cases rounded with
    | finite positive canonical lower upper =>
        rw [unpack_pack_of_canonical sign positive canonical (Int.le_refl _)]
        rfl

private theorem isFinite_normalize {number : ℤ} (places : ℕ) (top : low + places = 970)
    (fits : number.natAbs < 2 ^ places * (2 ^ 54 - 1)) :
    (Float.Model.pack
      (UnpackedFloat.normalize .binary64 number low .positive)).unpack.isFinite = true := by
  by_cases zero : number = 0
  · rw [zero]
    exact (below_zero 0 .positive).isFinite
  · obtain ⟨sign, normalized⟩ := exists_normalize zero low
    obtain ⟨more, wide, rounded⟩ :=
      round_eq sign (Int.natAbs_pos.mpr zero) low
    rw [normalized, rounded]
    refine isFinite_roundWithAccuracy (places + more) sign (by omega) ?_ wide
    rw [Nat.pow_add, Nat.mul_right_comm]
    exact Nat.mul_lt_mul_of_pos_right fits (Nat.two_pow_pos more)

/-- What is less than half a place of the greatest double is added without overflow. -/
theorem isFinite_add (finite : first.isFinite = true) (below : Below 969 second)
    (unpacked : Unpacked first) (otherUnpacked : Unpacked second) :
    (Float.Model.pack (UnpackedFloat.add .binary64 first second)).unpack.isFinite = true := by
  cases below with
  | zero otherSign =>
      cases unpacked with
      | notANumber => cases finite
      | infinity sign => cases finite
      | zero sign => cases sign <;> cases otherSign <;> rfl
      | finite positive canonical bounded =>
          change (Float.Model.pack (.finite _ _ _ _)).unpack.isFinite = true
          rw [unpack_pack_of_canonical _ positive canonical bounded]
          rfl
  | @finite otherSign otherMantissa otherExponent otherPositive before =>
      cases unpacked with
      | notANumber => cases finite
      | infinity sign => cases finite
      | zero sign =>
          change (Float.Model.pack (.finite _ _ _ _)).unpack.isFinite = true
          rw [otherUnpacked.unpack_pack]
          rfl
      | @finite sign mantissa exponent positive canonical bounded =>
          obtain ⟨low, same⟩ : ∃ low, low = min exponent otherExponent := ⟨_, rfl⟩
          obtain ⟨places, top⟩ : ∃ places : ℕ, low + places = 968 := ⟨(968 - low).toNat, by omega⟩
          rw [add_finite sign otherSign positive otherPositive same]
          apply isFinite_normalize (places + 2) (by omega)
          have size := Int.natAbs_add_le (sign.apply (aligned mantissa exponent low))
            (otherSign.apply (aligned otherMantissa otherExponent low))
          rw [natAbs_apply, natAbs_apply] at size
          have otherBounded := aligned_lt before (by omega : low ≤ otherExponent)
          have bounded : aligned mantissa exponent low ≤ (2 ^ 53 - 1) * 2 ^ (places + 3) :=
            Nat.mul_le_mul (Nat.le_pred_of_lt canonical.1)
              (Nat.pow_le_pow_right (by decide) (by omega))
          rw [show (969 - low).toNat = places + 1 by omega] at otherBounded
          rw [Nat.pow_add] at otherBounded bounded ⊢
          omega

end Overflow

/-! ## Products, quotients and roots -/

section Products

variable {bound otherBound : ℤ} {first second : UnpackedFloat}

private theorem Unpacked.neg (unpacked : Unpacked first) : Unpacked first.neg := by
  cases unpacked with
  | notANumber => exact .notANumber
  | infinity sign => exact .infinity (-sign)
  | zero sign => exact .zero (-sign)
  | finite positive canonical bounded => exact .finite positive canonical bounded

theorem Unpacked.canonical {sign : Sign} {mantissa : ℕ} {exponent : ℤ} {positive : 0 < mantissa}
    (unpacked : Unpacked (.finite sign mantissa exponent positive)) :
    Canonical mantissa exponent := by
  cases unpacked with
  | finite positive canonical bounded => exact canonical

private theorem Canonical.wide {mantissa : ℕ} {exponent : ℤ}
    (canonical : Canonical mantissa exponent) :
    Wide mantissa exponent := by
  obtain ⟨-, -, most | least⟩ := canonical
  · exact Or.inl (le_log2 most)
  · exact Or.inr least.le

private theorem log2_mul_bounds {mantissa otherMantissa : ℕ} (positive : 0 < mantissa)
    (otherPositive : 0 < otherMantissa) :
    mantissa.log2 + otherMantissa.log2 ≤ (mantissa * otherMantissa).log2 ∧
      (mantissa * otherMantissa).log2 < mantissa.log2 + otherMantissa.log2 + 2 := by
  constructor
  · apply le_log2
    rw [Nat.pow_add]
    exact Nat.mul_le_mul (two_pow_log2_le positive) (two_pow_log2_le otherPositive)
  · have product := Nat.mul_lt_mul'' (Nat.lt_log2_self (n := mantissa))
      (Nat.lt_log2_self (n := otherMantissa))
    rw [← Nat.pow_add] at product
    have digits := log2_lt (by omega) product
    omega

private theorem Canonical.wide_mul {mantissa otherMantissa : ℕ} {exponent otherExponent : ℤ}
    (canonical : Canonical mantissa exponent) (other : Canonical otherMantissa otherExponent)
    (positive : 0 < mantissa) (otherPositive : 0 < otherMantissa) :
    Wide (mantissa * otherMantissa) (exponent + otherExponent) := by
  have digits := (log2_mul_bounds positive otherPositive).1
  have wide := canonical.wide
  have otherWide := other.wide
  unfold Wide at *
  omega

private theorem Below.mul (below : Below bound first) (other : Below otherBound second)
    (unpacked : Unpacked first) (otherUnpacked : Unpacked second)
    (least : -1074 ≤ bound + otherBound) (most : bound + otherBound ≤ 1023) :
    Below (bound + otherBound + 1)
      (Float.Model.pack (UnpackedFloat.mul .binary64 first second)).unpack := by
  cases below with
  | zero sign =>
      cases other with
      | _ => exact below_zero _ _
  | finite positive before =>
      cases other with
      | zero otherSign => exact below_zero _ _
      | finite otherPositive otherBefore =>
          have digits := (log2_mul_bounds positive otherPositive).2
          have wide := unpacked.canonical.wide_mul otherUnpacked.canonical positive otherPositive
          exact (rounded_roundWithAccuracy _ .exact wide).below (by omega) least most

private theorem Above.mul (above : Above bound first) (other : Above otherBound second)
    (unpacked : Unpacked first) (otherUnpacked : Unpacked second)
    (least : -1074 < bound + otherBound) :
    Above (bound + otherBound)
      (Float.Model.pack (UnpackedFloat.mul .binary64 first second)).unpack := by
  cases above with
  | infinity sign =>
      cases other with
      | _ => exact above_infinity _ _
  | finite positive reaches =>
      cases other with
      | infinity otherSign => exact above_infinity _ _
      | finite otherPositive otherReaches =>
          have digits := (log2_mul_bounds positive otherPositive).1
          have wide := unpacked.canonical.wide_mul otherUnpacked.canonical positive otherPositive
          exact (rounded_roundWithAccuracy _ .exact wide).above (by omega) least

/-- A quotient of mantissas has digits enough for a double, and its first one is not beyond the
difference of the places. -/
theorem divCore_bounds {mantissa otherMantissa : ℕ} (positive : 0 < mantissa)
    (otherPositive : 0 < otherMantissa) (exponent otherExponent : ℤ) :
    ∃ quotient low accuracy, divCore .binary64 mantissa exponent otherMantissa otherExponent =
        (quotient, low, accuracy) ∧ Wide quotient low ∧
      low + quotient.log2 ≤
        max (exponent + mantissa.log2 - (otherExponent + otherMantissa.log2)) (-1074) := by
  refine ⟨_, _, _, rfl, ?_⟩
  obtain ⟨difference, same⟩ : ∃ difference, difference =
    exponent + mantissa.log2 - (otherExponent + otherMantissa.log2) := ⟨_, rfl⟩
  have target : Format.binary64.targetExponent
      (totalExponent mantissa exponent - totalExponent otherMantissa otherExponent) =
        max (difference - 53) (-1074) := by
    simp only [Format.targetExponent, totalExponent, Format.mantissaBits, Format.minExponent]
    omega
  rw [target, ← same, Nat.shiftLeft_eq]
  obtain ⟨low, least⟩ : ∃ low, low = min (exponent - otherExponent)
    (max (difference - 53) (-1074)) := ⟨_, rfl⟩
  obtain ⟨places, shifted⟩ : ∃ places : ℕ, low + places = exponent - otherExponent :=
    ⟨(exponent - otherExponent - low).toNat, by omega⟩
  rw [← least, show (exponent - otherExponent - low).toNat = places by omega]
  have digits := log2_mul_two_pow positive places
  have whole := Nat.div_mul_le_self (mantissa * 2 ^ places) otherMantissa
  have rest := Nat.lt_div_mul_add otherPositive (a := mantissa * 2 ^ places)
  have some : 0 < mantissa * 2 ^ places := Nat.mul_pos positive (Nat.two_pow_pos places)
  have wide : Wide (mantissa * 2 ^ places / otherMantissa) low := by
    by_cases narrow : mantissa * 2 ^ places / otherMantissa < 2 ^ 52
    · right
      have fits : 2 ^ (mantissa.log2 + places) < 2 ^ (52 + (otherMantissa.log2 + 1)) :=
        calc 2 ^ (mantissa.log2 + places)
          _ ≤ mantissa * 2 ^ places := by
              rw [← digits]
              exact two_pow_log2_le some
          _ < (mantissa * 2 ^ places / otherMantissa + 1) * otherMantissa := by
              rw [Nat.succ_mul]
              exact rest
          _ ≤ 2 ^ 52 * 2 ^ (otherMantissa.log2 + 1) :=
              Nat.mul_le_mul narrow Nat.lt_log2_self.le
          _ = 2 ^ (52 + (otherMantissa.log2 + 1)) := (Nat.pow_add _ _ _).symm
      have exponents := (Nat.pow_lt_pow_iff_right (by decide : 1 < 2)).mp fits
      omega
    · exact Or.inl (le_log2 (Nat.le_of_not_lt narrow))
  refine ⟨wide, ?_⟩
  by_cases zero : mantissa * 2 ^ places / otherMantissa = 0
  · rw [zero] at wide ⊢
    unfold Wide at wide
    rw [Nat.log2_zero] at wide ⊢
    omega
  · have fits : (mantissa * 2 ^ places / otherMantissa).log2 + otherMantissa.log2 ≤
        mantissa.log2 + places := by
      rw [← digits]
      apply le_log2
      rw [Nat.pow_add]
      exact (Nat.mul_le_mul (Nat.log2_self_le zero) (two_pow_log2_le otherPositive)).trans whole
    omega

private theorem Below.div (below : Below bound first) (above : Above otherBound second)
    (least : -1074 < bound - otherBound) (most : bound - otherBound ≤ 1023) :
    Below (bound - otherBound + 1)
      (Float.Model.pack (UnpackedFloat.div .binary64 first second)).unpack := by
  cases below with
  | zero sign =>
      cases above with
      | _ => exact below_zero _ _
  | @finite sign mantissa exponent positive before =>
      cases above with
      | infinity otherSign => exact below_zero _ _
      | @finite otherSign otherMantissa otherExponent otherPositive otherReaches =>
          obtain ⟨quotient, low, accuracy, result, wide, upper⟩ :=
            divCore_bounds positive otherPositive exponent otherExponent
          have rounded := rounded_roundWithAccuracy (sign / otherSign) accuracy wide
          simp only [UnpackedFloat.div, result]
          exact rounded.below (by omega) (by omega) most

/-- The first digit of a root is at half the place, and it has digits enough for a double. -/
theorem sqrtCore_bounds {mantissa : ℕ} (positive : 0 < mantissa) (exponent : ℤ) :
    ∃ root low accuracy, sqrtCore .binary64 mantissa exponent = (root, low, accuracy) ∧
      Wide root low ∧ 2 * (low + root.log2) ≤ exponent + mantissa.log2 ∧
      exponent + mantissa.log2 ≤ 2 * (low + root.log2) + 1 := by
  refine ⟨_, _, _, rfl, ?_⟩
  have target : Format.binary64.targetExponent ((totalExponent mantissa exponent + 1).ediv 2) =
      max ((exponent + mantissa.log2 + 2) / 2 - 53) (-1074) := by
    have half : (totalExponent mantissa exponent + 1).ediv 2 =
        (exponent + mantissa.log2 + 2) / 2 := by
      change (_ : ℤ) / 2 = _
      rw [totalExponent]
      omega
    simp only [Format.targetExponent, half, Format.mantissaBits, Format.minExponent]
    omega
  rw [target, Nat.shiftLeft_eq]
  obtain ⟨low, least⟩ : ∃ low, low = min (exponent.ediv 2)
    (max ((exponent + mantissa.log2 + 2) / 2 - 53) (-1074)) := ⟨_, rfl⟩
  have below : low ≤ exponent / 2 := by
    change low ≤ exponent.ediv 2
    omega
  obtain ⟨places, shifted⟩ : ∃ places : ℕ, 2 * low + places = exponent :=
    ⟨(exponent - 2 * low).toNat, by omega⟩
  rw [← least, show (exponent - 2 * low).toNat = places by omega]
  have digits := log2_mul_two_pow positive places
  have some : 0 < mantissa * 2 ^ places := Nat.mul_pos positive (Nat.two_pow_pos places)
  have square := Nat.sqrt_le (mantissa * 2 ^ places)
  have root : 0 < Nat.sqrt (mantissa * 2 ^ places) := Nat.sqrt_pos.mpr some
  have lower : 2 * (Nat.sqrt (mantissa * 2 ^ places)).log2 ≤ mantissa.log2 + places := by
    rw [← digits, Nat.two_mul]
    apply le_log2
    rw [Nat.pow_add]
    exact (Nat.mul_le_mul (two_pow_log2_le root) (two_pow_log2_le root)).trans square
  have upper : mantissa.log2 + places < 2 * (Nat.sqrt (mantissa * 2 ^ places)).log2 + 2 := by
    have next := Nat.sqrt_lt.mp
      (Nat.lt_log2_self (n := Nat.sqrt (mantissa * 2 ^ places)))
    rw [← Nat.pow_add] at next
    have fits := log2_lt (by omega) next
    omega
  unfold Wide
  omega

private theorem Below.sqrt (below : Below (2 * bound) first) (nonNegative : NonNegative first)
    (least : -1074 ≤ bound) (most : bound ≤ 1023) :
    Below (bound + 1) (Float.Model.pack (UnpackedFloat.sqrt .binary64 first)).unpack := by
  cases nonNegative with
  | zero sign => exact below_zero (bound + 1) sign
  | infinity => cases below
  | finite mantissa exponent positive =>
      cases below with
      | finite positive before =>
          obtain ⟨root, low, accuracy, result, wide, half, -⟩ := sqrtCore_bounds positive exponent
          simp only [UnpackedFloat.sqrt, result]
          exact (rounded_roundWithAccuracy .positive accuracy wide).below (by omega) least most

private theorem Above.sqrt (above : Above (2 * bound) first) (nonNegative : NonNegative first)
    (least : -1074 < bound) :
    Above bound (Float.Model.pack (UnpackedFloat.sqrt .binary64 first)).unpack := by
  cases nonNegative with
  | zero sign => cases above
  | infinity => exact above_infinity bound .positive
  | finite mantissa exponent positive =>
      cases above with
      | finite positive reaches =>
          obtain ⟨root, low, accuracy, result, wide, -, half⟩ := sqrtCore_bounds positive exponent
          simp only [UnpackedFloat.sqrt, result]
          exact (rounded_roundWithAccuracy .positive accuracy wide).above (by omega) least

end Products

/-! ## Doubles -/

section Doubles

variable {bound otherBound : ℤ} {x y : Float}

theorem isFinite_of_below (below : Below bound x.toModel.unpack) : x.isFinite = true :=
  Below.isFinite below

/-- A finite number that does not reach a place is below it. -/
theorem below_of_finite (finite : x.isFinite = true) (narrow : ¬Above bound x.toModel.unpack) :
    Below bound x.toModel.unpack := by
  change x.toModel.unpack.isFinite = true at finite
  generalize x.toModel.unpack = number at finite narrow ⊢
  cases number with
  | notANumber => cases finite
  | infinity sign => cases finite
  | zero sign => exact .zero sign
  | finite sign mantissa exponent positive =>
      refine .finite positive (Int.lt_of_not_ge ?_)
      intro reaches
      exact narrow (.finite positive reaches)

/-- A finite number that reaches a place has a first digit. -/
theorem exists_first (finite : x.isFinite = true) (above : Above bound x.toModel.unpack) :
    ∃ first, bound ≤ first ∧ Above first x.toModel.unpack ∧
      Below (first + 1) x.toModel.unpack := by
  change x.toModel.unpack.isFinite = true at finite
  generalize x.toModel.unpack = number at finite above ⊢
  cases above with
  | infinity sign => cases finite
  | finite positive reaches =>
      exact ⟨_, reaches, .finite positive (Int.le_refl _), .finite positive (Int.lt_add_one_of_le
        (Int.le_refl _))⟩

/-- No double has its first digit at the place 1024. -/
theorem not_above_of_finite (finite : x.isFinite = true) : ¬Above 1024 x.toModel.unpack := by
  intro above
  have unpacked := unpacked x
  change x.toModel.unpack.isFinite = true at finite
  generalize x.toModel.unpack = number at finite above unpacked
  cases above with
  | infinity sign => cases finite
  | @finite sign mantissa exponent positive reaches =>
      cases unpacked with
      | finite positive canonical bounded =>
          have digits := log2_lt (by decide) canonical.1
          omega

theorem below_add (below : Below bound x.toModel.unpack) (other : Below bound y.toModel.unpack)
    (least : -1075 ≤ bound) (most : bound ≤ 1022) : Below (bound + 2) (x + y).toModel.unpack :=
  below.add other (unpacked x) (unpacked y) least most

theorem below_sub (below : Below bound x.toModel.unpack) (other : Below bound y.toModel.unpack)
    (least : -1075 ≤ bound) (most : bound ≤ 1022) : Below (bound + 2) (x - y).toModel.unpack := by
  have negated := below.add other.neg (unpacked x) (unpacked y).neg least most
  rwa [← sub_eq_add_neg] at negated

theorem below_mul (below : Below bound x.toModel.unpack)
    (other : Below otherBound y.toModel.unpack) (least : -1074 ≤ bound + otherBound)
    (most : bound + otherBound ≤ 1023) : Below (bound + otherBound + 1) (x * y).toModel.unpack :=
  below.mul other (unpacked x) (unpacked y) least most

theorem below_div (below : Below bound x.toModel.unpack)
    (above : Above otherBound y.toModel.unpack) (least : -1074 < bound - otherBound)
    (most : bound - otherBound ≤ 1023) : Below (bound - otherBound + 1) (x / y).toModel.unpack :=
  below.div above least most

theorem below_sqrt (below : Below (2 * bound) x.toModel.unpack)
    (nonNegative : NonNegative x.toModel.unpack) (least : -1074 ≤ bound) (most : bound ≤ 1023) :
    Below (bound + 1) x.sqrt.toModel.unpack :=
  below.sqrt nonNegative least most

theorem above_add_left (above : Above bound x.toModel.unpack)
    (nonNegative : NonNegative x.toModel.unpack) (other : NonNegative y.toModel.unpack)
    (least : -1074 < bound) : Above bound (x + y).toModel.unpack :=
  above.add nonNegative other (unpacked x) least

theorem above_add_right (nonNegative : NonNegative x.toModel.unpack)
    (above : Above bound y.toModel.unpack) (other : NonNegative y.toModel.unpack)
    (least : -1074 < bound) : Above bound (x + y).toModel.unpack := by
  have swapped := above.add other nonNegative (unpacked y) least
  rwa [add_comm] at swapped

theorem above_mul (above : Above bound x.toModel.unpack)
    (other : Above otherBound y.toModel.unpack) (least : -1074 < bound + otherBound) :
    Above (bound + otherBound) (x * y).toModel.unpack :=
  above.mul other (unpacked x) (unpacked y) least

theorem above_sqrt (above : Above (2 * bound) x.toModel.unpack)
    (nonNegative : NonNegative x.toModel.unpack) (least : -1074 < bound) :
    Above bound x.sqrt.toModel.unpack :=
  above.sqrt nonNegative least

theorem finite_add (finite : x.isFinite = true) (below : Below 969 y.toModel.unpack) :
    (x + y).isFinite = true :=
  isFinite_add finite below (unpacked x) (unpacked y)

/-- What has a finite square has its first digit in the lower half of the places. -/
theorem below_of_mul_self (finite : (x * x).isFinite = true) : Below 512 x.toModel.unpack := by
  apply below_of_finite (finite_of_mul finite).1
  intro above
  exact not_above_of_finite finite (above_mul above above (by decide))

/-- What is not less than a number has its first digit not before that of the number. -/
theorem above_of_not_lt (nonNegative : NonNegative x.toModel.unpack) {mantissa : ℕ} {exponent : ℤ}
    {positive : 0 < mantissa}
    (same : y.toModel.unpack = .finite .positive mantissa exponent positive)
    (normal : 2 ^ 52 ≤ mantissa) (notLess : ¬x < y) : Above (exponent + 52) x.toModel.unpack := by
  have least := (unpacked y)
  rw [same] at least
  have unpacked := unpacked x
  have ordered : ¬UnpackedFloat.lt x.toModel.unpack y.toModel.unpack = true := by
    intro less
    exact notLess (decide_eq_true less)
  rw [same] at ordered
  generalize x.toModel.unpack = number at nonNegative unpacked ordered ⊢
  cases nonNegative with
  | zero sign => exact absurd rfl ordered
  | infinity => exact .infinity .positive
  | finite otherMantissa otherExponent otherPositive =>
      obtain ⟨-, bounded, digits⟩ := unpacked.canonical
      obtain ⟨-, leastBounded, -⟩ := least.canonical
      refine .finite otherPositive ?_
      by_contra before
      apply ordered
      have less : (compare otherExponent exponent).then (compare otherMantissa mantissa) = .lt := by
        rw [Ordering.then_eq_lt, Int.compare_eq_lt, Int.compare_eq_eq, Nat.compare_eq_lt]
        by_contra notBefore
        have most : 2 ^ 52 ≤ otherMantissa := by omega
        have first := le_log2 most
        omega
      exact beq_iff_eq.mpr (congrArg some less)

end Doubles

end TagFix.Double
