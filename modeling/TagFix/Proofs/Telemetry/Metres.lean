import TagFix.Proofs.Double
import TagFix.Telemetry.Payload

/-!
# Distances and error codes

The millimetres of a record are divided by a thousand before they are compared with the error code.
The quotient is rounded, but no rounding takes it to the other side of the error code.
-/

open Float.Model (UnpackedFloat)
open Float.Model.UnpackedFloat (Sign accuracyOfFraction)

namespace TagFix.Telemetry

open TagFix.Double

private theorem unpack_thousand : (1000 : Float).toModel.unpack =
    .finite .positive (1000 * 2 ^ 43) (-43) (by decide) := rfl

private theorem unpack_errorCode : errorCode.toModel.unpack =
    .finite .negative (1000 * 2 ^ 43) (-43) (by decide) := rfl

private theorem sign_div_positive (sign : Sign) : sign / Sign.positive = sign := by
  cases sign <;> rfl

/-- The metres of a number of millimetres, but for the last place. -/
theorem unpack_metres {number : Int} {bits : Nat} (lower : 2 ^ bits ≤ number.natAbs)
    (upper : number.natAbs < 2 ^ (bits + 1)) (narrow : bits ≤ 52) :
    ∃ mantissa exponent positive,
      Rounds (integerMantissa number.natAbs bits * 1024 / 1000) (bits - 62) mantissa exponent ∧
        (metres number).toModel.unpack = .finite (signOf number) mantissa exponent positive := by
  have normal := normal_integerMantissa lower upper narrow
  have wide := normal.1
  have fits := normal.2.1
  have positive : 0 < integerMantissa number.natAbs bits := by omega
  have scaled : integerMantissa number.natAbs bits * 2 ^ 53 / (1000 * 2 ^ 43) =
      integerMantissa number.natAbs bits * 1024 / 1000 := by omega
  have exponent : (bits : Int) - 52 - -43 - 53 = bits - 62 := by omega
  have enough : 2 ^ 52 ≤ integerMantissa number.natAbs bits * 1024 / 1000 := by omega
  have bounded : integerMantissa number.natAbs bits * 1024 / 1000 + 2 < 2 ^ 54 := by omega
  have least : (-1074 : Int) ≤ bits - 62 := by omega
  obtain ⟨rounded, shifted, roundedPositive, rounds, result⟩ :=
    exists_roundWithAccuracy (signOf number)
      (accuracyOfFraction (integerMantissa number.natAbs bits * 2 ^ 53 % (1000 * 2 ^ 43))
        (1000 * 2 ^ 43)) enough bounded least
  have roundedNormal : Normal rounded shifted := by
    obtain ⟨lowerThen, upperThen, near⟩ := rounds
    exact ⟨lowerThen, upperThen, by omega, by omega⟩
  have quotient := div_eq (signOf number) .positive normal
    (⟨by decide, by decide, by decide, by decide⟩ : Normal (1000 * 2 ^ 43) (-43)) (by omega)
    positive (by decide)
  refine ⟨rounded, shifted, roundedPositive, rounds, ?_⟩
  change (Float.Model.pack (UnpackedFloat.div .binary64 (Float.ofInt number).toModel.unpack
    (1000 : Float).toModel.unpack)).unpack = _
  rw [unpack_ofInt lower upper narrow positive, unpack_thousand, quotient, scaled, exponent,
    sign_div_positive, result, unpack_pack roundedNormal]

theorem exists_unpack_metres {number : Int} (nonzero : number ≠ 0)
    (bounded : number.natAbs < 2 ^ 53) :
    ∃ bits mantissa exponent positive,
      2 ^ bits ≤ number.natAbs ∧ number.natAbs < 2 ^ (bits + 1) ∧
        Rounds (integerMantissa number.natAbs bits * 1024 / 1000) (bits - 62) mantissa exponent ∧
          (metres number).toModel.unpack = .finite (signOf number) mantissa exponent positive := by
  have positive : number.natAbs ≠ 0 := by omega
  have lower := Nat.log2_self_le positive
  have upper := Nat.lt_log2_self (n := number.natAbs)
  have narrow : number.natAbs.log2 ≤ 52 := Nat.le_of_lt_succ ((Nat.log2_lt positive).mpr bounded)
  obtain ⟨mantissa, exponent, positive, rounds, unpacked⟩ := unpack_metres lower upper narrow
  exact ⟨_, mantissa, exponent, positive, lower, upper, rounds, unpacked⟩

/-! ## The error code -/

private theorem isFinite_of_unpack {number : Float} {sign : Sign} {mantissa : Nat} {exponent : Int}
    {positive : 0 < mantissa}
    (unpacked : number.toModel.unpack = .finite sign mantissa exponent positive) :
    number.isFinite = true := by
  change number.toModel.unpack.isFinite = true
  rw [unpacked]
  rfl

private theorem errorCode_lt_iff_unpack (number : Float) :
    errorCode < number ↔
      UnpackedFloat.lt errorCode.toModel.unpack number.toModel.unpack = true := by
  change decide (UnpackedFloat.lt errorCode.toModel.unpack number.toModel.unpack = true) = true ↔ _
  exact decide_eq_true_iff

private theorem errorCode_lt_of_positive {number : Float} {mantissa : Nat} {exponent : Int}
    {positive : 0 < mantissa}
    (unpacked : number.toModel.unpack = .finite .positive mantissa exponent positive) :
    errorCode < number := by
  rw [errorCode_lt_iff_unpack, unpack_errorCode, unpacked]
  rfl

/-- A negative double is above the error code if its exponent is smaller, or else its mantissa. -/
theorem errorCode_lt_iff_of_negative {number : Float} {mantissa : Nat} {exponent : Int}
    {positive : 0 < mantissa}
    (unpacked : number.toModel.unpack = .finite .negative mantissa exponent positive) :
    errorCode < number ↔ exponent < -43 ∨ exponent = -43 ∧ mantissa < 1000 * 2 ^ 43 := by
  rw [errorCode_lt_iff_unpack, unpack_errorCode, unpacked]
  simp only [UnpackedFloat.lt, UnpackedFloat.compare, beq_iff_eq, Option.some.injEq,
    Ordering.swap_eq_lt, Ordering.then_eq_gt, Int.compare_eq_gt, Int.compare_eq_eq,
    Nat.compare_eq_gt]
  omega

/-- What rounds from a negative number of millimetres is on the same side of a thousand metres below
zero as the number itself. -/
theorem below_iff_of_rounds {magnitude bits mantissa : Nat} {exponent : Int}
    (lower : 2 ^ bits ≤ magnitude) (upper : magnitude < 2 ^ (bits + 1))
    (rounds : Rounds (integerMantissa magnitude bits * 1024 / 1000) (bits - 62) mantissa exponent) :
    exponent < -43 ∨ exponent = -43 ∧ mantissa < 1000 * 2 ^ 43 ↔ magnitude < 1000000 := by
  obtain ⟨wide, fits, near⟩ := rounds
  -- A thousand metres are a million millimetres, which have twenty bits.
  rcases Nat.lt_trichotomy bits 19 with few | same | many
  · have small : magnitude < 2 ^ 19 :=
      Nat.lt_of_lt_of_le upper (Nat.pow_le_pow_right (by decide) few)
    rcases Nat.lt_or_eq_of_le (Nat.le_of_lt_succ few) with fewer | same
    · omega
    · have whole : integerMantissa magnitude bits = magnitude * 2 ^ 34 := by
        rw [integerMantissa, same]
      omega
  · have whole : integerMantissa magnitude bits = magnitude * 2 ^ 33 := by
      rw [integerMantissa, same]
    omega
  · have large : 2 ^ 20 ≤ magnitude := Nat.le_trans (Nat.pow_le_pow_right (by decide) many) lower
    omega

/-- Millimetres are a distance if and only if they are above the error code as an integer. -/
theorem isDistance_metres {number : Int} (bounded : number.natAbs < 2 ^ 53) :
    isDistance (metres number) = decide (-1000000 < number) := by
  by_cases zero : number = 0
  · rw [zero]
    rfl
  · obtain ⟨bits, mantissa, exponent, positive, lower, upper, rounds, unpacked⟩ :=
      exists_unpack_metres zero bounded
    rw [isDistance, isFinite_of_unpack unpacked, Bool.true_and, decide_eq_decide]
    by_cases negative : number < 0
    · rw [signOf, if_pos negative] at unpacked
      rw [errorCode_lt_iff_of_negative unpacked, below_iff_of_rounds lower upper rounds]
      omega
    · rw [signOf, if_neg negative] at unpacked
      have above := errorCode_lt_of_positive unpacked
      simp only [above, true_iff]
      omega

end TagFix.Telemetry
