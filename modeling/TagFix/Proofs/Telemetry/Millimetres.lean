import TagFix.Proofs.Decimal.Binary
import TagFix.Proofs.Telemetry.Metres

/-!
# Millimetres

A distance is sent as a whole number of millimetres. Those of a number of millimetres that was
divided by a thousand are the number again: both roundings together are far less than a half.
-/

open Float.Model (UnpackedFloat)
open Float.Model.UnpackedFloat (Sign)

namespace TagFix.Telemetry

open Decimal (Binary isNegative)
open TagFix.Double

/-! ## What is sent -/

/-- The integer that a number is rounded to, halves away from zero, and kept within 32 bits. What is
no number becomes zero. -/
def saturated : Binary → Int
  | .notANumber => 0
  | .infinite negative => if negative then LittleEndian.least else LittleEndian.greatest
  | .finite negative mantissa exponent =>
      let size : Int := round (mantissa * 2 ^ exponent : ℚ)
      LittleEndian.clamp (if negative then -size else size)

private theorem unpack_mul_thousand (x : Float) : (x * 1000).toModel.unpack =
    (Float.Model.pack (UnpackedFloat.mul .binary64 x.toModel.unpack
      (.finite .positive (1000 * 2 ^ 43) (-43) (by decide)))).unpack := rfl

private theorem lt_zero_iff (x : Float) :
    x < 0 ↔ UnpackedFloat.lt x.toModel.unpack (.zero .positive) = true := by
  change decide (UnpackedFloat.lt x.toModel.unpack (0 : Float).toModel.unpack = true) = true ↔ _
  exact decide_eq_true_iff

/-- A product that is too large has the sign of the number. -/
theorem lt_zero_of_infinite {x : Float} {negative : Bool}
    (infinite : Binary.ofFloat (x * 1000) = .infinite negative) : x < 0 ↔ negative = true := by
  rw [Decimal.ofFloat_eq, unpack_mul_thousand] at infinite
  rw [lt_zero_iff]
  generalize x.toModel.unpack = unpacked at infinite ⊢
  cases unpacked with
  | notANumber => cases infinite
  | infinity sign =>
      cases sign with
      | negative => cases infinite; decide
      | positive => cases infinite; decide
  | zero sign =>
      cases sign with
      | negative => cases infinite
      | positive => cases infinite
  | finite sign mantissa exponent positive =>
      rw [UnpackedFloat.mul, sign_mul_positive] at infinite
      rcases Decimal.roundWithAccuracy_cases sign (mantissa * (1000 * 2 ^ 43)) (exponent + -43)
        .exact with small | ⟨rounded, last, roundedPositive, rounds⟩
      · rw [small] at infinite
        cases sign with
        | negative => cases infinite
        | positive => cases infinite
      · rw [rounds] at infinite
        cases packed : (Float.Model.pack (.finite sign rounded last roundedPositive)).unpack with
        | infinity signed =>
            rw [packed] at infinite
            obtain rfl := Decimal.sign_of_pack_infinity packed
            cases infinite
            cases signed with
            | negative => exact Iff.rfl
            | positive => exact Iff.rfl
        | _ =>
            rw [packed] at infinite
            cases infinite

/-- The distance is multiplied in doubles first, and only the product is rounded to an integer. -/
theorem millimetres_eq (x : Float) : millimetres x = saturated (Binary.ofFloat (x * 1000)) := by
  unfold millimetres Decimal.nearestInteger
  cases product : Binary.ofFloat (x * 1000) with
  | notANumber => rfl
  | infinite negative =>
      simp only [lt_zero_of_infinite product]
      rfl
  | finite negative mantissa exponent =>
      simp only [Decimal.roundScaled_eq_round]
      rfl

/-! ## What was received -/

/-- Twice rounded, the metres of a number of millimetres times a thousand are eight times the number
but for a few units, in units of an eighth of the last place. -/
theorem near_of_rounds {number bits mantissa places rounded : Nat} {exponent last : Int}
    (narrow : bits ≤ 50)
    (metres : Rounds (integerMantissa number bits * 1024 / 1000) (bits - 62) mantissa exponent)
    (either : places = 52 ∨ places = 53)
    (product : Rounds (mantissa * (1000 * 2 ^ 43) / 2 ^ places) (exponent + -43 + places)
      rounded last) :
    ∃ spare ≤ 3, last = bits - 53 + (spare : Nat) ∧
      8 * (number * 2 ^ (50 - bits)) ≤ 2 ^ spare * rounded + 64 ∧
        2 ^ spare * rounded ≤ 8 * (number * 2 ^ (50 - bits)) + 64 := by
  have quarters : integerMantissa number bits = 4 * (number * 2 ^ (50 - bits)) := by
    rw [integerMantissa, show 52 - bits = 50 - bits + 2 by omega, Nat.pow_add]
    ring
  rw [quarters] at metres
  generalize number * 2 ^ (50 - bits) = quarter at metres ⊢
  -- Each rounding carries or does not, and the product has one of two lengths: `spare` counts how
  -- often the last place moved up.
  obtain ⟨-, -, ⟨rfl, _, _⟩ | ⟨rfl, _, _⟩⟩ := metres <;>
    obtain rfl | rfl := either <;>
      obtain ⟨-, -, ⟨rfl, _, _⟩ | ⟨rfl, _, _⟩⟩ := product
  · exact ⟨0, by omega, by omega, by omega, by omega⟩
  · exact ⟨1, by omega, by omega, by omega, by omega⟩
  · exact ⟨1, by omega, by omega, by omega, by omega⟩
  · exact ⟨2, by omega, by omega, by omega, by omega⟩
  · exact ⟨1, by omega, by omega, by omega, by omega⟩
  · exact ⟨2, by omega, by omega, by omega, by omega⟩
  · exact ⟨2, by omega, by omega, by omega, by omega⟩
  · exact ⟨3, by omega, by omega, by omega, by omega⟩

/-- What is as near as that to a number of at most 32 bits is rounded to the number. -/
theorem roundScaled_of_near {number bits spare rounded : Nat} (narrow : bits ≤ 31)
    (few : spare ≤ 3) (lower : 8 * (number * 2 ^ (50 - bits)) ≤ 2 ^ spare * rounded + 64)
    (upper : 2 ^ spare * rounded ≤ 8 * (number * 2 ^ (50 - bits)) + 64) :
    Decimal.roundScaled .awayFromZero 1 rounded (bits - 53 + spare) = number := by
  have negative : ¬(0 : Int) ≤ bits - 53 + spare := by omega
  have places : (-((bits : Int) - 53 + spare)).toNat = 50 - bits + (3 - spare) := by omega
  have large : 2 ^ 19 ≤ 2 ^ (50 - bits) := Nat.pow_le_pow_right (by decide) (by omega)
  simp only [Decimal.roundScaled, Decimal.quotient, if_neg negative, places, Nat.pow_eq,
    Nat.pow_add, Nat.mul_one]
  rw [Decimal.roundDiv_awayFromZero _ (Nat.mul_pos (by omega) (Nat.two_pow_pos _))]
  generalize 2 ^ (50 - bits) = unit at lower upper large ⊢
  have counted : spare = 0 ∨ spare = 1 ∨ spare = 2 ∨ spare = 3 := by omega
  apply Nat.div_eq_of_lt_le
  · obtain rfl | rfl | rfl | rfl := counted <;> norm_num at lower large ⊢ <;> linarith
  · obtain rfl | rfl | rfl | rfl := counted <;> norm_num at upper large ⊢ <;> linarith

private theorem ofFloat_metres_zero :
    Binary.ofFloat (metres 0 * 1000) = .finite false 0 (-1074) := rfl

private theorem roundScaled_zero (exponent : Int) :
    Decimal.roundScaled .awayFromZero 1 0 exponent = 0 := by
  have rounded := Decimal.roundScaled_eq_round 0 exponent
  simpa using rounded

/-- The sign goes back to a number from its size. -/
theorem clamp_signOf {number : Int}
    (fits : LittleEndian.least ≤ number ∧ number ≤ LittleEndian.greatest) :
    LittleEndian.clamp (if isNegative (signOf number) then -(number.natAbs : Int)
      else number.natAbs) = number := by
  have whole : (if isNegative (signOf number) then -(number.natAbs : Int) else number.natAbs) =
      number := by
    by_cases negative : number < 0
    · rw [signOf, if_pos negative]
      simp only [isNegative, if_true]
      omega
    · rw [signOf, if_neg negative]
      simp only [isNegative, Bool.false_eq_true, if_false]
      omega
  rw [whole, LittleEndian.clamp, min_eq_left fits.2, max_eq_right fits.1]

/-- No number of millimetres is lost in metres. -/
theorem millimetres_metres {number : Int}
    (fits : LittleEndian.least ≤ number ∧ number ≤ LittleEndian.greatest) :
    millimetres (metres number) = number := by
  have bounded : number.natAbs < 2 ^ 32 := by
    unfold LittleEndian.least LittleEndian.greatest at fits
    omega
  unfold millimetres Decimal.nearestInteger
  by_cases zero : number = 0
  · rw [zero, ofFloat_metres_zero]
    simp only [roundScaled_zero]
    rfl
  · obtain ⟨bits, mantissa, exponent, positive, lower, upper, rounds, unpacked⟩ :=
      exists_unpack_metres zero (by omega)
    have narrow : bits ≤ 31 :=
      Nat.le_of_lt_succ ((Nat.pow_lt_pow_iff_right (by decide)).mp
        (Nat.lt_of_le_of_lt lower bounded))
    have normal : Normal mantissa exponent := by
      obtain ⟨wide, fits, near⟩ := rounds
      exact ⟨wide, fits, by omega, by omega⟩
    obtain ⟨places, rounded, last, roundedPositive, either, product, result⟩ :=
      exists_mul (signOf number) .positive normal
        (⟨by decide, by decide, by decide, by decide⟩ : Normal (1000 * 2 ^ 43) (-43))
        (by have near := rounds.2.2; omega) positive (by decide)
    obtain ⟨spare, few, place, below, above⟩ := near_of_rounds (by omega) rounds either product
    have roundedNormal : Normal rounded last := by
      obtain ⟨wide, fits, -⟩ := product
      exact ⟨wide, fits, by omega, by omega⟩
    have size := roundScaled_of_near narrow few below above
    rw [← place] at size
    rw [Decimal.ofFloat_eq, unpack_mul_thousand, unpacked, result, unpack_pack roundedNormal,
      sign_mul_positive]
    simp only [Binary.ofUnpacked, size]
    exact clamp_signOf fits

end TagFix.Telemetry
