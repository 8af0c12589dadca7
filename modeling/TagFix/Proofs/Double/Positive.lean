import TagFix.Proofs.Double.Magnitude

/-!
# Positive doubles

Products and quotients of positive numbers are positive as long as they become neither infinite nor
zero. The smaller of a product and a positive number, and the larger of a quotient and one, need no
such care.
-/

open Float.Model (UnpackedFloat)
open Float.Model.UnpackedFloat

namespace TagFix.Double

/-! ## Unpacked numbers -/

inductive Positive : UnpackedFloat → Prop
  | finite (mantissa : ℕ) (exponent : ℤ) (positive : 0 < mantissa) :
      Positive (.finite .positive mantissa exponent positive)

section Unpacked

variable {bound : ℤ} {first second : UnpackedFloat}

theorem Positive.signed_mul (positive : Positive first) (other : Positive second) :
    Signed .positive (Float.Model.pack (UnpackedFloat.mul .binary64 first second)).unpack := by
  cases positive
  cases other
  exact (signed_roundWithAccuracy .positive _ _ _).unpack_pack

theorem Positive.signed_div (positive : Positive first) (other : Positive second) :
    Signed .positive (Float.Model.pack (UnpackedFloat.div .binary64 first second)).unpack := by
  cases positive
  cases other
  exact (signed_roundWithAccuracy .positive _ _ _).unpack_pack

/-- What is positive and has a first digit is infinite or a positive number. -/
theorem Signed.infinity_or_positive (signed : Signed .positive first) (above : Above bound first) :
    first = .infinity .positive ∨ Positive first := by
  cases signed with
  | zero => cases above
  | infinity => exact Or.inl rfl
  | finite mantissa exponent positive => exact Or.inr (.finite mantissa exponent positive)

/-- What is positive and finite is zero or a positive number. -/
theorem Signed.zero_or_positive (signed : Signed .positive first)
    (finite : first.isFinite = true) : first = .zero .positive ∨ Positive first := by
  cases signed with
  | zero => exact Or.inl rfl
  | infinity => cases finite
  | finite mantissa exponent positive => exact Or.inr (.finite mantissa exponent positive)

end Unpacked

/-! ## Doubles -/

section Doubles

variable {bound : ℤ} {x y : Float}

private theorem lt_iff : x < y ↔ UnpackedFloat.lt x.toModel.unpack y.toModel.unpack = true := by
  change decide (UnpackedFloat.lt x.toModel.unpack y.toModel.unpack = true) = true ↔ _
  exact decide_eq_true_iff

theorem positive_iff : Positive x.toModel.unpack ↔ x.isFinite = true ∧ 0 < x := by
  have finite : x.isFinite = x.toModel.unpack.isFinite := rfl
  have zero : (0 : Float).toModel.unpack = .zero .positive := rfl
  rw [lt_iff, finite, zero]
  generalize x.toModel.unpack = number
  constructor
  · rintro ⟨mantissa, exponent, positive⟩
    exact ⟨rfl, rfl⟩
  · rintro ⟨finite, less⟩
    cases number with
    | notANumber => cases finite
    | infinity sign => cases finite
    | zero sign => cases less
    | finite sign mantissa exponent positive =>
        cases sign with
        | negative => cases less
        | positive => exact .finite mantissa exponent positive

/-- The first digit of a positive number stands where doubles have digits. -/
theorem Positive.above (positive : Positive x.toModel.unpack) :
    Above (-1074) x.toModel.unpack := by
  have unpacked := unpacked x
  generalize x.toModel.unpack = number at positive unpacked ⊢
  obtain ⟨mantissa, exponent, some⟩ := positive
  obtain ⟨-, least, -⟩ := unpacked.canonical
  exact .finite some (by omega)

theorem Positive.below (positive : Positive x.toModel.unpack) : Below 1024 x.toModel.unpack :=
  below_of_finite (positive_iff.mp positive).1 (not_above_of_finite (positive_iff.mp positive).1)

theorem Positive.isNaN_eq_false (positive : Positive x.toModel.unpack) : x.isNaN = false :=
  isNaN_of_finite (positive_iff.mp positive).1

/-- What is not above a positive number and has a first digit is a positive number. -/
theorem positive_of_not_lt (positive : Positive x.toModel.unpack)
    (signed : Signed .positive y.toModel.unpack) (above : Above bound y.toModel.unpack)
    (notBelow : ¬x < y) : Positive y.toModel.unpack := by
  rcases signed.infinity_or_positive above with infinite | known
  · refine absurd (lt_iff.mpr ?_) notBelow
    rw [infinite]
    generalize x.toModel.unpack = number at positive
    cases positive
    rfl
  · exact known

/-- What is not below a positive number and is finite is a positive number. -/
theorem positive_of_not_gt (positive : Positive x.toModel.unpack)
    (signed : Signed .positive y.toModel.unpack) (finite : y.isFinite = true)
    (notAbove : ¬y < x) : Positive y.toModel.unpack := by
  rcases signed.zero_or_positive finite with zero | known
  · refine absurd (lt_iff.mpr ?_) notAbove
    rw [zero]
    generalize x.toModel.unpack = number at positive
    cases positive
    rfl
  · exact known

end Doubles

end TagFix.Double
