import TagFix.Proofs.Decimal.Binary

/-!
# Doubles that are no finite numbers

Which operations can give what is no number, and what a finite result says about the operands.
-/

open Float.Model (Format UnpackedFloat)
open Float.Model.UnpackedFloat

namespace TagFix.Double

/-! ## Packing -/

/-- That an unpacked double is a number of the given sign, be it zero or infinite. -/
inductive Signed (sign : Sign) : UnpackedFloat → Prop
  | zero : Signed sign (.zero sign)
  | infinity : Signed sign (.infinity sign)
  | finite (mantissa : Nat) (exponent : Int) (positive : 0 < mantissa) :
      Signed sign (.finite sign mantissa exponent positive)

theorem Signed.isNaN_eq_false {sign : Sign} {number : UnpackedFloat}
    (signed : Signed sign number) : number.isNaN = false := by
  cases signed with
  | zero | infinity | finite => rfl

theorem unpack_pack_infinity (sign : Sign) :
    (Float.Model.pack (.infinity sign)).unpack = .infinity sign := by
  cases sign with
  | positive => rfl
  | negative => rfl

theorem unpack_pack_zero (sign : Sign) :
    (Float.Model.pack (.zero sign)).unpack = .zero sign := by
  cases sign with
  | positive => rfl
  | negative => rfl

/-- Only the greatest exponent stands for something other than a finite number. -/
theorem signed_unpack_packComponents (sign : Sign) {exponent : BitVec 11} (mantissa : BitVec 52)
    (finite : exponent ≠ -1#11) :
    Signed sign
      (UnpackedFloat.unpack .binary64 (packComponents .binary64 sign exponent mantissa)) := by
  simp only [UnpackedFloat.unpack, unpackExponent_packComponents, unpackMantissa_packComponents,
    unpackSign_packComponents, ofBitVec_toBitVec]
  rw [if_neg finite]
  split
  · split
    · exact .zero
    · exact .finite _ _ _
  · exact .finite _ _ _

/-- A finite number that is packed may become zero or infinite, but keeps its sign. -/
theorem signed_unpack_pack_finite (sign : Sign) (mantissa : Nat) (exponent : Int)
    (positive : 0 < mantissa) :
    Signed sign (Float.Model.pack (.finite sign mantissa exponent positive)).unpack := by
  change Signed sign (UnpackedFloat.unpack .binary64 (UnpackedFloat.pack .binary64 _))
  unfold UnpackedFloat.pack
  dsimp only
  split
  · have infinite := unpack_pack_infinity sign
    change UnpackedFloat.unpack .binary64 (packedInfinity .binary64 sign) = _ at infinite
    rw [infinite]
    exact .infinity
  · next fits =>
    split
    · apply signed_unpack_packComponents
      intro special
      have value := congrArg BitVec.toNat special
      rw [BitVec.toNat_ofNat] at value
      change _ = 2047 at value
      omega
    · exact signed_unpack_packComponents sign _ (by decide)

/-- A number keeps its sign when it is stored in 64 bits. -/
theorem Signed.unpack_pack {sign : Sign} {number : UnpackedFloat} (signed : Signed sign number) :
    Signed sign (Float.Model.pack number).unpack := by
  cases signed with
  | zero =>
      rw [unpack_pack_zero]
      exact .zero
  | infinity =>
      rw [unpack_pack_infinity]
      exact .infinity
  | finite mantissa exponent positive =>
      exact signed_unpack_pack_finite sign mantissa exponent positive

/-- Packing neither makes nor removes what is no number. -/
theorem isNaN_unpack_pack (number : UnpackedFloat) :
    (Float.Model.pack number).unpack.isNaN = number.isNaN := by
  cases number with
  | notANumber => rfl
  | infinity sign => rw [unpack_pack_infinity]
  | zero sign => rw [unpack_pack_zero]
  | finite sign mantissa exponent positive =>
      exact (signed_unpack_pack_finite sign mantissa exponent positive).isNaN_eq_false

/-- What is finite after packing was finite before. -/
theorem isFinite_of_unpack_pack {number : UnpackedFloat}
    (finite : (Float.Model.pack number).unpack.isFinite = true) : number.isFinite = true := by
  cases number with
  | notANumber => exact finite
  | infinity sign => rwa [unpack_pack_infinity] at finite
  | zero sign => rfl
  | finite sign mantissa exponent positive => rfl

/-! ## Rounding -/

/-- Rounding keeps the sign, and makes no number into something else than a number. -/
theorem signed_roundWithAccuracy (sign : Sign) (mantissa : Nat) (exponent : Int)
    (accuracy : Accuracy) :
    Signed sign (roundWithAccuracy .binary64 sign mantissa exponent accuracy) := by
  rcases Decimal.roundWithAccuracy_cases sign mantissa exponent accuracy with
    zero | ⟨rounded, last, positive, finite⟩
  · rw [zero]
    exact .zero
  · rw [finite]
    exact .finite rounded last positive

private theorem isNaN_normalize (mantissa exponent : Int) :
    (UnpackedFloat.normalize .binary64 mantissa exponent .positive).isNaN = false := by
  unfold UnpackedFloat.normalize
  split
  · exact (signed_roundWithAccuracy _ _ _ _).isNaN_eq_false
  · rfl
  · exact (signed_roundWithAccuracy _ _ _ _).isNaN_eq_false

private theorem signed_normalize_of_positive {mantissa : Int} (exponent : Int)
    (positive : 0 < mantissa) :
    Signed .positive (UnpackedFloat.normalize .binary64 mantissa exponent .positive) := by
  rw [UnpackedFloat.normalize, Int.compare_eq_gt.mpr positive]
  exact signed_roundWithAccuracy _ _ _ _

/-! ## Numbers that are not below zero -/

inductive NonNegative : UnpackedFloat → Prop
  | zero (sign : Sign) : NonNegative (.zero sign)
  | infinity : NonNegative (.infinity .positive)
  | finite (mantissa : Nat) (exponent : Int) (positive : 0 < mantissa) :
      NonNegative (.finite .positive mantissa exponent positive)

private theorem Signed.nonNegative {number : UnpackedFloat} (signed : Signed .positive number) :
    NonNegative number := by
  cases signed with
  | zero => exact .zero .positive
  | infinity => exact .infinity
  | finite mantissa exponent positive => exact .finite mantissa exponent positive

namespace NonNegative

variable {first second : UnpackedFloat}

theorem isNaN_eq_false (nonNegative : NonNegative first) : first.isNaN = false := by
  cases nonNegative with
  | zero | infinity | finite => rfl

private theorem unpack_pack (nonNegative : NonNegative first) :
    NonNegative (Float.Model.pack first).unpack := by
  cases nonNegative with
  | zero sign =>
      rw [unpack_pack_zero]
      exact .zero sign
  | infinity => exact Signed.infinity.unpack_pack.nonNegative
  | finite mantissa exponent positive =>
      exact (Signed.finite mantissa exponent positive).unpack_pack.nonNegative

private theorem mul_self (number : first.isNaN = false) :
    NonNegative (UnpackedFloat.mul .binary64 first first) := by
  cases first with
  | notANumber => cases number
  | infinity sign =>
      cases sign with
      | positive => exact .infinity
      | negative => exact .infinity
  | zero sign =>
      cases sign with
      | positive => exact .zero .positive
      | negative => exact .zero .positive
  | finite sign mantissa exponent positive =>
      cases sign with
      | positive => exact (signed_roundWithAccuracy _ _ _ _).nonNegative
      | negative => exact (signed_roundWithAccuracy _ _ _ _).nonNegative

private theorem add (nonNegative : NonNegative first) (other : NonNegative second) :
    NonNegative (UnpackedFloat.add .binary64 first second) := by
  cases nonNegative with
  | zero sign =>
      cases other with
      | zero otherSign =>
          change NonNegative (if sign == otherSign then .zero sign else .zero .positive)
          split
          · exact .zero sign
          · exact .zero .positive
      | infinity => exact .infinity
      | finite mantissa exponent positive => exact .finite mantissa exponent positive
  | infinity =>
      cases other with
      | zero | infinity | finite => exact .infinity
  | finite mantissa exponent positive =>
      cases other with
      | zero sign => exact .finite mantissa exponent positive
      | infinity => exact .infinity
      | finite otherMantissa otherExponent otherPositive =>
          apply Signed.nonNegative
          apply signed_normalize_of_positive
          have wide := Nat.two_pow_pos (exponent - min exponent otherExponent).toNat
          have shifted := Nat.mul_pos positive wide
          simp only [Sign.apply, Nat.shiftLeft_eq]
          omega

private theorem sqrt (nonNegative : NonNegative first) :
    NonNegative (UnpackedFloat.sqrt .binary64 first) := by
  cases nonNegative with
  | zero sign => exact .zero sign
  | infinity => exact .infinity
  | finite mantissa exponent positive => exact (signed_roundWithAccuracy _ _ _ _).nonNegative

end NonNegative

/-! ## Finite results -/

section Finite

variable {first second : UnpackedFloat}

private theorem isNaN_of_isFinite (finite : first.isFinite = true) : first.isNaN = false := by
  cases first with
  | notANumber => cases finite
  | _ => rfl

/-- Only the difference of two infinities is no number. -/
theorem isNaN_sub (number : first.isNaN = false) (finite : second.isFinite = true) :
    (UnpackedFloat.sub .binary64 first second).isNaN = false := by
  cases first with
  | notANumber => cases number
  | infinity sign =>
      cases second with
      | notANumber | infinity => cases finite
      | zero | finite => rfl
  | zero sign =>
      cases second with
      | notANumber => cases finite
      | infinity otherSign => cases finite
      | zero otherSign => cases sign <;> cases otherSign <;> rfl
      | finite otherSign mantissa exponent positive => rfl
  | finite sign mantissa exponent positive =>
      cases second with
      | notANumber => cases finite
      | infinity otherSign => cases finite
      | zero otherSign => rfl
      | finite otherSign otherMantissa otherExponent otherPositive => exact isNaN_normalize _ _

private theorem isFinite_of_add
    (finite : (UnpackedFloat.add .binary64 first second).isFinite = true) :
    first.isFinite = true ∧ second.isFinite = true := by
  cases first with
  | notANumber => cases finite
  | infinity sign =>
      cases second with
      | infinity otherSign => cases sign <;> cases otherSign <;> cases finite
      | _ => cases finite
  | zero | finite =>
      cases second with
      | notANumber | infinity => cases finite
      | zero | finite => exact ⟨rfl, rfl⟩

private theorem isFinite_neg (number : UnpackedFloat) : number.neg.isFinite = number.isFinite := by
  cases number with
  | _ => rfl

theorem sub_eq_add_neg (first second : UnpackedFloat) :
    UnpackedFloat.sub .binary64 first second = UnpackedFloat.add .binary64 first second.neg := by
  cases first <;> cases second
  case finite.finite sign mantissa exponent positive otherSign otherMantissa otherExponent _ =>
    cases otherSign with
    | negative => exact congrArg (UnpackedFloat.normalize .binary64 · _ _) (Int.sub_neg _ _)
    | positive => exact congrArg (UnpackedFloat.normalize .binary64 · _ _) Int.sub_eq_add_neg
  all_goals rfl

private theorem isFinite_of_sub
    (finite : (UnpackedFloat.sub .binary64 first second).isFinite = true) :
    first.isFinite = true ∧ second.isFinite = true := by
  rw [sub_eq_add_neg] at finite
  rw [← isFinite_neg second]
  exact isFinite_of_add finite

private theorem isFinite_of_mul
    (finite : (UnpackedFloat.mul .binary64 first second).isFinite = true) :
    first.isFinite = true ∧ second.isFinite = true := by
  cases first with
  | notANumber => cases finite
  | infinity sign =>
      cases second with
      | _ => cases finite
  | zero | finite =>
      cases second with
      | notANumber | infinity => cases finite
      | zero | finite => exact ⟨rfl, rfl⟩

private theorem isFinite_of_sqrt (finite : (UnpackedFloat.sqrt .binary64 first).isFinite = true) :
    first.isFinite = true := by
  cases first with
  | notANumber => cases finite
  | infinity sign =>
      cases sign with
      | positive => cases finite
      | negative => cases finite
  | _ => rfl

end Finite

/-! ## Doubles -/

section Doubles

variable {x y : Float}

theorem nonNegative_add (nonNegative : NonNegative x.toModel.unpack)
    (other : NonNegative y.toModel.unpack) : NonNegative (x + y).toModel.unpack :=
  (nonNegative.add other).unpack_pack

theorem nonNegative_mul_self (number : x.isNaN = false) : NonNegative (x * x).toModel.unpack :=
  (NonNegative.mul_self number).unpack_pack

theorem nonNegative_sqrt (nonNegative : NonNegative x.toModel.unpack) :
    NonNegative x.sqrt.toModel.unpack :=
  nonNegative.sqrt.unpack_pack

theorem isNaN_of_finite (finite : x.isFinite = true) : x.isNaN = false :=
  @isNaN_of_isFinite x.toModel.unpack finite

theorem isNaN_sub_of_finite (number : x.isNaN = false) (finite : y.isFinite = true) :
    (x - y).isNaN = false :=
  (isNaN_unpack_pack _).trans (isNaN_sub number finite)

theorem finite_of_add (finite : (x + y).isFinite = true) :
    x.isFinite = true ∧ y.isFinite = true :=
  isFinite_of_add (isFinite_of_unpack_pack finite)

theorem finite_of_sub (finite : (x - y).isFinite = true) :
    x.isFinite = true ∧ y.isFinite = true :=
  isFinite_of_sub (isFinite_of_unpack_pack finite)

theorem finite_of_mul (finite : (x * y).isFinite = true) :
    x.isFinite = true ∧ y.isFinite = true :=
  isFinite_of_mul (isFinite_of_unpack_pack finite)

theorem finite_of_sqrt (finite : x.sqrt.isFinite = true) : x.isFinite = true :=
  isFinite_of_sqrt (isFinite_of_unpack_pack finite)

end Doubles

end TagFix.Double
