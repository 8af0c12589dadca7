import Mathlib.Data.Prod.Lex
import Mathlib.Data.Int.Order.Basic
import TagFix.Proofs.Double

/-!
# The order of doubles

What is no number compares with nothing. All other doubles are in one order, in which zero of either
sign has one place.
-/

open Float.Model (UnpackedFloat)
open Float.Model.UnpackedFloat

namespace TagFix.Double

/-- The place of a number among all: its class from negative infinity to infinity and, for what is
finite and not zero, exponent and mantissa. -/
def place : UnpackedFloat → ℤ ×ₗ ℤ ×ₗ ℤ
  | .infinity .negative => toLex (-2, toLex (0, 0))
  | .finite .negative mantissa exponent _ => toLex (-1, toLex (-exponent, -mantissa))
  | .notANumber => toLex (0, toLex (0, 0))
  | .zero _ => toLex (0, toLex (0, 0))
  | .finite .positive mantissa exponent _ => toLex (1, toLex (exponent, mantissa))
  | .infinity .positive => toLex (2, toLex (0, 0))

private theorem isLE_compare_then (exponent otherExponent : Int) (mantissa otherMantissa : Nat) :
    ((compare exponent otherExponent).then (compare mantissa otherMantissa)).isLE = true ↔
      exponent < otherExponent ∨ exponent = otherExponent ∧ mantissa ≤ otherMantissa := by
  rw [Ordering.isLE_then_iff_or, Int.compare_eq_lt, Int.compare_eq_eq, Nat.isLE_compare]

private theorem place_le_place_iff {first second : UnpackedFloat} (number : first.isNaN = false)
    (other : second.isNaN = false) :
    place first ≤ place second ↔ UnpackedFloat.le first second = true := by
  rcases first with (_ | _) | _ | _ | ⟨_ | _, mantissa, exponent, _⟩ <;>
    rcases second with (_ | _) | _ | _ | ⟨_ | _, otherMantissa, otherExponent, _⟩
  case finite.negative.finite.negative =>
    change _ ↔ (Ordering.swap _).isLE = true
    rw [Ordering.swap_then, Int.compare_swap, Nat.compare_swap, isLE_compare_then]
    simp [place, Prod.Lex.toLex_le_toLex, eq_comm]
  case finite.positive.finite.positive =>
    change _ ↔ (Ordering.then _ _).isLE = true
    rw [isLE_compare_then]
    simp [place, Prod.Lex.toLex_le_toLex]
  case infinity.negative.infinity.negative | infinity.negative.infinity.positive |
      infinity.positive.infinity.negative | infinity.positive.infinity.positive =>
    decide
  -- What is no number is left out, and all other numbers differ in their class.
  all_goals
    first
    | exact absurd number (by decide)
    | exact absurd other (by decide)
    | simp [UnpackedFloat.le, UnpackedFloat.compare, place, Prod.Lex.toLex_le_toLex]

private theorem isNaN_of_unpacked_le {first second : UnpackedFloat}
    (ordered : UnpackedFloat.le first second = true) :
    first.isNaN = false ∧ second.isNaN = false := by
  cases first with
  | notANumber => cases ordered
  | _ =>
      cases second with
      | notANumber => cases ordered
      | _ => exact ⟨rfl, rfl⟩

/-- Doubles are compared by their places, and what is no number compares with nothing. -/
theorem le_iff {x y : Float} :
    x ≤ y ↔
      x.isNaN = false ∧ y.isNaN = false ∧ place x.toModel.unpack ≤ place y.toModel.unpack := by
  change decide (UnpackedFloat.le x.toModel.unpack y.toModel.unpack = true) = true ↔
    x.toModel.unpack.isNaN = false ∧ y.toModel.unpack.isNaN = false ∧ _
  rw [decide_eq_true_iff]
  constructor
  · intro ordered
    obtain ⟨number, other⟩ := isNaN_of_unpacked_le ordered
    exact ⟨number, other, (place_le_place_iff number other).mpr ordered⟩
  · rintro ⟨number, other, ordered⟩
    exact (place_le_place_iff number other).mp ordered

section Order

variable {x y z : Float}

theorem le_refl (number : x.isNaN = false) : x ≤ x :=
  le_iff.mpr ⟨number, number, le_rfl⟩

theorem le_trans (lower : x ≤ y) (upper : y ≤ z) : x ≤ z := by
  obtain ⟨number, -, below⟩ := le_iff.mp lower
  obtain ⟨-, other, above⟩ := le_iff.mp upper
  exact le_iff.mpr ⟨number, other, below.trans above⟩

theorem le_of_not_le (number : x.isNaN = false) (other : y.isNaN = false) (above : ¬ x ≤ y) :
    y ≤ x := by
  rcases le_total (place x.toModel.unpack) (place y.toModel.unpack) with ordered | ordered
  · exact absurd (le_iff.mpr ⟨number, other, ordered⟩) above
  · exact le_iff.mpr ⟨other, number, ordered⟩

end Order

end TagFix.Double
