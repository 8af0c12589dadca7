import TagFix.Proofs.Double.Positive
import TagFix.Proofs.Position.Search

/-!
# The damping stays positive

Ten times a number and a tenth of it may round to infinity and to zero. The bounds of the damping
take the place of both, so a damping that is a positive number at first is one in every try.
-/

namespace TagFix.Position

open TagFix.Double

/-! ## The smaller and the larger of two numbers -/

section Bounded

variable {x y : Float}

private theorem positive_smallerFloat {bound : ℤ} (signed : Signed .positive x.toModel.unpack)
    (above : Above bound x.toModel.unpack) (positive : Positive y.toModel.unpack) :
    Positive (smallerFloat x y).toModel.unpack := by
  have number : x.isNaN = false := signed.isNaN_eq_false
  rw [smallerFloat, if_neg (Bool.eq_false_iff.mp number),
    if_neg (Bool.eq_false_iff.mp positive.isNaN_eq_false)]
  split
  · exact positive
  · next notBelow => exact positive_of_not_lt positive signed above notBelow

private theorem positive_largerFloat (signed : Signed .positive x.toModel.unpack)
    (finite : x.isFinite = true) (positive : Positive y.toModel.unpack) :
    Positive (largerFloat x y).toModel.unpack := by
  have number : x.isNaN = false := signed.isNaN_eq_false
  rw [largerFloat, if_neg (Bool.eq_false_iff.mp number),
    if_neg (Bool.eq_false_iff.mp positive.isNaN_eq_false)]
  split
  · exact positive
  · next notAbove => exact positive_of_not_gt positive signed finite notAbove

end Bounded

/-! ## Easing and stiffening -/

private theorem unpack_ten :
    (Float.ofNat 10).toModel.unpack = .finite .positive 5629499534213120 (-49) (by decide) :=
  rfl

private theorem positive_ten : Positive (Float.ofNat 10).toModel.unpack :=
  unpack_ten ▸ .finite _ _ _

private theorem above_ten : Above 3 (Float.ofNat 10).toModel.unpack :=
  unpack_ten ▸ .finite _ (by decide)

variable {damping : Float}

/-- Ten times a number may be infinite, and then the greatest damping is smaller. -/
theorem positive_stiffened (positive : Positive damping.toModel.unpack) :
    Positive (stiffened damping).toModel.unpack := by
  have greatest : Positive (greatestDamping : Float).toModel.unpack :=
    positive_iff.mpr ⟨rfl, rfl⟩
  have above := above_mul positive.above above_ten (by decide)
  exact positive_smallerFloat (positive.signed_mul positive_ten) above greatest

/-- A tenth of a number may be zero, and then the least damping is larger. -/
theorem positive_eased (positive : Positive damping.toModel.unpack) :
    Positive (eased damping).toModel.unpack := by
  have least : Positive (leastDamping : Float).toModel.unpack := positive_iff.mpr ⟨rfl, rfl⟩
  have below := below_div positive.below above_ten (by decide) (by decide)
  exact positive_largerFloat (positive.signed_div positive_ten) (isFinite_of_below below) least

/-! ## Searches -/

/-- However a search goes, its damping stays positive and finite if it is so at first. -/
theorem positive_damping_of_mem_tries {solver : Solver Float} {given : List (Sample Float)}
    {search : Search Float} {remaining : Nat} (positive : Positive search.damping.toModel.unpack) :
    ∀ later ∈ search.tries solver given remaining,
      later.damping.isFinite = true ∧ 0 < later.damping := by
  intro later member
  exact positive_iff.mp <|
    Search.damping_of_mem_tries (motive := fun damping => Positive damping.toModel.unpack)
      (fun _ => positive_eased) (fun _ => positive_stiffened) positive later member

end TagFix.Position
