import TagFix.Config.Check
import TagFix.Proofs.Double.Magnitude
import TagFix.Proofs.Position.Search

/-!
# Finite costs

A search only moves to points with finite costs, but takes the cost at its start as it is. So a
search that ends has an infinite residual exactly if neither its start nor any point that it looked
at has a finite cost. Where the cost is finite, the gradient is finite too, and both are at inputs
that are not astronomically large. The main statement is `converged_costs`.
-/

namespace TagFix.Position

open TagFix.Double
open Arithmetic hiding isFinite

/-! ## Lengths -/

section Length

variable {bound : ℤ} {vector point : Point Float}

/-- That all coordinates have their first digits before the given place. -/
structure Point.IsBelow (bound : ℤ) (point : Point Float) : Prop where
  x : Below bound point.x.toModel.unpack
  y : Below bound point.y.toModel.unpack
  z : Below bound point.z.toModel.unpack

private theorem Point.IsBelow.sub {other : Point Float} (below : point.IsBelow bound)
    (otherBelow : other.IsBelow bound) (least : -1075 ≤ bound) (most : bound ≤ 1022) :
    (point - other).IsBelow (bound + 2) where
  x := below_sub below.x otherBelow.x least most
  y := below_sub below.y otherBelow.y least most
  z := below_sub below.z otherBelow.z least most

private theorem below_norm (below : vector.IsBelow bound) (least : -530 ≤ bound)
    (most : bound ≤ 500) :
    Below (bound + 4) vector.norm.toModel.unpack := by
  have squared {a : Float} (below : Below bound a.toModel.unpack) :
      Below (2 * bound + 1) (a * a).toModel.unpack :=
    (below_mul below below (by omega) (by omega)).mono (by omega)
  have number {a : Float} (below : Below bound a.toModel.unpack) : a.isNaN = false :=
    isNaN_of_finite (isFinite_of_below below)
  have plane := below_add (squared below.x) (squared below.y) (by omega) (by omega)
  have space := below_add plane ((squared below.z).mono (by omega)) (by omega) (by omega)
  have half : 2 * bound + 1 + 2 + 2 ≤ 2 * (bound + 3) := by omega
  refine (below_sqrt (space.mono half) ?_ (by omega) (by omega)).mono (by omega)
  have plane := nonNegative_add (nonNegative_mul_self (number below.x))
    (nonNegative_mul_self (number below.y))
  exact nonNegative_add plane (nonNegative_mul_self (number below.z))

/-- No coordinate has its first digit beyond that of the length. -/
theorem above_norm (finite : vector.isFinite = true) (least : -537 < bound)
    (above : Above bound vector.x.toModel.unpack ∨ Above bound vector.y.toModel.unpack ∨
      Above bound vector.z.toModel.unpack) : Above bound vector.norm.toModel.unpack := by
  rw [Point.isFinite_iff] at finite
  obtain ⟨finiteX, finiteY, finiteZ⟩ := finite
  have squareX := nonNegative_mul_self (isNaN_of_finite finiteX)
  have squareY := nonNegative_mul_self (isNaN_of_finite finiteY)
  have squareZ := nonNegative_mul_self (isNaN_of_finite finiteZ)
  have squared {a : Float} (above : Above bound a.toModel.unpack) :
      Above (2 * bound) (a * a).toModel.unpack := by
    rw [Int.two_mul]
    exact above_mul above above (by omega)
  have plane := nonNegative_add squareX squareY
  apply above_sqrt _ (nonNegative_add plane squareZ) (by omega)
  rcases above with above | above | above
  · exact above_add_left (above_add_left (squared above) squareX squareY (by omega)) plane squareZ
      (by omega)
  · exact above_add_left (above_add_right squareX (squared above) squareY (by omega)) plane squareZ
      (by omega)
  · exact above_add_right plane (squared above) squareZ (by omega)

end Length

/-! ## The gradient where the cost is finite -/

section Gradient

variable {given : List (Sample Float)} {point : Point Float}

private theorem unpack_coincidence :
    (coincidence : Float).toModel.unpack =
      .finite .positive 4951760157141521 (-92) (by decide) := by
  rfl

/-- A coordinate that is divided by a length is at most about one. -/
theorem below_quotient {coordinate length : Float} (finite : coordinate.isFinite = true)
    (apart : Above (-40) length.toModel.unpack)
    (covers : ∀ bound, -537 < bound → Above bound coordinate.toModel.unpack →
      Above bound length.toModel.unpack) :
    Below 2 (coordinate / length).toModel.unpack := by
  by_cases large : Above (-500) coordinate.toModel.unpack
  · obtain ⟨first, least, above, below⟩ := exists_first finite large
    have quotient := below_div below (covers first (by omega) above) (by omega) (by omega)
    exact quotient.mono (by omega)
  · have quotient := below_div (below_of_finite finite large) apart (by decide) (by decide)
    exact quotient.mono (by decide)

/-- What a row adds to the gradient is small where the error has a finite square. -/
theorem Sample.isBelow_row {sample : Sample Float} {row : Row Float}
    (present : sample.row? point = some row)
    (finite : (sample.error point * sample.error point).isFinite = true) :
    (row.direction.times row.error).IsBelow 969 := by
  have error := below_of_mul_self finite
  have length : (point - sample.anchor).norm.isFinite = true :=
    (finite_of_sub (finite_of_mul finite).1).1
  have vector := finite_of_norm length
  have coordinates := (Point.isFinite_iff _).mp vector
  obtain ⟨x, y, z⟩ := coordinates
  have nonNegative : NonNegative (point - sample.anchor).norm.toModel.unpack :=
    nonNegative_norm (isNaN_of_finite x) (isNaN_of_finite y) (isNaN_of_finite z)
  rw [Sample.row?] at present
  by_cases coincident : isLess (point - sample.anchor).norm coincidence = true
  · rw [if_pos coincident] at present
    cases present
  · rw [if_neg coincident] at present
    obtain rfl := Option.some.inj present
    have apart : Above (-40) (point - sample.anchor).norm.toModel.unpack :=
      above_of_not_lt nonNegative unpack_coincidence (by decide)
        fun less => coincident (decide_eq_true less)
    have small {coordinate : Float} (finite : coordinate.isFinite = true)
        (covers : ∀ bound, -537 < bound → Above bound coordinate.toModel.unpack →
          Above bound (point - sample.anchor).norm.toModel.unpack) :
        Below 969
          (coordinate / (point - sample.anchor).norm * sample.error point).toModel.unpack :=
      (below_mul (below_quotient finite apart covers) error (by decide) (by decide)).mono
        (by decide)
    exact ⟨small x fun bound least above => above_norm vector least (Or.inl above),
      small y fun bound least above => above_norm vector least (Or.inr (Or.inl above)),
      small z fun bound least above => above_norm vector least (Or.inr (Or.inr above))⟩

private theorem Point.finite_add {sum : Point Float} (finite : sum.isFinite = true)
    (below : point.IsBelow 969) : (sum + point).isFinite = true := by
  rw [Point.isFinite_iff] at finite ⊢
  exact ⟨Double.finite_add finite.1 below.x, Double.finite_add finite.2.1 below.y,
    Double.finite_add finite.2.2 below.z⟩

private theorem finite_of_foldl_cost {sum : Float}
    (finite : (given.foldl (fun sum sample =>
      sum + sample.error point * sample.error point) sum).isFinite = true) :
    sum.isFinite = true ∧
      ∀ sample ∈ given, (sample.error point * sample.error point).isFinite = true := by
  induction given generalizing sum with
  | nil => exact ⟨finite, List.forall_mem_nil _⟩
  | cons sample others inductionHypothesis =>
      obtain ⟨added, later⟩ := inductionHypothesis finite
      obtain ⟨before, square⟩ := finite_of_add added
      exact ⟨before, List.forall_mem_cons.mpr ⟨square, later⟩⟩

/-- Where the cost is finite the gradient is finite, too, however many samples there are. -/
theorem isFinite_gradient (finite : (cost given point).isFinite = true) :
    (gradient (given.filterMap fun sample => sample.row? point)).isFinite = true := by
  have squares := (finite_of_foldl_cost finite).2
  apply List.foldlRecOn (motive := fun sum : Point Float => sum.isFinite = true)
  · rfl
  · intro sum placed row member
    obtain ⟨sample, given, present⟩ := List.mem_filterMap.mp member
    exact Point.finite_add placed (Sample.isBelow_row present (squares sample given))

/-- Inputs below `2 ^ 476` have a finite cost, however many samples there are. -/
theorem isFinite_cost (inputs : ∀ sample ∈ given,
      Below 476 sample.range.toModel.unpack ∧ sample.anchor.IsBelow 476)
    (placed : point.IsBelow 476) : (cost given point).isFinite = true := by
  apply List.foldlRecOn (motive := fun sum : Float => sum.isFinite = true)
  · rfl
  · intro sum finite sample member
    obtain ⟨range, anchor⟩ := inputs sample member
    have length := below_norm (placed.sub anchor (by decide) (by decide)) (by decide) (by decide)
    have error := below_sub length (range.mono (by decide)) (by decide) (by decide)
    have square := below_mul error error (by decide) (by decide)
    exact Double.finite_add finite (square.mono (by decide))

end Gradient

/-! ## Searches that ended -/

section Ended

private theorem finite_of_le {x y : Float} (nonNegative : NonNegative x.toModel.unpack)
    (lower : x ≤ y) (finite : y.isFinite = true) : x.isFinite = true := by
  obtain ⟨-, -, ordered⟩ := le_iff.mp lower
  change y.toModel.unpack.isFinite = true at finite
  change x.toModel.unpack.isFinite = true
  generalize x.toModel.unpack = number, y.toModel.unpack = other at nonNegative finite ordered ⊢
  cases nonNegative with
  | zero sign => rfl
  | finite mantissa exponent positive => rfl
  | infinity =>
      rcases other with _ | _ | _ | ⟨_ | _, _, _, _⟩
      case infinity | notANumber => cases finite
      all_goals
        simp [place, Prod.Lex.toLex_le_toLex] at ordered

/-- What a search says about the costs of the points that it looked at after its start. -/
structure Search.Reports (given : List (Sample Float)) (start : Point Float)
    (looked : List (Point Float)) (solution : Solution Float) : Prop where
  residual_eq : solution.residual = Position.cost given solution.position
  /-- The residual is finite if any of the points has a finite cost. -/
  residual_iff : solution.residual.isFinite = true ↔
    ∃ point ∈ start :: looked, (Position.cost given point).isFinite = true
  /-- Otherwise the search is still at its start, which it cannot compare with anything. -/
  stuck : solution.residual.isFinite = false →
    solution.position = start ∧ solution.residual.toModel.unpack = .infinity .positive
  gradient : solution.residual.isFinite = true →
    (gradient (given.filterMap fun sample => sample.row? solution.position)).isFinite = true
  moderate : (∀ sample ∈ given,
      Below 476 sample.range.toModel.unpack ∧ sample.anchor.IsBelow 476) →
    start.IsBelow 476 → solution.residual.isFinite = true

variable {solver : Solver Float} {given : List (Sample Float)} {start : Point Float}
  {tries : List (Search Float)} {solution : Solution Float}

private theorem Search.Best.reports (best : Search.Best solver given start tries solution)
    (finite : ∀ sample ∈ given, sample.IsFinite) :
    Search.Reports given start (tries.filterMap (Search.candidate? solver given)) solution := by
  have nonNegative : NonNegative solution.residual.toModel.unpack := by
    rw [best.residual_eq]
    exact nonNegative_cost finite best.placed
  have finite_of_start (begun : (Position.cost given start).isFinite = true) :
      solution.residual.isFinite = true :=
    finite_of_le nonNegative best.le_start begun
  refine ⟨best.residual_eq, ⟨?found, ?met⟩, ?stuck, ?gradient, ?moderate⟩
  case found =>
    intro known
    refine ⟨solution.position, ?_, best.residual_eq ▸ known⟩
    rcases best.seen with position | looked
    · exact position ▸ List.mem_cons_self
    · exact List.mem_cons_of_mem start looked
  case met =>
    rintro ⟨point, member, known⟩
    rcases List.mem_cons.mp member with rfl | looked
    · exact finite_of_start known
    · exact finite_of_le nonNegative (best.le_candidate point looked known) known
  case stuck =>
    intro unknown
    refine ⟨?_, ?_⟩
    · by_contra moved
      rw [best.finite moved] at unknown
      cases unknown
    · change solution.residual.toModel.unpack.isFinite = false at unknown
      generalize solution.residual.toModel.unpack = number at nonNegative unknown
      cases nonNegative with
      | zero sign => cases unknown
      | infinity => rfl
      | finite mantissa exponent positive => cases unknown
  case gradient =>
    intro known
    exact isFinite_gradient (best.residual_eq ▸ known)
  case moderate =>
    intro inputs placed
    exact finite_of_start (isFinite_cost inputs placed)

/-- A search that ended in time has a finite residual exactly if it saw a point with a finite cost,
and then a finite gradient; otherwise it gives its start with an infinite residual. -/
theorem converged_costs {ranges : List Float} {anchors : List (Point Float)}
    (ordered : inputFailure? ranges anchors start = none)
    (ended : solver.solveFrom ranges anchors start = .ok solution) :
    Search.Reports (samples ranges anchors) start
      ((solver.tries ranges anchors start).filterMap
        (Search.candidate? solver (samples ranges anchors))) solution := by
  obtain ⟨-, -, finite, -⟩ := inputFailure?_eq_none_iff.mp ordered
  obtain ⟨best, result, -, isBest⟩ := solver.exists_best ordered
  rcases result with result | ⟨result, -⟩
  · obtain rfl := Except.ok.inj (result.symm.trans ended)
    exact isBest.reports finite
  · cases result.symm.trans ended

end Ended

/-- Three anchors at the given distance from the origin. -/
def corner (distance : Float) : List (Point Float) :=
  [⟨distance, 0, 0⟩, ⟨0, distance, 0⟩, ⟨0, 0, distance⟩]

theorem converged_costs_corner :
    inputFailure? [3, 3, 3] (corner 3) Point.origin = none ∧
      ∃ solution, twoSteps.solveFrom [3, 3, 3] (corner 3) Point.origin = .ok solution ∧
        Search.Reports (samples [3, 3, 3] (corner 3)) Point.origin
          ((twoSteps.tries [3, 3, 3] (corner 3) Point.origin).filterMap
            (Search.candidate? twoSteps (samples [3, 3, 3] (corner 3)))) solution := by
  have ordered : inputFailure? [3, 3, 3] (corner 3) Point.origin = none := rfl
  have inTime : (twoSteps.solveFrom [3, 3, 3] (corner 3) Point.origin).isOk = true := by
    decide +kernel
  cases ended : twoSteps.solveFrom [3, 3, 3] (corner 3) Point.origin with
  | ok solution => exact ⟨ordered, solution, rfl, converged_costs ordered ended⟩
  | error failure =>
      rw [ended] at inTime
      cases inTime

/-- Anchors at `1e200` metres make the cost and the gradient at the origin overflow, and the search
ends there as if it had found a stationary point. -/
theorem converged_of_overflow :
    (({} : Config.Settings).check).isOk = true ∧
      inputFailure? [1, 1, 1] (corner 1e200) Point.origin = none ∧
      ∃ solution,
        ({} : Config.Solve).solver.solve [1, 1, 1] (corner 1e200) = .ok solution ∧
        solution.residual.isFinite = false ∧
        (gradient ((samples [1, 1, 1] (corner 1e200)).filterMap fun sample =>
          sample.row? solution.position)).isFinite = false := by
  have inTime : (match ({} : Config.Solve).solver.solve [1, 1, 1] (corner 1e200) with
    | .ok solution => !solution.residual.isFinite &&
        !(gradient ((samples [1, 1, 1] (corner 1e200)).filterMap fun sample =>
          sample.row? solution.position)).isFinite
    | .error _ => false) = true := by
    decide +kernel
  refine ⟨by decide +kernel, Option.isNone_iff_eq_none.mp (by decide +kernel), ?_⟩
  cases ended : ({} : Config.Solve).solver.solve [1, 1, 1] (corner 1e200) with
  | error failure =>
      rw [ended] at inTime
      cases inTime
  | ok solution =>
      rw [ended, Bool.and_eq_true_iff, Bool.not_eq_true', Bool.not_eq_true'] at inTime
      exact ⟨solution, rfl, inTime⟩

end TagFix.Position
