import TagFix.Proofs.Double.Order
import TagFix.Proofs.Double.Special
import TagFix.Proofs.Position.Inputs

/-!
# The point that a search gives

A search gives the best of the points it looked at, and the cost there. Only finite costs are
compared with each other: a cost that is no number is never reached from finite inputs, and a point
that is not finite has no finite cost.
-/

namespace TagFix.Position

open Arithmetic

/-! ## The tries of a search -/

section Tries

variable {α : Type} [Arithmetic α] (solver : Solver α) (given : List (Sample α))

/-- The point that a try looks at, unless the slope ends the search or the equations have no
solution. -/
def Search.candidate? (search : Search α) : Option (Point α) :=
  let rows := given.filterMap fun sample => sample.row? search.point
  if isLess (gradient rows).norm solver.gradientTolerance then none
  else
    ((gram rows).damped search.damping).factor?.map fun factor =>
      search.point + factor.solve (-gradient rows)

/-- What the search was at the beginning of each try, when at most so many remain. -/
def Search.tries : Nat → Search α → List (Search α)
  | 0, _ => []
  | remaining + 1, search =>
      search ::
        match search.next solver given with
        | (_, true) => []
        | (after, false) => after.tries remaining

/-- How a try leaves the search. -/
inductive Search.Tried (search : Search α) : Search α → Prop
  | unmoved (damping : α) (none : search.candidate? solver given = none) :
      Search.Tried search { search with damping }
  | kept {candidate : Point α} (damping : α)
      (looked : search.candidate? solver given = some candidate)
      (finite : isFinite (Position.cost given candidate) = true)
      (lower : isAtMost (Position.cost given candidate) search.cost = true) :
      Search.Tried search ⟨candidate, Position.cost given candidate, damping⟩
  | dropped {candidate : Point α} (damping : α)
      (looked : search.candidate? solver given = some candidate)
      (higher : isFinite (Position.cost given candidate) = true →
        isAtMost (Position.cost given candidate) search.cost = false) :
      Search.Tried search { search with damping }

private theorem Search.tried_next (search : Search α) :
    search.Tried solver given (search.next solver given).1 := by
  let rows := given.filterMap fun sample => sample.row? search.point
  by_cases flat : isLess (gradient rows).norm solver.gradientTolerance = true
  · have none : search.candidate? solver given = none := if_pos flat
    rw [Search.next, if_pos flat]
    exact .unmoved search.damping none
  · have looked : search.candidate? solver given =
        ((gram rows).damped search.damping).factor?.map fun factor =>
          search.point + factor.solve (-gradient rows) := if_neg flat
    rw [Search.next, if_neg flat]
    cases factored : ((gram rows).damped search.damping).factor? with
    | none =>
        rw [factored] at looked
        exact .unmoved (stiffened search.damping) looked
    | some factor =>
        rw [factored] at looked
        dsimp only
        split
        · next keeps =>
          obtain ⟨finite, lower⟩ := Bool.and_eq_true_iff.mp keeps
          exact .kept _ looked finite lower
        · next drops =>
          exact .dropped _ looked (by simpa using drops)

/-! What easing and stiffening keep holds of the damping in every try. -/

section Damping

variable {solver given} {motive : α → Prop}
  (eases : ∀ damping, motive damping → motive (eased damping))
  (stiffens : ∀ damping, motive damping → motive (stiffened damping))

include eases stiffens

/-- A try only eases or stiffens the damping, so it keeps what both of these keep. -/
theorem Search.damping_next {search : Search α} (holds : motive search.damping) :
    motive (search.next solver given).1.damping := by
  unfold Search.next
  dsimp only
  split
  · exact holds
  · split
    · exact stiffens _ holds
    · split
      · exact eases _ holds
      · exact stiffens _ holds

/-- What easing and stiffening keep of the damping holds at the beginning of every try. -/
theorem Search.damping_of_mem_tries {remaining : Nat} {search : Search α}
    (holds : motive search.damping) :
    ∀ later ∈ search.tries solver given remaining, motive later.damping := by
  induction remaining generalizing search with
  | zero => exact fun later member => absurd member List.not_mem_nil
  | succ remaining inductionHypothesis =>
      have next : motive (search.next solver given).1.damping :=
        Search.damping_next eases stiffens holds
      rw [Search.tries]
      rcases found : search.next solver given with ⟨after, _ | _⟩
      all_goals rw [found] at next
      · exact List.forall_mem_cons.mpr ⟨holds, inductionHypothesis next⟩
      · exact List.forall_mem_singleton.mpr holds

end Damping

end Tries

/-! ## Costs -/

section Cost

open TagFix.Double

variable {given : List (Sample Float)} {point : Point Float}

theorem Point.isFinite_iff (point : Point Float) :
    point.isFinite = true ↔
      point.x.isFinite = true ∧ point.y.isFinite = true ∧ point.z.isFinite = true := by
  simp only [Point.isFinite, Arithmetic.isFinite, Bool.and_eq_true, and_assoc]

theorem nonNegative_norm {vector : Point Float} (x : vector.x.isNaN = false)
    (y : vector.y.isNaN = false) (z : vector.z.isNaN = false) :
    NonNegative vector.norm.toModel.unpack :=
  nonNegative_sqrt <|
    nonNegative_add (nonNegative_add (nonNegative_mul_self x) (nonNegative_mul_self y))
      (nonNegative_mul_self z)

/-- A vector of finite length has finite coordinates. -/
theorem finite_of_norm {vector : Point Float} (finite : vector.norm.isFinite = true) :
    vector.isFinite = true := by
  obtain ⟨xy, z⟩ := finite_of_add (finite_of_sqrt finite)
  obtain ⟨x, y⟩ := finite_of_add xy
  rw [Point.isFinite_iff]
  exact ⟨(finite_of_mul x).1, (finite_of_mul y).1, (finite_of_mul z).1⟩

def Sample.IsFinite (sample : Sample Float) : Prop :=
  sample.range.isFinite = true ∧ sample.anchor.isFinite = true

private theorem Sample.isNaN_error {sample : Sample Float} (finite : sample.IsFinite)
    (placed : point.isFinite = true) : (sample.error point).isNaN = false := by
  obtain ⟨range, anchor⟩ := finite
  rw [Point.isFinite_iff] at placed anchor
  obtain ⟨x, y, z⟩ := placed
  apply isNaN_sub_of_finite _ range
  apply NonNegative.isNaN_eq_false
  exact nonNegative_norm (isNaN_sub_of_finite (isNaN_of_finite x) anchor.1)
    (isNaN_sub_of_finite (isNaN_of_finite y) anchor.2.1)
    (isNaN_sub_of_finite (isNaN_of_finite z) anchor.2.2)

private theorem Sample.placed_of_error {sample : Sample Float}
    (finite : (sample.error point).isFinite = true) : point.isFinite = true := by
  have difference := finite_of_norm (finite_of_sub finite).1
  rw [Point.isFinite_iff] at difference ⊢
  obtain ⟨x, y, z⟩ := difference
  exact ⟨(finite_of_sub x).1, (finite_of_sub y).1, (finite_of_sub z).1⟩

/-- The cost of finite samples at a finite point is a number that is not below zero, be it infinite.
-/
theorem nonNegative_cost (finite : ∀ sample ∈ given, sample.IsFinite)
    (placed : point.isFinite = true) : NonNegative (cost given point).toModel.unpack := by
  apply List.foldlRecOn (motive := fun sum : Float => NonNegative sum.toModel.unpack) given
  · exact .zero .negative
  · intro sum nonNegative sample member
    have number := Sample.isNaN_error (finite sample member) placed
    exact nonNegative_add nonNegative (nonNegative_mul_self number)

private theorem isNaN_cost (finite : ∀ sample ∈ given, sample.IsFinite)
    (placed : point.isFinite = true) : (cost given point).isNaN = false :=
  (nonNegative_cost finite placed).isNaN_eq_false

private theorem placed_of_cost (some : given ≠ []) (finite : (cost given point).isFinite = true) :
    point.isFinite = true := by
  rcases List.eq_nil_or_concat given with none | ⟨others, last, rfl⟩
  · exact absurd none some
  · rw [cost, List.concat_eq_append, List.foldl_concat] at finite
    obtain ⟨-, squared⟩ := finite_of_add finite
    exact Sample.placed_of_error (finite_of_mul squared).1

end Cost

/-! ## One try -/

section Step

open TagFix.Double

variable {solver : Solver Float} {given : List (Sample Float)}

/-- That a search knows the cost at its point, which is finite. -/
structure Search.Sound (given : List (Sample Float)) (search : Search Float) : Prop where
  cost_eq : search.cost = Position.cost given search.point
  number : search.cost.isNaN = false
  placed : search.point.isFinite = true

private theorem Search.sound_begin (finite : ∀ sample ∈ given, sample.IsFinite)
    {start : Point Float}
    (placed : start.isFinite = true) : (Search.begin solver given start).Sound given :=
  ⟨rfl, isNaN_cost finite placed, placed⟩

variable {search after : Search Float}

private theorem Search.Sound.cost_le_self (sound : search.Sound given) :
    Position.cost given search.point ≤ Position.cost given search.point := by
  rw [← sound.cost_eq]
  exact Double.le_refl sound.number

private theorem Search.Tried.sound (tried : search.Tried solver given after) (some : given ≠ [])
    (sound : search.Sound given) : after.Sound given := by
  cases tried with
  | unmoved damping none => exact ⟨sound.cost_eq, sound.number, sound.placed⟩
  | kept damping looked finite lower =>
      exact ⟨rfl, isNaN_of_finite finite, placed_of_cost some finite⟩
  | dropped damping looked higher => exact ⟨sound.cost_eq, sound.number, sound.placed⟩

private theorem Search.Tried.cost_le (tried : search.Tried solver given after)
    (sound : search.Sound given) : after.cost ≤ search.cost := by
  cases tried with
  | unmoved damping none => exact Double.le_refl sound.number
  | kept damping looked finite lower => exact of_decide_eq_true lower
  | dropped damping looked higher => exact Double.le_refl sound.number

private theorem Search.Tried.moved (tried : search.Tried solver given after) :
    after.point = search.point ∨
      search.candidate? solver given = some after.point ∧ after.cost.isFinite = true := by
  cases tried with
  | unmoved damping none => exact Or.inl rfl
  | kept damping looked finite lower => exact Or.inr ⟨looked, finite⟩
  | dropped damping looked higher => exact Or.inl rfl

private theorem Search.Tried.cost_le_candidate (tried : search.Tried solver given after)
    (sound : search.Sound given) {candidate : Point Float}
    (looked : search.candidate? solver given = some candidate)
    (finite : (Position.cost given candidate).isFinite = true) :
    after.cost ≤ Position.cost given candidate := by
  cases tried with
  | unmoved damping none =>
      rw [none] at looked
      cases looked
  | kept damping seen keeps lower =>
      obtain rfl := Option.some.inj (looked.symm.trans seen)
      exact Double.le_refl (isNaN_of_finite finite)
  | dropped damping seen higher =>
      obtain rfl := Option.some.inj (looked.symm.trans seen)
      exact le_of_not_le (isNaN_of_finite finite) sound.number (of_decide_eq_false (higher finite))

end Step

/-! ## Whole searches -/

section Run

open TagFix.Double

variable {solver : Solver Float} {given : List (Sample Float)}

/-- That a solution is the best point that was seen from the start on in the given tries, with the
cost at that point. -/
structure Search.Best (solver : Solver Float) (given : List (Sample Float)) (start : Point Float)
    (tries : List (Search Float)) (solution : Solution Float) : Prop where
  seen : solution.position = start ∨
    solution.position ∈ tries.filterMap (Search.candidate? solver given)
  residual_eq : solution.residual = Position.cost given solution.position
  le_start : solution.residual ≤ Position.cost given start
  le_candidate : ∀ candidate ∈ tries.filterMap (Search.candidate? solver given),
    (Position.cost given candidate).isFinite = true →
      solution.residual ≤ Position.cost given candidate
  /-- The cost never rises from the start over the points of the tries to the solution. -/
  descending : (start :: (tries.map Search.point ++ [solution.position])).Pairwise
    fun earlier later => Position.cost given later ≤ Position.cost given earlier
  finite : solution.position ≠ start → solution.residual.isFinite = true
  placed : solution.position.isFinite = true

private theorem Search.Sound.best {search : Search Float} (sound : search.Sound given)
    (iterations : Nat) :
    Search.Best solver given search.point [] (search.solution iterations) where
  seen := Or.inl rfl
  residual_eq := sound.cost_eq
  le_start := by
    rw [← sound.cost_eq]
    exact Double.le_refl sound.number
  le_candidate := by
    intro candidate member
    cases member
  descending := List.pairwise_pair.mpr sound.cost_le_self
  finite := fun moved => absurd rfl moved
  placed := sound.placed

private theorem Search.Best.cons {search after : Search Float} {tries : List (Search Float)}
    {solution : Solution Float} (best : Search.Best solver given after.point tries solution)
    (tried : search.Tried solver given after) (sound : search.Sound given)
    (soundAfter : after.Sound given) :
    Search.Best solver given search.point (search :: tries) solution := by
  have step := tried.cost_le sound
  rw [soundAfter.cost_eq, sound.cost_eq] at step
  have lower := Double.le_trans best.le_start step
  refine ⟨?seen, best.residual_eq, lower, ?le_candidate, ?descending, ?finite, best.placed⟩
  case seen =>
    rcases best.seen with position | later
    · rw [position]
      rcases tried.moved with unmoved | ⟨looked, -⟩
      · exact Or.inl unmoved
      · exact Or.inr (List.mem_filterMap.mpr ⟨search, List.mem_cons_self, looked⟩)
    · obtain ⟨origin, member, looked⟩ := List.mem_filterMap.mp later
      exact Or.inr (List.mem_filterMap.mpr ⟨origin, List.mem_cons_of_mem search member, looked⟩)
  case le_candidate =>
    intro candidate member finite
    obtain ⟨origin, member, looked⟩ := List.mem_filterMap.mp member
    rcases List.mem_cons.mp member with rfl | later
    · have bound := tried.cost_le_candidate sound looked finite
      rw [soundAfter.cost_eq] at bound
      exact Double.le_trans best.le_start bound
    · exact best.le_candidate candidate (List.mem_filterMap.mpr ⟨origin, later, looked⟩) finite
  case descending =>
    obtain ⟨belowAfter, later⟩ := List.pairwise_cons.mp best.descending
    have below point member := Double.le_trans (belowAfter point member) step
    exact List.pairwise_cons.mpr
      ⟨List.forall_mem_cons.mpr ⟨sound.cost_le_self, below⟩,
        List.pairwise_cons.mpr ⟨below, later⟩⟩
  case finite =>
    intro moved
    by_cases position : solution.position = after.point
    · rcases tried.moved with unmoved | ⟨-, finite⟩
      · exact absurd (position.trans unmoved) moved
      · rwa [best.residual_eq, position, ← soundAfter.cost_eq]
    · exact best.finite position

private theorem Search.length_tries_le (remaining : Nat) (search : Search Float) :
    (search.tries solver given remaining).length ≤ remaining := by
  induction remaining generalizing search with
  | zero => exact Nat.le_refl 0
  | succ remaining inductionHypothesis =>
      rw [Search.tries]
      obtain ⟨after, ended⟩ := search.next solver given
      cases ended with
      | true => exact Nat.succ_le_succ (Nat.zero_le remaining)
      | false => exact Nat.succ_le_succ (inductionHypothesis after)

private theorem Search.run_best (some : given ≠ []) {remaining tried : Nat} {search : Search Float}
    (sound : search.Sound given) (counted : tried + remaining = solver.maxIterations) :
    ∃ solution,
      (search.run solver given remaining tried = .ok solution ∨
        search.run solver given remaining tried = .error (.nonConvergence solution) ∧
          solution.iterations = solver.maxIterations) ∧
      solution.iterations = tried + (search.tries solver given remaining).length ∧
      Search.Best solver given search.point (search.tries solver given remaining) solution := by
  induction remaining generalizing tried search with
  | zero =>
      exact ⟨_, Or.inr ⟨rfl, rfl⟩, counted.symm, sound.best solver.maxIterations⟩
  | succ remaining inductionHypothesis =>
      have step := search.tried_next solver given
      have soundAfter := step.sound some sound
      rw [Search.run, Search.tries]
      rcases found : search.next solver given with ⟨after, ended⟩
      rw [found] at step soundAfter
      cases ended with
      | true =>
          exact ⟨_, Or.inl rfl, rfl, (soundAfter.best (tried + 1)).cons step sound soundAfter⟩
      | false =>
          obtain ⟨solution, result, iterations, best⟩ :=
            inductionHypothesis soundAfter (by omega : tried + 1 + remaining = _)
          refine ⟨solution, result, ?_, best.cons step sound soundAfter⟩
          rw [iterations, List.length_cons]
          dsimp only
          omega

end Run

/-! ## From inputs in order -/

section Inputs

variable (solver : Solver Float) (ranges : List Float) (anchors : List (Point Float))
  (start : Point Float)

def Solver.tries : List (Search Float) :=
  (Search.begin solver (samples ranges anchors) start).tries solver (samples ranges anchors)
    solver.maxIterations

variable {ranges anchors start}

/-- There is a try unless none is allowed. -/
theorem Solver.length_tries_pos (bounded : 1 ≤ solver.maxIterations) :
    1 ≤ (solver.tries ranges anchors start).length := by
  obtain ⟨remaining, counted⟩ := Nat.exists_eq_add_of_le' bounded
  rw [Solver.tries, counted, Search.tries]
  exact Nat.succ_pos _

/-- Inputs in order are enough samples, and so at least one. -/
theorem samples_ne_nil (same : ranges.length = anchors.length)
    (enough : fewestRanges ≤ ranges.length) : samples ranges anchors ≠ [] := by
  intro none
  have length := congrArg List.length none
  rw [samples, List.length_zipWith, ← same, Nat.min_self] at length
  exact absurd (Nat.lt_of_lt_of_le (by decide) enough) (Nat.not_lt.mpr length.le)

/-- From inputs in order a search ends with the best point of its tries, whether it says so in time
or at its bound. -/
theorem Solver.exists_best (ordered : inputFailure? ranges anchors start = none) :
    ∃ solution,
      (solver.solveFrom ranges anchors start = .ok solution ∨
        solver.solveFrom ranges anchors start = .error (.nonConvergence solution) ∧
          solution.iterations = solver.maxIterations) ∧
      solution.iterations = (solver.tries ranges anchors start).length ∧
      Search.Best solver (samples ranges anchors) start (solver.tries ranges anchors start)
        solution := by
  obtain ⟨same, enough, finite, placed⟩ := inputFailure?_eq_none_iff.mp ordered
  obtain ⟨solution, result, iterations, best⟩ :=
    Search.run_best (samples_ne_nil same enough) (Search.sound_begin finite placed)
      (Nat.zero_add solver.maxIterations)
  rw [Nat.zero_add] at iterations
  refine ⟨solution, ?_, iterations, best⟩
  rw [Solver.solveFrom, ordered]
  exact result

/-- From inputs in order a search gives the best point that it saw, be it in time or not, and counts
its tries. -/
theorem solveFrom_best (ordered : inputFailure? ranges anchors start = none)
    (bounded : 1 ≤ solver.maxIterations) :
    ∃ solution,
      (solver.solveFrom ranges anchors start = .ok solution ∨
        solver.solveFrom ranges anchors start = .error (.nonConvergence solution) ∧
          solution.iterations = solver.maxIterations) ∧
      solution.iterations = (solver.tries ranges anchors start).length ∧
      1 ≤ solution.iterations ∧ solution.iterations ≤ solver.maxIterations ∧
      Search.Best solver (samples ranges anchors) start (solver.tries ranges anchors start)
        solution := by
  obtain ⟨solution, result, iterations, best⟩ := solver.exists_best ordered
  refine ⟨solution, result, iterations, ?_, ?_, best⟩
  · rw [iterations]
    exact solver.length_tries_pos bounded
  · rw [iterations]
    exact Search.length_tries_le solver.maxIterations _

end Inputs

def twoSteps : Solver Float :=
  ⟨2, 0.001, 0.001, 0.001⟩

def threeAnchors : List (Point Float) :=
  [⟨0, 0, 0⟩, ⟨4, 0, 0⟩, ⟨0, 4, 0⟩]

theorem solveFrom_best_threeAnchors :
    inputFailure? [3, 3, 3] threeAnchors ⟨1, 1, 1⟩ = none ∧ 1 ≤ twoSteps.maxIterations ∧
      ∃ solution,
        (twoSteps.solveFrom [3, 3, 3] threeAnchors ⟨1, 1, 1⟩ = .ok solution ∨
          twoSteps.solveFrom [3, 3, 3] threeAnchors ⟨1, 1, 1⟩ = .error (.nonConvergence solution) ∧
            solution.iterations = twoSteps.maxIterations) ∧
        solution.iterations = (twoSteps.tries [3, 3, 3] threeAnchors ⟨1, 1, 1⟩).length ∧
        1 ≤ solution.iterations ∧ solution.iterations ≤ twoSteps.maxIterations ∧
        Search.Best twoSteps (samples [3, 3, 3] threeAnchors) ⟨1, 1, 1⟩
          (twoSteps.tries [3, 3, 3] threeAnchors ⟨1, 1, 1⟩) solution := by
  have ordered : inputFailure? [3, 3, 3] threeAnchors ⟨1, 1, 1⟩ = none := rfl
  exact ⟨ordered, by decide, solveFrom_best twoSteps ordered (by decide)⟩

end TagFix.Position
