import TagFix.Position.Solver

/-!
# Inputs of the solver

Samples with finite ranges, and enough of them, fail only by the coordinates of an anchor. Without
such a failure a search ends with a point, found in time or not.
-/

namespace TagFix.Position

open Arithmetic

variable {α : Type}

/-- A search gives a point, whether it ends before its bound or at it. -/
theorem Search.run_cases [Arithmetic α] (solver : Solver α) (samples : List (Sample α))
    (remaining tried : Nat) (search : Search α) :
    (∃ solution, search.run solver samples remaining tried = .ok solution) ∨
      ∃ last, search.run solver samples remaining tried = .error (.nonConvergence last) := by
  induction remaining generalizing tried search with
  | zero => exact Or.inr ⟨_, rfl⟩
  | succ remaining inductionHypothesis =>
      rw [Search.run]
      obtain ⟨after, ended⟩ := search.next solver samples
      cases ended with
      | true => exact Or.inl ⟨_, rfl⟩
      | false => exact inductionHypothesis (tried + 1) after

/-! ## What is wrong with samples -/

private theorem zipWith_samples {β : Type} (combine : α → Point α → β) (given : List (Sample α)) :
    (given.map Sample.range).zipWith combine (given.map Sample.anchor) =
      given.map fun sample => combine sample.range sample.anchor := by
  rw [List.zipWith_map, List.zipWith_self]

private theorem samples_map (given : List (Sample α)) :
    samples (given.map Sample.range) (given.map Sample.anchor) = given := by
  rw [samples, zipWith_samples]
  exact List.map_id _

/-- Inputs are in order if they are enough, as many ranges as anchors, and all finite. -/
theorem inputFailure?_eq_none_iff [Arithmetic α] {ranges : List α} {anchors : List (Point α)}
    {start : Point α} :
    inputFailure? ranges anchors start = none ↔
      ranges.length = anchors.length ∧ fewestRanges ≤ ranges.length ∧
        (∀ sample ∈ samples ranges anchors,
          isFinite sample.range = true ∧ sample.anchor.isFinite = true) ∧
        start.isFinite = true := by
  have checked : ranges.zipWith (fun range anchor => isFinite range && anchor.isFinite) anchors =
      (samples ranges anchors).map fun sample =>
        isFinite sample.range && sample.anchor.isFinite := by
    rw [samples, List.map_zipWith]
  rw [inputFailure?, checked]
  by_cases same : ranges.length = anchors.length
  · rw [if_neg (not_not_intro same)]
    by_cases few : ranges.length < fewestRanges
    · rw [if_pos few]
      simp [Nat.not_le.mpr few]
    · have enough := Nat.not_lt.mp few
      rw [if_neg few, Option.map_eq_none_iff, List.findIdx?_eq_none_iff, and_iff_right same,
        and_iff_right enough]
      simp [or_imp, forall_and]
  · simp [same]

section Inputs

variable [Arithmetic α] (solver : Solver α) {given : List (Sample α)} {start : Point α}

variable (enough : fewestRanges ≤ given.length)
  (finite : ∀ sample ∈ given, isFinite sample.range = true) (begun : start.isFinite = true)

include enough finite begun

/-- With enough ranges, all of them finite, only the place of an anchor can be wrong. -/
theorem inputFailure?_eq :
    inputFailure? (given.map Sample.range) (given.map Sample.anchor) start =
      (given.findIdx? fun sample => !sample.anchor.isFinite).map .nonFiniteInput := by
  have checked : (given.map fun sample => isFinite sample.range && sample.anchor.isFinite) =
      given.map fun sample => sample.anchor.isFinite := by
    apply List.map_congr_left
    intro sample member
    rw [finite sample member, Bool.true_and]
  rw [inputFailure?, if_neg (by simp), if_neg (by simpa using enough), zipWith_samples, checked]
  simp [List.findIdx?_append, List.findIdx?_map, begun]
  rfl

/-- The first anchor that is not finite is the one that is reported. -/
theorem solveFrom_of_misplaced {index : Nat}
    (misplaced : given.findIdx? (fun sample => !sample.anchor.isFinite) = some index) :
    solver.solveFrom (given.map Sample.range) (given.map Sample.anchor) start =
      .error (.nonFiniteInput index) := by
  rw [Solver.solveFrom, inputFailure?_eq enough finite begun, misplaced]
  rfl

/-- With finite inputs in sufficient number the search begins. -/
theorem solveFrom_of_placed (placed : ∀ sample ∈ given, sample.anchor.isFinite = true) :
    solver.solveFrom (given.map Sample.range) (given.map Sample.anchor) start =
      (Search.begin solver given start).run solver given solver.maxIterations 0 := by
  have none : given.findIdx? (fun sample => !sample.anchor.isFinite) = none := by
    rw [List.findIdx?_eq_none_iff]
    intro sample member
    rw [placed sample member]
    rfl
  rw [Solver.solveFrom, inputFailure?_eq enough finite begun, none, samples_map]
  rfl

end Inputs

end TagFix.Position
