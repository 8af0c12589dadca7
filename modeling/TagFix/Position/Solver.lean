import TagFix.Decimal.Layout
import TagFix.Position.Equations

/-!
The point that fits a set of ranges best. The search takes damped steps from a start: a step that
does not raise the cost is kept and eases the damping, any other is dropped and stiffens it.
-/

namespace TagFix.Position

/-- The fewest ranges that determine a point in space. -/
def fewestRanges : Nat := 3

/-- When the search ends, and the damping that it starts with. -/
structure Solver (α : Type) where
  /-- How many steps are tried, kept or not. -/
  maxIterations : Nat
  /-- A kept step shorter than this ends the search. -/
  stepTolerance : α
  /-- A gradient shorter than this ends the search. -/
  gradientTolerance : α
  initialDamping : α
deriving Repr

/-- A point, the cost there, and how many steps were tried. -/
structure Solution (α : Type) where
  position : Point α
  residual : α
  iterations : Nat
deriving Repr

inductive SolveFailure (α : Type)
  | mismatchedInputs (ranges anchors : Nat)
  | insufficientRanges (available : Nat)
  | nonFiniteInput (index : Nat)
  | nonConvergence (last : Solution α)
deriving Repr

def SolveFailure.message : SolveFailure Float → String
  | .mismatchedInputs ranges anchors =>
      toString ranges ++ " ranges but " ++ toString anchors ++ " anchor positions"
  | .insufficientRanges available =>
      "need at least " ++ toString fewestRanges ++ " ranges, got " ++ toString available
  | .nonFiniteInput index => "non-finite input at index " ++ toString index
  | .nonConvergence last =>
      "did not converge after " ++ toString last.iterations ++ " iterations (residual " ++
        Decimal.fixed 4 last.residual ++ ")"

variable {α : Type} [Arithmetic α]

open Arithmetic

/-- The least damping that easing leads to. -/
def leastDamping : α :=
  ofNat 1 / ofNat 1000000000000

/-- The damping at which no step can bring the cost down any more. -/
def greatestDamping : α :=
  ofNat 1000000000000

/-- The damping after a step that was kept. -/
def eased (damping : α) : α :=
  larger (damping / ofNat 10) leastDamping

/-- The damping after a step that was dropped. -/
def stiffened (damping : α) : α :=
  smaller (damping * ofNat 10) greatestDamping

structure Search (α : Type) where
  point : Point α
  cost : α
  damping : α
deriving Repr

def Search.begin (solver : Solver α) (samples : List (Sample α)) (start : Point α) : Search α :=
  ⟨start, Position.cost samples start, solver.initialDamping⟩

/-- The search after one try, and whether that try ended it. -/
def Search.next (solver : Solver α) (samples : List (Sample α)) (search : Search α) :
    Search α × Bool :=
  let rows := samples.filterMap fun sample => sample.row? search.point
  let slope := gradient rows
  if isLess slope.norm solver.gradientTolerance then (search, true)
  else
    match ((gram rows).damped search.damping).factor? with
    | none => ({ search with damping := stiffened search.damping }, false)
    | some factor =>
        let step := factor.solve (-slope)
        let candidate := search.point + step
        let candidateCost := Position.cost samples candidate
        if isFinite candidateCost && isAtMost candidateCost search.cost then
          (⟨candidate, candidateCost, eased search.damping⟩,
            isLess step.norm solver.stepTolerance)
        else
          let damping := stiffened search.damping
          ({ search with damping }, isAtMost greatestDamping damping)

def Search.solution (search : Search α) (iterations : Nat) : Solution α :=
  ⟨search.point, search.cost, iterations⟩

/-- The search over at most `remaining` more tries, after `tried` of them. -/
def Search.run (solver : Solver α) (samples : List (Sample α)) :
    Nat → Nat → Search α → Except (SolveFailure α) (Solution α)
  | 0, _, search => .error (.nonConvergence (search.solution solver.maxIterations))
  | remaining + 1, tried, search =>
      match search.next solver samples with
      | (after, true) => .ok (after.solution (tried + 1))
      | (after, false) => after.run solver samples remaining (tried + 1)

/-- What is wrong with the inputs of a search: their number, then the first that is not finite. The
start counts as the last input. -/
def inputFailure? (ranges : List α) (anchors : List (Point α)) (start : Point α) :
    Option (SolveFailure α) :=
  if ranges.length ≠ anchors.length then
    some (.mismatchedInputs ranges.length anchors.length)
  else if ranges.length < fewestRanges then some (.insufficientRanges ranges.length)
  else
    let finite := ranges.zipWith (fun range anchor => isFinite range && anchor.isFinite) anchors
    ((finite ++ [start.isFinite]).findIdx? (· == false)).map .nonFiniteInput

def samples (ranges : List α) (anchors : List (Point α)) : List (Sample α) :=
  ranges.zipWith (fun range anchor => ⟨anchor, range⟩) anchors

def Solver.solveFrom (solver : Solver α) (ranges : List α) (anchors : List (Point α))
    (start : Point α) : Except (SolveFailure α) (Solution α) :=
  match inputFailure? ranges anchors start with
  | some failure => .error failure
  | none =>
      let samples := samples ranges anchors
      (Search.begin solver samples start).run solver samples solver.maxIterations 0

/-- The search from the origin. -/
def Solver.solve (solver : Solver α) (ranges : List α) (anchors : List (Point α)) :
    Except (SolveFailure α) (Solution α) :=
  solver.solveFrom ranges anchors Point.origin

end TagFix.Position
