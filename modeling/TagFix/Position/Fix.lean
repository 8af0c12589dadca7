import TagFix.Position.Solver

/-!
A solved position, and the line of text that shows it.
-/

namespace TagFix.Position

/-- A position solved from the ranges to some anchors. -/
structure Fix where
  position : Point Float
  /-- The sum of the squared errors of the ranges at the position. -/
  residual : Float
  iterations : Nat
  /-- Whether the search ended before its bound; otherwise the position is the best one found. -/
  converged : Bool
  anchorCount : Nat
deriving Repr

def Fix.isLowConfidence (fix : Fix) : Bool :=
  !fix.converged

def Fix.location (fix : Fix) : String :=
  let p := fix.position
  "X: " ++ Decimal.fixed 2 p.x ++ "; Y: " ++ Decimal.fixed 2 p.y ++ "; Z: " ++
    Decimal.fixed 2 p.z ++ (if fix.isLowConfidence then " (low confidence)" else "")

/-- The fix from what the solver found, if its inputs were in order. A search that reached its bound
still gives its best point. -/
def Fix.ofSolve (anchorCount : Nat) :
    Except (SolveFailure Float) (Solution Float) → Except (SolveFailure Float) Fix
  | .ok solution =>
      .ok ⟨solution.position, solution.residual, solution.iterations, true, anchorCount⟩
  | .error (.nonConvergence last) =>
      .ok ⟨last.position, last.residual, last.iterations, false, anchorCount⟩
  | .error failure => .error failure

end TagFix.Position
