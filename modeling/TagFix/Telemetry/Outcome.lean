import TagFix.Position.Fix
import TagFix.Telemetry.Payload
import TagFix.Telemetry.Selection

/-!
What a payload comes to: a position, or the reason why there is none.
-/

namespace TagFix.Telemetry

open TagFix.Position (Fix SolveFailure Solver)

inductive Outcome
  | position (fix : Fix)
  | noRanges
  | directoryUnavailable
  | insufficientRanges (valid required : Nat)
  | forwarded (reasonCode : UInt8) (payload : List UInt8)
  | solveFailed (failure : SolveFailure Float)

/-- The outcome of selected ranges: the solver starts from the origin. -/
def Selection.outcome (solver : Solver Float) (selection : Selection) : Outcome :=
  let metres := selection.ranges.map Range.metres
  match Fix.ofSolve selection.usable.size (solver.solve metres selection.places) with
  | .ok fix => .position fix
  | .error failure => .solveFailed failure

/-- The outcome of the ranges of a report; a report without any needs no directory. -/
def rangesOutcome (minRanges : Nat) (solver : Solver Float) (directory : Option Directory)
    (ranges : List Range) : Outcome :=
  if ranges.isEmpty then .noRanges
  else
    match judge minRanges directory ranges with
    | .ready selection => selection.outcome solver
    | .insufficientRanges selection required =>
        .insufficientRanges selection.usable.size required
    | .directoryUnavailable => .directoryUnavailable

/-- The outcome of a payload. -/
def process (minRanges : Nat) (solver : Solver Float) (directory : Option Directory)
    (payload : List UInt8) : Except DecodeFault Outcome :=
  (decode payload).map fun
    | .forwarded reasonCode payload => .forwarded reasonCode payload
    | .ranges ranges => rangesOutcome minRanges solver directory ranges

end TagFix.Telemetry
