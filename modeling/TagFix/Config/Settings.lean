import TagFix.Position.Solver

/-!
The settings of the locator, with their defaults. Durations are in milliseconds.
-/

namespace TagFix.Config

/-- How failures of the link are retried and when attempts are given up. -/
structure Retry where
  /-- Consecutive failures until the session is given up. -/
  maxConsecutiveFailures : UInt32 := 5
  /-- The pause before the first retry; it doubles with every failure. -/
  baseBackoff : UInt64 := 250
  maxBackoff : UInt64 := 8000
  scanTimeout : UInt64 := 30000
  connectTimeout : UInt64 := 10000
deriving DecidableEq, Repr

/-- The limits of the position solver, lengths in metres. -/
structure Solve where
  maxIterations : UInt64 := 100
  stepTolerance : Float := 1e-7
  gradientTolerance : Float := 1e-10
  initialDamping : Float := 1e-3
deriving DecidableEq, Repr

structure Refresh where
  enabled : Bool := true
  initialDelay : UInt64 := 1000
  /-- The pause between the end of a fetch and the start of the next. -/
  interval : UInt64 := 15000
  fetchTimeout : UInt64 := 10000
deriving DecidableEq, Repr

structure Settings where
  minRanges : UInt64 := 3
  /-- The requests of the host that may wait at one time. -/
  eventQueueCapacity : UInt64 := 64
  retry : Retry := {}
  solver : Solve := {}
  refresh : Refresh := {}
deriving DecidableEq, Repr

def Solve.solver (settings : Solve) : Position.Solver Float :=
  ⟨settings.maxIterations.toNat, settings.stepTolerance, settings.gradientTolerance,
    settings.initialDamping⟩

end TagFix.Config
