import TagFix.Config.Settings

/-!
Which settings make sense together.
-/

namespace TagFix.Config

inductive Invalid
  | tooFewRanges (found : UInt64)
  | noQueue
  | noFailureAllowed
  | backoffsCrossed (maxBackoff : UInt64)
  | noLinkTimeout
  | noIteration
  | badStepTolerance (found : Float)
  | badGradientTolerance (found : Float)
  | badInitialDamping (found : Float)
  | noRefreshPeriod (interval : UInt64)
deriving DecidableEq, Repr

/-- The name of the setting, its value and what is wrong with it. -/
def Invalid.parts : Invalid → String × String × String
  | .tooFewRanges found =>
      ("min_ranges", toString found.toNat, "at least 3 ranges are needed for a 3D fix")
  | .noQueue => ("event_queue_capacity", "0", "must be positive")
  | .noFailureAllowed => ("retry.max_consecutive_failures", "0", "must be positive")
  | .backoffsCrossed maxBackoff =>
      ("retry.max_backoff_ms", toString maxBackoff.toNat, "must not be below retry.base_backoff_ms")
  | .noLinkTimeout => ("retry timeouts", "0", "must be positive")
  | .noIteration => ("solver.max_iterations", "0", "must be positive")
  | .badStepTolerance found =>
      ("solver.step_tolerance_m", Decimal.Layout.message.render found,
        "must be a positive finite number")
  | .badGradientTolerance found =>
      ("solver.gradient_tolerance", Decimal.Layout.message.render found,
        "must be a positive finite number")
  | .badInitialDamping found =>
      ("solver.initial_damping", Decimal.Layout.message.render found,
        "must be a positive finite number")
  | .noRefreshPeriod interval =>
      ("refresh", toString interval.toNat, "interval and fetch timeout must be positive")

def Invalid.message (invalid : Invalid) : String :=
  let (parameter, value, reason) := invalid.parts
  "invalid " ++ parameter ++ " = " ++ value ++ ": " ++ reason

def isPositive (x : Float) : Bool :=
  x.isFinite && 0 < x

/-- The first setting that makes no sense. -/
def Settings.check (settings : Settings) : Except Invalid Unit := do
  if settings.minRanges < 3 then .error (.tooFewRanges settings.minRanges)
  if settings.eventQueueCapacity = 0 then .error .noQueue
  let retry := settings.retry
  if retry.maxConsecutiveFailures = 0 then .error .noFailureAllowed
  if retry.maxBackoff < retry.baseBackoff then .error (.backoffsCrossed retry.maxBackoff)
  if retry.scanTimeout = 0 ∨ retry.connectTimeout = 0 then .error .noLinkTimeout
  let solver := settings.solver
  if solver.maxIterations = 0 then .error .noIteration
  if ¬isPositive solver.stepTolerance then .error (.badStepTolerance solver.stepTolerance)
  if ¬isPositive solver.gradientTolerance then
    .error (.badGradientTolerance solver.gradientTolerance)
  if ¬isPositive solver.initialDamping then .error (.badInitialDamping solver.initialDamping)
  let refresh := settings.refresh
  if refresh.enabled ∧ (refresh.interval = 0 ∨ refresh.fetchTimeout = 0) then
    .error (.noRefreshPeriod refresh.interval)

end TagFix.Config
