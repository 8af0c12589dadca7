import TagFix.CommandLine.Run
import TagFix.Proofs.Config.Check
import TagFix.Proofs.Engine.Isolation
import TagFix.Proofs.Position.Damping
import TagFix.Proofs.Session.Doubling

/-!
# Settings are run as they are written

The parts of an engine keep to bounds of their own, whatever the settings say. Settings that make
sense are within these bounds, so every run goes by the settings as they are, and every search has
a try. Only the queue of requests has a bound that the check does not know: there are settings that
make sense, and no queue is long enough for them. The main statement is `run_as_written`.
-/

namespace TagFix

open Config (Sensible Settings)
open Session (Backoff)

/-! ## Retries -/

namespace Session

/-- Limits in order are taken as they are. -/
theorem Backoff.start_eq {maxFailures base cap : Nat} (allowed : 1 ≤ maxFailures)
    (ordered : base ≤ cap) : start maxFailures base cap = ⟨maxFailures, base, cap, 0⟩ := by
  rw [start, Nat.max_eq_left allowed, Nat.max_eq_left ordered]

end Session

/-! ## Searches -/

/-- How a solver with limits in order searches: from inputs in order it comes to a point after at
least one try, and whatever the inputs, its damping is positive in every try. -/
structure Position.Solver.Searches (solver : Position.Solver Float) : Prop where
  stepTolerance : solver.stepTolerance.isFinite = true ∧ 0 < solver.stepTolerance
  gradientTolerance : solver.gradientTolerance.isFinite = true ∧ 0 < solver.gradientTolerance
  tried : ∀ ranges anchors start, Position.inputFailure? ranges anchors start = none →
    ∃ solution,
      (solver.solveFrom ranges anchors start = .ok solution ∨
        solver.solveFrom ranges anchors start = .error (.nonConvergence solution)) ∧
      solution.iterations = (solver.tries ranges anchors start).length ∧
      1 ≤ solution.iterations
  damped : ∀ ranges anchors start, ∀ search ∈ solver.tries ranges anchors start,
    search.damping.isFinite = true ∧ 0 < search.damping

private theorem Config.Sensible.searches {settings : Settings} (sensible : Sensible settings) :
    settings.solver.solver.Searches := by
  refine ⟨sensible.stepTolerance, sensible.gradientTolerance, ?tried, ?damped⟩
  case tried =>
    intro ranges anchors start ordered
    obtain ⟨solution, result, iterations, -⟩ := settings.solver.solver.exists_best ordered
    refine ⟨solution, ?_, iterations, ?_⟩
    · exact result.imp_right And.left
    · rw [iterations]
      exact settings.solver.solver.length_tries_pos sensible.maxIterations
  case damped =>
    intro ranges anchors start
    exact Position.positive_damping_of_mem_tries (Double.positive_iff.mpr sensible.initialDamping)

/-! ## The queue of requests -/

namespace Engine

/-- The longest queue is an eighth of what a word counts. -/
theorem mostWaiting_eq : mostWaiting = (UInt64.size - 1) >>> 3 :=
  rfl

/-- A queue for some requests is made as long as it is asked for, or not at all. -/
theorem queueCapacity?_eq {configured : UInt64} (some : 1 ≤ configured.toNat) :
    queueCapacity? configured =
      if configured.toNat ≤ (UInt64.size - 1) >>> 3 then .some configured.toNat else none := by
  rw [queueCapacity?, ← mostWaiting_eq, Nat.max_eq_left some]

end Engine

namespace CommandLine

private theorem exitCode_session_le (arguments : Arguments) (settings : Settings)
    (directory : Directory)
    (now : Int) : (session arguments settings directory now).exitCode ≤ 1 := by
  unfold session
  dsimp only
  split
  · exact Nat.le_refl 1
  · exact Nat.zero_le 1

/-- Nothing but a queue that cannot be made brings a run down. -/
theorem exitCode_runWith {settings : Settings} {capacity : Nat}
    (made : Engine.queueCapacity? settings.eventQueueCapacity = some capacity)
    (arguments : Arguments) (files : String → Except File.Fault String) (now : Int) :
    (runWith arguments settings files now).exitCode ≤ 1 := by
  unfold runWith
  dsimp only
  split
  · rw [made]
    exact exitCode_session_le _ _ _ _
  · exact Nat.le_refl 1

end CommandLine

/-! ## Runs -/

namespace Engine

/-- That an engine goes by the settings as they are written. The pause before a retry is computed
with a factor into which a bit is shifted, and the shift stays within the word. -/
structure Obeys (settings : Settings) (engine : Engine) : Prop where
  ranges : Telemetry.requiredRanges engine.minRanges = settings.minRanges.toNat
  solver : engine.solver = settings.solver.solver
  maxFailures : engine.session.backoff.maxFailures = settings.retry.maxConsecutiveFailures.toNat
  base : engine.session.backoff.base = settings.retry.baseBackoff.toNat
  cap : engine.session.backoff.cap = settings.retry.maxBackoff.toNat
  shift : min (engine.session.backoff.failures - 1) Backoff.mostDoublings < 32
  factor : (Backoff.factor engine.session.backoff.failures).toNat =
    2 ^ min (engine.session.backoff.failures - 1) Backoff.mostDoublings
  delay : engine.session.backoff.delay =
    min (settings.retry.baseBackoff.toNat *
      (Backoff.factor engine.session.backoff.failures).toNat) settings.retry.maxBackoff.toNat

private theorem obeys_after {settings : Settings} (sensible : Sensible settings) (device : Device)
    (directory : Option Directory) (calls : List Call) :
    Obeys settings ((fresh device directory settings).after calls) := by
  obtain ⟨minRanges, solver, -⟩ := keeps_after (fresh device directory settings) calls
  have begun : (fresh device directory settings).session.backoff =
      ⟨settings.retry.maxConsecutiveFailures.toNat, settings.retry.baseBackoff.toNat,
        settings.retry.maxBackoff.toNat, 0⟩ :=
    Backoff.start_eq sensible.maxConsecutiveFailures sensible.backoffs
  have limits := Session.backoff_after (fresh device directory settings).session
    (calls.filterMap Call.forSession?)
  rw [← session_after, begun] at limits
  generalize ((fresh device directory settings).after calls).session.backoff.failures = failures
    at limits
  constructor
  case ranges =>
    rw [minRanges]
    exact Nat.max_eq_left sensible.minRanges
  case solver => exact solver
  case maxFailures => rw [limits]
  case base => rw [limits]
  case cap => rw [limits]
  case shift =>
    rw [Backoff.mostDoublings]
    omega
  case factor => exact Backoff.toNat_factor _
  case delay =>
    rw [Backoff.toNat_factor, limits]
    rfl

/-- How settings are run: every engine goes by them as they are in every state of every run, and so
do the searches. The queue of requests is as long as they say, up to the longest that can be made,
and then no part of a run brings it down. -/
structure RunAsWritten (settings : Settings) : Prop where
  obeyed : ∀ device directory calls, Obeys settings ((fresh device directory settings).after calls)
  searches : settings.solver.solver.Searches
  queue : queueCapacity? settings.eventQueueCapacity =
    if settings.eventQueueCapacity.toNat ≤ (UInt64.size - 1) >>> 3 then
      some settings.eventQueueCapacity.toNat
    else none
  upright : settings.eventQueueCapacity.toNat ≤ (UInt64.size - 1) >>> 3 →
    ∀ arguments files now, (CommandLine.runWith arguments settings files now).exitCode ≤ 1

/-- Settings that pass the check are run as they are written, unless the queue that they ask for is
longer than can be made. -/
theorem run_as_written {settings : Settings} (valid : settings.check = .ok ()) :
    RunAsWritten settings := by
  have sensible := Config.check_eq_ok_iff.mp valid
  have queue := queueCapacity?_eq sensible.eventQueueCapacity
  refine ⟨obeys_after sensible, sensible.searches, queue, ?_⟩
  intro fits
  rw [if_pos fits] at queue
  exact CommandLine.exitCode_runWith queue

/-- Settings at the edge: the longest queue, one failure, one try and the least positive damping. -/
def strained : Settings :=
  { eventQueueCapacity := 2305843009213693951
    retry := { maxConsecutiveFailures := 1, baseBackoff := 8000 }
    solver := { maxIterations := 1, initialDamping := Float.ofBits 1 } }

theorem run_as_written_strained : strained.check = .ok () ∧ RunAsWritten strained :=
  ⟨rfl, run_as_written rfl⟩

def crowded : Settings :=
  { eventQueueCapacity := 2305843009213693952 }

def crowdedFiles : String → Except File.Fault String
  | "config.json" => .ok "\x7b\"event_queue_capacity\": 2305843009213693952\x7d"
  | _ => .ok "\x7b\"c0:98:e5:42:00:00:00:02\": [0, 0, 0]\x7d"

/-- Crowded settings pass the check, but their queue cannot be made, and a run that reads them goes
down. -/
theorem crowded_unmade :
    crowded.check = .ok () ∧ queueCapacity? crowded.eventQueueCapacity = none ∧
      (CommandLine.run { config := some "config.json" } crowdedFiles 0).exitCode = 101 := by
  refine ⟨rfl, rfl, ?_⟩
  decide +kernel

end Engine

end TagFix
