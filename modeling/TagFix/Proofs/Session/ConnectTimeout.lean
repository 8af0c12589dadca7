import TagFix.Proofs.Session.Lifecycle
import TagFix.Proofs.Session.Writes
import Mathlib.Data.List.Forall2
import Mathlib.Data.List.Infix

/-!
# Attempts to connect that run out of time

An attempt to connect whose time has run out is treated like one that has failed for a reason of the
moment: the session waits or is given up in the same way, and tells the same but for the reason.
Before that it asks to disconnect, because the link may still come up. Only the failed attempt is
counted among the failures of the moment. The main statement is `connectTimedOut_alike`.
-/

namespace TagFix

open Link (Activity Epoch Event Failure FailureKind Operation)

private theorem Text.occurs_iff (pattern text : List Char) :
    occurs pattern text = true ↔ pattern <:+: text := by
  induction text with
  | nil => simp [occurs]
  | cons c rest inductionHypothesis =>
      rw [occurs, Bool.or_eq_true, List.isPrefixOf_iff_prefix, inductionHypothesis,
        List.infix_cons_iff]

namespace Session

/-! ## Outputs that differ in a reason -/

/-- The same output, but for the reason of a failure that is told of. -/
inductive Output.Alike (first second : String) : Output → Output → Prop
  | same (output : Output) : Alike first second output output
  | status (text : String) :
      Alike first second (.status (text ++ first)) (.status (text ++ second))
  | faulted (activity : Activity) (kind : FailureKind) :
      Alike first second (.faulted ⟨activity, kind, first⟩) (.faulted ⟨activity, kind, second⟩)

/-- Turns that come to the same, but for the reason of a failure that is told of, the counters and
what was asked of the link before. -/
structure Turn.Alike (counters : Counters) (before : List Operation) (first second : String)
    (left right : Turn) : Prop where
  session_eq : left.session = { right.session with counters }
  issued_eq : left.issued = before ++ right.issued
  outputs : List.Forall₂ (Output.Alike first second) left.outputs right.outputs

section Alike

variable {first second : String} {left right : List Output}

theorem alike_append (same : List Output)
    (alike : List.Forall₂ (Output.Alike first second) left right) :
    List.Forall₂ (Output.Alike first second) (same ++ left) (same ++ right) :=
  List.rel_append (List.forall₂_same.mpr fun output _ => .same output) alike

/-- What is drawn from outputs without regard to reasons is the same. -/
theorem filterMap_eq_of_alike {α : Type} {draw : Output → Option α}
    (blind : ∀ {output other}, output.Alike first second other → draw output = draw other)
    (alike : List.Forall₂ (Output.Alike first second) left right) :
    left.filterMap draw = right.filterMap draw := by
  induction alike with
  | nil => rfl
  | cons head _ inductionHypothesis =>
      rw [List.filterMap_cons, List.filterMap_cons, blind head, inductionHypothesis]

private theorem changes_eq_of_alike (alike : List.Forall₂ (Output.Alike first second) left right) :
    changes left = changes right := by
  apply filterMap_eq_of_alike _ alike
  intro output other like
  cases like with
  | same | status | faulted => rfl

private theorem writeResults_eq_of_alike
    (alike : List.Forall₂ (Output.Alike first second) left right) :
    writeResults left = writeResults right := by
  apply filterMap_eq_of_alike _ alike
  intro output other like
  cases like with
  | same | status | faulted => rfl

end Alike

/-! ## Retries for different reasons -/

section Retries

variable (session : Session) (deadline : Option Deadline) (counters : Counters)
  (before : List Operation) (failure : Failure) (reason : String)

private theorem farewell_alike (text : String) :
    Output.Alike failure.reason reason (.status (text ++ failure.message))
      (.status (text ++ Failure.message { failure with reason })) := by
  have alike : Output.Alike failure.reason reason _ _ :=
    .status (text ++ (failure.activity.text ++ " failed (" ++ failure.kind.name ++ "): "))
  simpa only [Failure.message, String.append_assoc] using alike

private theorem giveUp_alike :
    Turn.Alike counters before failure.reason reason
      (Turn.giveUp failure ⟨{ session with deadline, counters }, before, []⟩)
      (session.quiet.giveUp { failure with reason }) := by
  constructor
  case session_eq | issued_eq =>
    simp [Turn.giveUp, Turn.advanceEpoch_eq, Turn.disconnectIf_eq, Turn.clearDeadline,
      Turn.clearNotification, Turn.enter, Turn.say, Turn.tell, Turn.update, quiet]
  case outputs =>
    have farewell := farewell_alike failure reason ("Giving up on " ++ session.device.name ++
      " after " ++ toString session.backoff.failures ++ " consecutive failures: ")
    have told : List.Forall₂ (Output.Alike failure.reason reason) _ _ :=
      .cons (.same (.phaseChanged session.phase .faulted))
        (.cons farewell (.cons (.faulted failure.activity failure.kind) .nil))
    have alike := alike_append session.supersession told
    simpa [Turn.giveUp, Turn.advanceEpoch_eq, Turn.disconnectIf_eq, Turn.clearDeadline,
      Turn.clearNotification, Turn.enter, Turn.say, Turn.tell, Turn.update, supersession, quiet]
      using alike

private theorem awaitRetry_alike (target : RetryTarget) (now : Nat) :
    Turn.Alike counters before failure.reason reason
      (Turn.awaitRetry failure target now ⟨{ session with deadline, counters }, before, []⟩)
      (session.quiet.awaitRetry { failure with reason } target now) := by
  constructor
  case session_eq | issued_eq =>
    simp [Turn.awaitRetry, Turn.advanceEpoch_eq, Turn.setDeadline, Turn.enter, Turn.say, Turn.tell,
      Turn.update, quiet]
  case outputs =>
    -- The words for a pause do not hold the reason.
    have same : (Turn.awaitRetry failure target now
        ⟨{ session with deadline, counters }, before, []⟩).outputs =
          (session.quiet.awaitRetry { failure with reason } target now).outputs := by
      simp [Turn.awaitRetry, Turn.advanceEpoch_eq, Turn.setDeadline, Turn.enter, Turn.say,
        Turn.tell, Turn.update, supersession, quiet]
    rw [same]
    exact List.forall₂_same.mpr fun output _ => .same output

private theorem counters_retryLater (target : RetryTarget) (now : Nat) :
    (session.quiet.retryLater failure target now).session.counters = session.counters := by
  simp only [Turn.retryLater]
  split
  · obtain ⟨text, gone⟩ := session.quiet.recordFailure.giveUp_eq failure
    rw [gone]
    rfl
  · obtain ⟨text, paused⟩ := session.quiet.recordFailure.awaitRetry_eq failure target now
    rw [paused]
    rfl

private theorem retryLater_alike (target : RetryTarget) (now : Nat) :
    Turn.Alike counters before failure.reason reason
      (Turn.retryLater failure target now ⟨{ session with deadline, counters }, before, []⟩)
      (session.quiet.retryLater { failure with reason } target now) := by
  unfold Turn.retryLater
  cases exhausted : session.backoff.recordFailure.isExhausted with
  | true =>
      have alike := giveUp_alike { session with backoff := session.backoff.recordFailure } deadline
        counters before failure reason
      simpa [Turn.recordFailure, Turn.update, quiet, exhausted] using alike
  | false =>
      have alike := awaitRetry_alike { session with backoff := session.backoff.recordFailure }
        deadline counters before failure reason target now
      simpa [Turn.recordFailure, Turn.update, quiet, exhausted] using alike

end Retries

/-! ## The two ways to fail -/

/-- A reason that does not say that the radio no longer knows the tag. -/
def IsPassing (reason : String) : Prop :=
  ¬ Link.unreachableSign.toList <:+: reason.toList.map Char.toLower

private theorem classify_of_isPassing {reason : String} (activity : Activity)
    (passing : IsPassing reason) :
    Failure.classify activity reason = ⟨activity, .transient, reason⟩ := by
  have absent := mt (Text.occurs_iff _ _).mp passing
  simp only [Failure.classify, absent, Bool.false_eq_true, if_false]

def Counters.withTransientFailure (counters : Counters) : Counters :=
  { counters with transientFailures := counters.transientFailures + 1 }

section Connecting

variable {session : Session} {due now : Nat} {reason : String}

private theorem poll_of_connectTimeout (waiting : session.deadline = some ⟨due, .connectTimeout⟩)
    (isDue : due ≤ now) :
    session.poll now = { session with deadline := none }.connectTimedOut now := by
  simp only [poll, waiting, if_pos isDue, alarmed]

private theorem handle_connectFailed (phase : session.phase = .connecting)
    (passing : IsPassing reason) (now : Nat) :
    session.handle ⟨session.epoch, .connectFailed reason⟩ now =
      (quiet { session with counters := session.counters.withTransientFailure }).retryLater
        ⟨.connect, .transient, reason⟩ .connect now := by
  have received : session.receive (.connectFailed reason) now =
      session.quiet.linkFailed (.classify .connect reason) .connect now := by
    simp only [receive, phase]
  rw [handle, if_pos rfl, received, classify_of_isPassing .connect passing]
  rfl

/-- How an attempt to connect that runs out of time at an instant compares to one that fails at the
same instant for a passing reason. -/
structure ConnectsInVain (session : Session) (now : Nat) (reason : String) : Prop where
  alike : Turn.Alike session.counters [.disconnect session.device.id session.epoch]
    ("no connection within " ++ toString session.connectTimeout ++ " ms") reason
      (session.poll now) (session.handle ⟨session.epoch, .connectFailed reason⟩ now)
  counters_eq : (session.handle ⟨session.epoch, .connectFailed reason⟩ now).session.counters =
    { session.counters with transientFailures := session.counters.transientFailures + 1 }
  changes_eq : changes (session.poll now).outputs =
    changes (session.handle ⟨session.epoch, .connectFailed reason⟩ now).outputs
  writeResults_eq : writeResults (session.poll now).outputs =
    writeResults (session.handle ⟨session.epoch, .connectFailed reason⟩ now).outputs

/-- Whether an attempt to connect runs out of time or fails for a passing reason, the session goes
on in the same way, but for the disconnection that is asked for and the counters. -/
theorem connectTimedOut_alike (phase : session.phase = .connecting)
    (waiting : session.deadline = some ⟨due, .connectTimeout⟩) (isDue : due ≤ now)
    (passing : IsPassing reason) : ConnectsInVain session now reason := by
  have failed := handle_connectFailed phase passing now
  have alike := retryLater_alike
    { session with counters := session.counters.withTransientFailure } none session.counters
    [.disconnect session.device.id session.epoch]
    ⟨.connect, .transient, "no connection within " ++ toString session.connectTimeout ++ " ms"⟩
    reason .connect now
  rw [← failed] at alike
  have timed : Turn.Alike session.counters [.disconnect session.device.id session.epoch]
      ("no connection within " ++ toString session.connectTimeout ++ " ms") reason
        (session.poll now) (session.handle ⟨session.epoch, .connectFailed reason⟩ now) := by
    rw [poll_of_connectTimeout waiting isDue]
    exact alike
  constructor
  case alike => exact timed
  case counters_eq =>
    rw [failed]
    exact counters_retryLater _ _ _ _
  case changes_eq => exact changes_eq_of_alike timed.outputs
  case writeResults_eq => exact writeResults_eq_of_alike timed.outputs

end Connecting

/-- A run in which the tag is found but does not answer. -/
def unanswered : List Call :=
  [.start, .event ⟨1, .adapterState true⟩ 0, .event ⟨1, .deviceDiscovered "tag"⟩ 100]

theorem connectTimedOut_alike_unanswered :
    let session := (fresh ⟨"tag", "Tag"⟩ {}).after unanswered
    session.phase = .connecting ∧ session.deadline = some ⟨10100, .connectTimeout⟩ ∧
      10100 ≤ 10100 ∧ IsPassing "GATT error 133" ∧
        ConnectsInVain session 10100 "GATT error 133" := by
  have passing : IsPassing "GATT error 133" :=
    mt (Text.occurs_iff _ _).mpr (by decide)
  exact ⟨rfl, rfl, Nat.le_refl _, passing,
    connectTimedOut_alike rfl rfl (Nat.le_refl _) passing⟩

/-- Of the two only the attempt that fails is counted. -/
theorem counters_poll_ne_unanswered :
    let session := (fresh ⟨"tag", "Tag"⟩ {}).after unanswered
    (session.poll 10100).session.counters ≠
      (session.handle ⟨session.epoch, .connectFailed "GATT error 133"⟩ 10100).session.counters := by
  decide

end Session

end TagFix
