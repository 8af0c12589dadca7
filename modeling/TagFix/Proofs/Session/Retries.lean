import TagFix.Proofs.Session.Meaning
import Mathlib.Data.List.DropRight

/-!
# Failures and retries

A session counts its failures in a row, and the last one that it is allowed ends it. In between an
epoch starts at most one scan, one connection and one subscription. The main statement is
`restrained_after`.
-/

namespace TagFix

open Link (Operation Signal)

namespace Session

/-! ## Failures in a row -/

/-- The failures in a row at the end of a run. -/
def failuresInRow (run : List Moment) : Nat :=
  (run.rtakeWhile fun moment => !moment.session.renews moment.call).countP fun moment =>
    moment.session.fails moment.call

def faultsTold (outputs : List Output) : Nat :=
  outputs.countP fun
    | .faulted _ => true
    | _ => false

theorem failuresInRow_concat (run : List Moment) (moment : Moment) :
    failuresInRow (run ++ [moment]) =
      if moment.session.renews moment.call then 0
      else failuresInRow run + if moment.session.fails moment.call then 1 else 0 := by
  rw [failuresInRow, List.rtakeWhile_concat]
  cases moment.session.renews moment.call with
  | true => rfl
  | false => simp [failuresInRow, List.countP_append, List.countP_singleton]

/-- What a call means for the failures in a row. -/
inductive Tally (session : Session) (call : Call) (turn : Turn) : Prop
  | renewed (renews : session.renews call = true) (fails : session.fails call = false)
      (backoff : turn.session.backoff = session.backoff.recordSuccess)
      (going : turn.session.phase ≠ .faulted) (untold : faultsTold turn.outputs = 0)
  | unchanged (renews : session.renews call = false) (fails : session.fails call = false)
      (backoff : turn.session.backoff = session.backoff)
      (same : turn.session.phase = .faulted ↔ session.phase = .faulted)
      (untold : faultsTold turn.outputs = 0)
  | failed (renews : session.renews call = false) (fails : session.fails call = true)
      (more : session.backoff.recordFailure.isExhausted = false)
      (backoff : turn.session.backoff = session.backoff.recordFailure)
      (going : turn.session.phase ≠ .faulted) (untold : faultsTold turn.outputs = 0)
  | spent (renews : session.renews call = false) (fails : session.fails call = true)
      (exhausted : session.backoff.recordFailure.isExhausted = true)
      (backoff : turn.session.backoff = session.backoff.recordFailure)
      (ended : turn.session.phase = .faulted) (told : faultsTold turn.outputs = 1)

section Moves

variable {session : Session} {call : Call} {turn : Turn}

theorem faultsTold_supersession_append (outputs : List Output) :
    faultsTold (session.supersession ++ outputs) = faultsTold outputs := by
  have none : faultsTold session.supersession = 0 := by
    unfold supersession
    split
    · rfl
    · rfl
  rw [faultsTold, List.countP_append]
  exact (congrArg (· + faultsTold outputs) none).trans (Nat.zero_add _)

/-- What becomes of the failures in a row is decided by the call. -/
theorem Move.tally (move : Move session call turn) : Tally session call turn := by
  cases move with
  | ignored unheeded =>
      have uneventful := uneventful_of_unheeded unheeded
      exact .unchanged uneventful.renews uneventful.fails rfl .rfl rfl
  | started text startable =>
      refine .renewed startable rfl rfl (by simp) ?_
      rw [List.append_assoc, faultsTold_supersession_append]
      split
      · rfl
      · rfl
  | cancelled phase | scanStopped text phase =>
      exact .unchanged rfl rfl rfl (by simp [phase]) (faultsTold_supersession_append _)
  | disconnecting text linking =>
      have going : session.phase ≠ .faulted := Phase.ne_of_isLinking linking rfl
      exact .unchanged rfl rfl rfl (by simp [going]) (faultsTold_supersession_append _)
  | written => exact .unchanged rfl rfl rfl .rfl rfl
  | subscribed now text phase =>
      exact .renewed (by simp [renews, phase]) (by simp [fails]) rfl (by simp) rfl
  | adapterReady now text phase | found now text phase | linked now text phase
  | readBegun now phase | unlinked now text phase | unlinkFailed reason now text phase =>
      exact .unchanged (by simp [renews]) (by simp [fails]) rfl (by simp [phase]) rfl
  | adapterOff | noted | writeCompleted | writeFailed =>
      exact .unchanged (by simp [renews]) (by simp [fails]) rfl .rfl rfl
  | readCompleted data now phase | readFailed reason now text phase =>
      have going : (if session.notificationPending then Phase.awaitingRead else .subscribed) ≠
          .faulted := by
        split
        · decide
        · decide
      refine .unchanged (by simp [renews]) (by simp [fails]) rfl (by simp [phase, going]) ?_
      dsimp only
      split
      · rfl
      · rfl
  | gaveUp text strikes exhausted =>
      exact .spent strikes.uneventful.renews strikes.uneventful.fails exhausted rfl rfl
        (faultsTold_supersession_append _)
  | @paused setback target call now text strikes again more =>
      have going : target.phase ≠ .faulted := by
        cases target with
        | scan | connect | subscribe => decide
      exact .failed strikes.uneventful.renews strikes.uneventful.fails more rfl going
        (faultsTold_supersession_append _)
  | rescanned text strikes lost more =>
      exact .failed strikes.uneventful.renews strikes.uneventful.fails more rfl (by simp)
        (faultsTold_supersession_append _)
  | scanRetried waiting | connectRetried waiting | subscribeRetried waiting =>
      exact .unchanged rfl (by simp [fails, alarm?, waiting]) rfl .rfl rfl

private theorem Tally.backoff_eq (tally : Tally session call turn) :
    turn.session.backoff = { session.backoff with failures := turn.session.backoff.failures } := by
  cases tally with
  | unchanged _ _ backoff => rw [backoff]
  | renewed _ _ backoff | failed _ _ _ backoff | spent _ _ _ backoff =>
      rw [backoff]
      rfl

/-- Calls change the count of the failures and no limit. -/
theorem backoff_after (session : Session) (calls : List Call) :
    (session.after calls).backoff =
      { session.backoff with failures := (session.after calls).backoff.failures } := by
  induction calls using List.reverseRecOn with
  | nil => rfl
  | append_singleton calls call inductionHypothesis =>
      rw [after_concat, (move_turn _ call).tally.backoff_eq, inductionHypothesis]

/-- A session that was given up does not fail again. -/
theorem Coherent.phase_ne_faulted_of_fails (coherent : Coherent session)
    (fails : session.fails call = true) : session.phase ≠ .faulted := by
  intro faulted
  cases call with
  | event event now =>
      obtain ⟨epoch, signal⟩ := event
      cases signal with
      | _ => simp [Session.fails, faulted, Phase.isLinkUp] at fails
  | poll now =>
      have waiting := coherent.deadline_eq_none (by simp [faulted])
      simp [Session.fails, isDue, waiting] at fails
  | _ => simp [Session.fails] at fails

end Moves

/-! ## The bound on failures -/

private theorem Backoff.failures_recordFailure {backoff : Backoff}
    (room : backoff.failures < mostCounted) :
    backoff.recordFailure.failures = backoff.failures + 1 :=
  Nat.min_eq_left room

/-- A session counts fewer failures than its limit until it is given up at the limit. -/
structure Bounded (limit : Nat) (session : Session) : Prop where
  limit_eq : session.backoff.maxFailures = limit
  positive : 0 < limit
  countable : limit ≤ Backoff.mostCounted
  below : session.phase ≠ .faulted → session.backoff.failures < limit
  reached : session.phase = .faulted → session.backoff.failures = limit

section Moves

variable {limit : Nat} {session : Session} {call : Call} {turn : Turn}

/-- The next failure is counted as one more, and ends the session where it reaches the limit. -/
theorem Bounded.recordFailure (bounded : Bounded limit session)
    (going : session.phase ≠ .faulted) :
    session.backoff.recordFailure.failures = session.backoff.failures + 1 ∧
      (session.backoff.recordFailure.isExhausted = true ↔
        session.backoff.failures + 1 = limit) := by
  have below := bounded.below going
  have countable := bounded.countable
  have counted := Backoff.failures_recordFailure (Nat.lt_of_lt_of_le below countable)
  refine ⟨counted, ?_⟩
  rw [Backoff.isExhausted, decide_eq_true_iff, counted]
  have same : session.backoff.recordFailure.maxFailures = limit := bounded.limit_eq
  omega

/-- A call that counts one failure more stays below the limit, or gives the session up at it. -/
theorem Tally.bounded (tally : Tally session call turn) (coherent : Coherent session)
    (bounded : Bounded limit session) : Bounded limit turn.session := by
  have limit_eq := bounded.limit_eq
  have positive := bounded.positive
  cases tally with
  | renewed renews fails backoff going =>
      refine ⟨by rw [backoff]; exact limit_eq, positive, bounded.countable, ?_, ?_⟩
      · intro _
        rw [backoff]
        exact positive
      · intro faulted
        exact absurd faulted going
  | unchanged renews fails backoff same =>
      refine ⟨by rw [backoff, limit_eq], positive, bounded.countable, ?_, ?_⟩
      · intro going
        rw [backoff]
        exact bounded.below (mt same.mpr going)
      · intro faulted
        rw [backoff]
        exact bounded.reached (same.mp faulted)
  | failed renews fails more backoff going =>
      have before := coherent.phase_ne_faulted_of_fails fails
      obtain ⟨counted, exhausted⟩ := bounded.recordFailure before
      refine ⟨by rw [backoff]; exact limit_eq, positive, bounded.countable, ?_, ?_⟩
      · intro _
        have below := bounded.below before
        rw [more] at exhausted
        rw [backoff, counted]
        simp only [Bool.false_eq_true, false_iff] at exhausted
        omega
      · intro faulted
        exact absurd faulted going
  | spent renews fails exhausted backoff ended =>
      obtain ⟨counted, last⟩ := bounded.recordFailure (coherent.phase_ne_faulted_of_fails fails)
      refine ⟨by rw [backoff]; exact limit_eq, positive, bounded.countable, ?_, ?_⟩
      · intro going
        exact absurd ended going
      · intro _
        rw [backoff, counted, last.mp exhausted]

private theorem Tally.failures_eq (tally : Tally session call turn) (coherent : Coherent session)
    (bounded : Bounded limit session) :
    turn.session.backoff.failures =
      if session.renews call then 0
      else session.backoff.failures + if session.fails call then 1 else 0 := by
  cases tally with
  | renewed renews fails backoff => simp [renews, backoff, Backoff.recordSuccess]
  | unchanged renews fails backoff => simp [renews, fails, backoff]
  | failed renews fails more backoff | spent renews fails exhausted backoff =>
      have counted := bounded.recordFailure (coherent.phase_ne_faulted_of_fails fails)
      simp [renews, fails, backoff, counted.1]

/-- The session is given up in the call that brings the last failure it is allowed. -/
theorem Tally.faulted_iff (tally : Tally session call turn) (coherent : Coherent session)
    (bounded : Bounded limit session) :
    (session.phase ≠ .faulted ∧ turn.session.phase = .faulted) ↔
      (session.fails call = true ∧ session.backoff.failures + 1 = limit) := by
  cases tally with
  | renewed renews fails backoff going => simp [fails, going]
  | unchanged renews fails backoff same => simp [fails, same]
  | failed renews fails more backoff going =>
      obtain ⟨counted, last⟩ := bounded.recordFailure (coherent.phase_ne_faulted_of_fails fails)
      simpa [going, fails, more] using last
  | spent renews fails exhausted backoff ended =>
      have before := coherent.phase_ne_faulted_of_fails fails
      have last := (bounded.recordFailure before).2.mp exhausted
      exact iff_of_true ⟨before, ended⟩ ⟨fails, last⟩

private theorem Tally.faultsTold_eq (tally : Tally session call turn)
    (coherent : Coherent session) :
    faultsTold turn.outputs =
      if session.phase ≠ .faulted ∧ turn.session.phase = .faulted then 1 else 0 := by
  cases tally with
  | renewed renews fails backoff going untold | failed renews fails more backoff going untold =>
      rw [untold, if_neg (fun entered => going entered.2)]
  | unchanged renews fails backoff same untold =>
      rw [untold, if_neg (fun entered => entered.1 (same.mp entered.2))]
  | spent renews fails exhausted backoff ended told =>
      rw [told, if_pos ⟨coherent.phase_ne_faulted_of_fails fails, ended⟩]

end Moves

/-! ## The bound on attempts -/

/-- Whether an operation is an attempt to find the tag, to connect to it or to subscribe. -/
def isAttempt : Operation → Bool
  | .startScan _ | .connect .. | .startNotification .. => true
  | _ => false

def attempts (operations : List Operation) : Nat :=
  operations.countP isAttempt

/-- The attempts that may still come before the next failure. -/
def attemptsAhead (session : Session) : Nat :=
  match session.phase with
  | .idle => if session.adapterCheckPending then 3 else 0
  | .scanning => if session.alarm? = some (.retry .scan) then 3 else 2
  | .connecting => if session.alarm? = some (.retry .connect) then 2 else 1
  | .subscribing => if session.alarm? = some (.retry .subscribe) then 1 else 0
  | _ => 0

/-- The attempts that may still come before the session is given up. -/
def attemptsLeft (limit : Nat) (session : Session) : Nat :=
  3 * (limit - 1 - session.backoff.failures) + session.attemptsAhead

section Moves

variable {limit : Nat} {session : Session} {call : Call} {turn : Turn}

private theorem attemptsAhead_le (session : Session) : session.attemptsAhead ≤ 3 := by
  unfold attemptsAhead
  split
  case h_5 => exact Nat.zero_le 3
  all_goals
    split
    · decide
    · decide

theorem attempts_append (earlier later : List Operation) :
    attempts (earlier ++ later) = attempts earlier + attempts later :=
  List.countP_append

theorem attemptsAhead_of_scanning (phase : session.phase = .scanning) :
    2 ≤ session.attemptsAhead := by
  simp only [attemptsAhead, phase]
  split
  · decide
  · decide

theorem attemptsAhead_of_connecting (phase : session.phase = .connecting) :
    1 ≤ session.attemptsAhead := by
  simp only [attemptsAhead, phase]
  split
  · decide
  · decide

/-- Without a failure every attempt is one less to come before the next. -/
theorem Move.attemptsAhead_le (move : Move session call turn) (coherent : Coherent session)
    (renews : session.renews call = false) (fails : session.fails call = false) :
    attempts turn.issued + turn.session.attemptsAhead ≤ session.attemptsAhead := by
  cases move with
  | ignored | written | writeCompleted | writeFailed => exact Nat.le_of_eq (Nat.zero_add _)
  | started text startable => simp [Session.renews, startable] at renews
  | subscribed now text phase => simp [Session.renews, phase] at renews
  | cancelled | scanStopped | disconnecting | readBegun | unlinked | unlinkFailed =>
      simp [attempts, isAttempt, attemptsAhead]
  | adapterOff now text phase | noted now phase => simp [attempts, attemptsAhead, phase]
  | adapterReady now text phase pending =>
      simp [attempts, isAttempt, attemptsAhead, alarm?, phase, pending]
  | found now text phase => exact attemptsAhead_of_scanning phase
  | linked now text phase => exact attemptsAhead_of_connecting phase
  | readCompleted | readFailed =>
      cases pending : session.notificationPending with
      | false | true => simp [attempts, isAttempt, attemptsAhead, nextRead, pending]
  | gaveUp text strikes | paused text strikes | rescanned text strikes =>
      rw [strikes.uneventful.fails] at fails
      cases fails
  | scanRetried waiting | connectRetried waiting | subscribeRetried waiting =>
      simp [attempts, isAttempt, attemptsAhead, alarm?, waiting, coherent.phase_of_retry waiting,
        RetryTarget.phase]

theorem attempts_cleanup (setback : Setback) (session : Session) :
    attempts (setback.cleanup session) = 0 := by
  cases setback with
  | _ => rfl

theorem attempts_hangUp (session : Session) : attempts session.hangUp = 0 := by
  unfold hangUp
  split
  · rfl
  · rfl

private theorem attempts_setback_hangUp (setback : Setback) (session : Session) :
    attempts (setback.hangUp session) = 0 := by
  cases setback with
  | scanTimedOut => rfl
  | _ => exact attempts_hangUp session

/-- After a failure there are at most the attempts of one more epoch before the next, and none where
the session is given up. -/
theorem Move.attemptsAhead_le_of_fails (move : Move session call turn)
    (fails : session.fails call = true) :
    attempts turn.issued + turn.session.attemptsAhead ≤
      if session.backoff.recordFailure.isExhausted then 0 else 3 := by
  cases move with
  | ignored unheeded =>
      rw [(uneventful_of_unheeded unheeded).fails] at fails
      cases fails
  | gaveUp text strikes exhausted =>
      rw [attempts_append, attempts_cleanup, attempts_hangUp, if_pos exhausted]
      simp [attemptsAhead]
  | @paused setback target call now text strikes again more =>
      rw [attempts_cleanup, more, Nat.zero_add]
      exact Session.attemptsAhead_le _
  | @rescanned setback call now text strikes lost more =>
      rw [attempts_append, attempts_append, attempts_cleanup, attempts_setback_hangUp, more]
      simp [attempts, isAttempt, attemptsAhead, alarm?]
  | scanRetried waiting | connectRetried waiting | subscribeRetried waiting =>
      simp [Session.fails, alarm?, waiting] at fails
  | _ => simp [Session.fails] at fails

/-- Until the session starts afresh, every attempt is one less to come. -/
theorem Move.attemptsLeft_le (move : Move session call turn) (coherent : Coherent session)
    (bounded : Bounded limit session) (renews : session.renews call = false) :
    attempts turn.issued + turn.session.attemptsLeft limit ≤ session.attemptsLeft limit := by
  unfold attemptsLeft
  cases move.tally with
  | renewed renewed =>
      rw [renews] at renewed
      cases renewed
  | unchanged _ fails backoff =>
      have ahead := move.attemptsAhead_le coherent renews fails
      rw [backoff]
      omega
  | failed _ fails more backoff =>
      -- The failure uses up the three attempts of an epoch that the next one may make.
      have ahead := move.attemptsAhead_le_of_fails fails
      obtain ⟨counted, last⟩ := bounded.recordFailure (coherent.phase_ne_faulted_of_fails fails)
      have below := bounded.below (coherent.phase_ne_faulted_of_fails fails)
      rw [more] at ahead last
      simp only [Bool.false_eq_true, if_false, false_iff] at ahead last
      rw [backoff, counted]
      omega
  | spent _ fails exhausted backoff =>
      have ahead := move.attemptsAhead_le_of_fails fails
      obtain ⟨counted, last⟩ := bounded.recordFailure (coherent.phase_ne_faulted_of_fails fails)
      rw [if_pos exhausted] at ahead
      rw [backoff, counted]
      omega

/-- So the attempts to come bound those of every stretch in which the session does not start
afresh. -/
theorem attempts_le_attemptsLeft (coherent : Coherent session) (bounded : Bounded limit session)
    (calls : List Call)
    (renews : ∀ moment ∈ session.moments calls, moment.session.renews moment.call = false) :
    attempts (issuedIn (session.moments calls)) ≤ session.attemptsLeft limit := by
  induction calls generalizing session with
  | nil => exact Nat.zero_le _
  | cons call rest inductionHypothesis =>
      have move := move_turn session call
      simp only [moments, List.forall_mem_cons] at renews
      have first := move.attemptsLeft_le coherent bounded renews.1
      have others := inductionHypothesis (move.coherent coherent)
        (move.tally.bounded coherent bounded) renews.2
      have split : attempts (issuedIn (session.moments (call :: rest))) =
          attempts (session.turn call).issued +
            attempts (issuedIn ((session.turn call).session.moments rest)) :=
        attempts_append _ _
      omega

end Moves

/-! ## Runs -/

/-- The failures in a row at which a session is given up; one at least is allowed. -/
def failureLimit (settings : Config.Retry) : Nat :=
  max settings.maxConsecutiveFailures.toNat 1

section Runs

variable (device : Device) (settings : Config.Retry) (calls : List Call)

theorem bounded_fresh : Bounded (failureLimit settings) (fresh device settings) where
  limit_eq := rfl
  positive := Nat.le_max_right _ _
  countable := by
    have word := settings.maxConsecutiveFailures.toNat_lt
    unfold failureLimit Backoff.mostCounted
    omega
  below _ := Nat.le_max_right _ _
  reached := nofun

/-- In every run the failures in a row stay below the limit until the session is given up. -/
theorem bounded_after :
    Bounded (failureLimit settings) ((fresh device settings).after calls) := by
  induction calls using List.reverseRecOn with
  | nil => exact bounded_fresh device settings
  | append_singleton calls call inductionHypothesis =>
      rw [after_concat]
      exact (move_turn _ call).tally.bounded (coherent_after device settings calls)
        inductionHypothesis

/-- The backoff has counted the failures in a row of the run. -/
theorem failures_after :
    ((fresh device settings).after calls).backoff.failures =
      failuresInRow ((fresh device settings).moments calls) := by
  induction calls using List.reverseRecOn with
  | nil => rfl
  | append_singleton calls call inductionHypothesis =>
      rw [moments_concat, failuresInRow_concat, after_concat, ← inductionHypothesis]
      exact (move_turn _ call).tally.failures_eq (coherent_after device settings calls)
        (bounded_after device settings calls)

/-- How a session of a run stands with its failures, and what comes of the next call and of any
further calls. -/
structure Restrained (limit : Nat) (run : List Moment) (session : Session) : Prop where
  failures_eq : session.backoff.failures = failuresInRow run
  below : session.phase ≠ .faulted → session.backoff.failures < limit
  reached : session.phase = .faulted → session.backoff.failures = limit
  faulted_iff : ∀ call,
    (session.phase ≠ .faulted ∧ (session.turn call).session.phase = .faulted) ↔
      (session.fails call = true ∧ failuresInRow run + 1 = limit)
  faultsTold_eq : ∀ call,
    faultsTold (session.turn call).outputs =
      if session.phase ≠ .faulted ∧ (session.turn call).session.phase = .faulted then 1 else 0
  attempts_le : ∀ calls,
    (∀ moment ∈ session.moments calls, moment.session.renews moment.call = false) →
      attempts (issuedIn (session.moments calls)) ≤ 3 * limit

/-- After any run the failures in a row are those since the session last started afresh. They stay
below the limit until the failure that reaches it, which ends the session and is told of once, and
from any point on there are at most three attempts for each failure that is allowed, unless the
session starts afresh. -/
theorem restrained_after :
    Restrained (failureLimit settings) ((fresh device settings).moments calls)
      ((fresh device settings).after calls) := by
  have coherent := coherent_after device settings calls
  have bounded := bounded_after device settings calls
  have failures := failures_after device settings calls
  constructor
  case failures_eq => exact failures
  case below => exact bounded.below
  case reached => exact bounded.reached
  case faulted_iff =>
    intro call
    rw [← failures]
    exact (move_turn _ call).tally.faulted_iff coherent bounded
  case faultsTold_eq =>
    intro call
    exact (move_turn _ call).tally.faultsTold_eq coherent
  case attempts_le =>
    intro later unrenewed
    have bound := attempts_le_attemptsLeft coherent bounded later unrenewed
    have ahead := attemptsAhead_le ((fresh device settings).after calls)
    have positive := bounded.positive
    unfold attemptsLeft at bound
    omega

end Runs

/-- All the attempts that two failures allow: the second epoch begins when the radio no longer knows
the tag. -/
def twoEpochs : List Call :=
  [.event ⟨1, .adapterState true⟩ 0, .event ⟨1, .deviceDiscovered "tag"⟩ 100,
    .event ⟨1, .connected⟩ 200, .event ⟨1, .subscribeFailed "not found"⟩ 300,
    .event ⟨2, .deviceDiscovered "tag"⟩ 400, .event ⟨2, .connected⟩ 500]

example : attempts (issuedIn
    (((fresh ⟨"tag", "Tag"⟩ { maxConsecutiveFailures := 2 }).after [.start]).moments twoEpochs)) =
      3 * failureLimit { maxConsecutiveFailures := 2 } := by decide

end Session

end TagFix
