import TagFix.Proofs.Session.Doubling
import TagFix.Proofs.Session.Rest
import TagFix.Proofs.Session.Waiting
import TagFix.Proofs.Session.Retries

/-!
# Pauses before a retry

On a link that answers only what it was asked, nothing makes a session try again before the pause
after a failure has passed: a further failure can only make it longer. The main statement is
`patient_after`.
-/

namespace TagFix

open Link (Epoch Event Operation Signal)

/-! ## Links that answer what they were asked -/

/-- Whether a signal is the answer to an operation that finds the tag, connects to it or subscribes,
or to a check of the adapter. -/
def Link.Signal.isAnswer : Signal → Bool
  | .adapterState _ | .deviceDiscovered _ | .scanFailed _ | .connected | .connectFailed _
  | .subscribed | .subscribeFailed _ => true
  | _ => false

def Link.Signal.answers : Signal → Operation → Bool
  | .adapterState _, .checkAdapter _ => true
  | .deviceDiscovered _, .startScan _ | .scanFailed _, .startScan _ => true
  | .connected, .connect .. | .connectFailed _, .connect .. => true
  | .subscribed, .startNotification .. | .subscribeFailed _, .startNotification .. => true
  | _, _ => false

namespace Session

/-- Whether an answer that a call may bring is one to an operation of its epoch. -/
def Call.isAsked (issued : List Operation) : Call → Bool
  | .event ⟨epoch, signal⟩ _ =>
      !signal.isAnswer ||
        issued.any fun operation => signal.answers operation && operation.epoch? = some epoch
  | .start | .disconnect | .write .. | .poll _ => true

/-- Whether all answers in a run are to operations that were issued before them. -/
def isTruthful (issued : List Operation) : List Moment → Bool
  | [] => true
  | moment :: rest =>
      moment.call.isAsked issued && isTruthful (issued ++ moment.turn.issued) rest

theorem isTruthful_append (issued : List Operation) (earlier later : List Moment) :
    isTruthful issued (earlier ++ later) =
      (isTruthful issued earlier && isTruthful (issued ++ issuedIn earlier) later) := by
  induction earlier generalizing issued with
  | nil => simp [isTruthful, issuedIn]
  | cons moment rest inductionHypothesis =>
      simp only [List.cons_append, isTruthful, inductionHypothesis, Bool.and_assoc, issuedIn,
        List.flatMap_cons, List.append_assoc]

def Call.instant? : Call → Option Nat
  | .event _ now | .poll now => some now
  | .start | .disconnect | .write .. => none

def instants (calls : List Call) : List Nat :=
  calls.filterMap Call.instant?

/-! ## A session in a pause -/

def RetryTarget.attempt (session : Session) : RetryTarget → Operation
  | .scan => .startScan session.epoch
  | .connect => .connect session.device.id session.epoch
  | .subscribe => .startNotification session.device.id .location session.epoch

section Moves

variable {run : List Moment} {session : Session} {call : Call} {turn : Turn} {due now : Nat}
  {target : RetryTarget}

private theorem poll_of_retry (waiting : session.deadline = some ⟨due, .retry target⟩)
    (isDue : due ≤ now) :
    (session.poll now).issued = [target.attempt session] := by
  cases target with
  | scan | connect | subscribe =>
      simp only [poll, waiting, if_pos isDue, alarmed]
      rfl

private theorem RetryTarget.phase_injective {other : RetryTarget}
    (same : target.phase = other.phase) :
    target = other := by
  cases target with
  | scan =>
      cases other with
      | scan => rfl
      | connect | subscribe => cases same
  | connect =>
      cases other with
      | connect => rfl
      | scan | subscribe => cases same
  | subscribe =>
      cases other with
      | subscribe => rfl
      | scan | connect => cases same

private theorem Awaits.startScan_not_mem (awaits : Awaits run session) (coherent : Coherent session)
    (waiting : session.deadline = some ⟨due, .retry target⟩)
    (phase : session.phase = RetryTarget.scan.phase) :
    .startScan session.epoch ∉ issuedIn run := by
  cases RetryTarget.phase_injective ((coherent.phase_of_retry waiting).symm.trans phase)
  simpa [Awaits, phase, RetryTarget.phase, alarm?, waiting] using awaits

private theorem Awaits.connect_not_mem (awaits : Awaits run session) (coherent : Coherent session)
    (waiting : session.deadline = some ⟨due, .retry target⟩)
    (phase : session.phase = RetryTarget.connect.phase) (device : String) :
    .connect device session.epoch ∉ issuedIn run := by
  cases RetryTarget.phase_injective ((coherent.phase_of_retry waiting).symm.trans phase)
  have unconnected : ∀ device, .connect device session.epoch ∉ issuedIn run := by
    simpa [Awaits, phase, RetryTarget.phase, alarm?, waiting] using awaits
  exact unconnected device

private theorem Awaits.startNotification_not_mem (awaits : Awaits run session)
    (coherent : Coherent session) (waiting : session.deadline = some ⟨due, .retry target⟩)
    (phase : session.phase = RetryTarget.subscribe.phase) (device : String)
    (characteristic : Link.Characteristic) :
    .startNotification device characteristic session.epoch ∉ issuedIn run := by
  cases RetryTarget.phase_injective ((coherent.phase_of_retry waiting).symm.trans phase)
  have unsubscribed : ∀ device characteristic,
      .startNotification device characteristic session.epoch ∉ issuedIn run := by
    simpa [Awaits, phase, RetryTarget.phase, alarm?, waiting] using awaits
  exact unsubscribed device characteristic

private theorem Awaits.isAnswer_eq_false (awaits : Awaits run session) (coherent : Coherent session)
    (waiting : session.deadline = some ⟨due, .retry target⟩) {signal : Signal}
    (accepted : session.acceptsSignal signal = true)
    (asked : (Call.event ⟨session.epoch, signal⟩ now).isAsked (issuedIn run) = true) :
    signal.isAnswer = false := by
  -- An answer that the session would act on is one to the very operation that is still to be tried,
  -- and none of its epoch was issued.
  by_contra answer
  rw [Bool.not_eq_false] at answer
  obtain ⟨operation, issued, answers⟩ : ∃ operation ∈ issuedIn run,
      (signal.answers operation && operation.epoch? = some session.epoch) = true := by
    simpa [Call.isAsked, answer] using asked
  obtain ⟨answers, stamped⟩ := Bool.and_eq_true_iff.mp answers
  rw [decide_eq_true_iff] at stamped
  cases signal with
  | adapterState enabled =>
      have phase : session.phase = .idle := of_decide_eq_true (Bool.and_eq_true_iff.mp accepted).1
      rw [coherent.phase_of_retry waiting] at phase
      cases target with
      | scan | connect | subscribe => cases phase
  | deviceDiscovered | scanFailed =>
      have phase : session.phase = .scanning := by grind [acceptsSignal]
      cases operation with
      | startScan epoch =>
          cases stamped
          exact awaits.startScan_not_mem coherent waiting phase issued
      | _ => cases answers
  | connected | connectFailed =>
      have phase : session.phase = .connecting := of_decide_eq_true accepted
      cases operation with
      | connect device epoch =>
          cases stamped
          exact awaits.connect_not_mem coherent waiting phase device issued
      | _ => cases answers
  | subscribed | subscribeFailed =>
      have phase : session.phase = .subscribing := of_decide_eq_true accepted
      cases operation with
      | startNotification device characteristic epoch =>
          cases stamped
          exact awaits.startNotification_not_mem coherent waiting phase device characteristic issued
      | _ => cases answers
  | notification | readCompleted | readFailed | writeCompleted | writeFailed | disconnected
  | disconnectFailed | linkLost => cases answer

private theorem Awaits.linkLost_of_strikes (awaits : Awaits run session)
    (coherent : Coherent session)
    (waiting : session.deadline = some ⟨due, .retry target⟩) {setback : Setback}
    (strikes : session.Strikes setback call now) (asked : call.isAsked (issuedIn run) = true) :
    setback.retry? = some .connect ∧ setback.cleanup session = [] ∧ call.instant? = some now := by
  cases strikes with
  | scanFailed phase | connectFailed phase | subscribeFailed phase =>
      have unasked := awaits.isAnswer_eq_false coherent waiting (by simp [acceptsSignal, phase])
        asked
      cases unasked
  | scanTimedOut timed | connectTimedOut timed =>
      rw [waiting] at timed
      cases timed
  | linkLost => exact ⟨rfl, rfl, rfl⟩

/-- What becomes of a pause by a call: it goes on, the link was lost and a longer one begins, or the
session has come to an end. -/
inductive PauseStep (session : Session) (call : Call) (turn : Turn) : Prop
  | kept (deadline : turn.session.deadline = session.deadline)
      (backoff : turn.session.backoff = session.backoff)
  | renewed (now : Nat) (instant : call.instant? = some now) (fails : session.fails call = true)
      (deadline : turn.session.deadline =
        some ⟨now + session.backoff.recordFailure.delay, .retry .connect⟩)
      (backoff : turn.session.backoff = session.backoff.recordFailure)
  | ended (resting : turn.session.isAtRest = true)

private theorem Move.pauseStep (move : Move session call turn) (awaits : Awaits run session)
    (coherent : Coherent session) (waiting : session.deadline = some ⟨due, .retry target⟩)
    (asked : call.isAsked (issuedIn run) = true)
    (early : ∀ now, call = .poll now → session.isDue now = false) :
    PauseStep session call turn ∧ attempts turn.issued = 0 := by
  have paused := coherent.phase_of_retry waiting
  cases move with
  | ignored | written | writeCompleted | writeFailed => exact ⟨.kept rfl rfl, rfl⟩
  | scanStopped | disconnecting => exact ⟨.ended rfl, rfl⟩
  | started text startable =>
      rw [paused] at startable
      cases target with
      | scan | connect | subscribe => cases startable
  | cancelled phase | adapterReady now text phase | adapterOff now text phase
  | readBegun now phase | noted now phase | readCompleted data now phase
  | readFailed reason now text phase | unlinked now text phase
  | unlinkFailed reason now text phase =>
      rw [paused] at phase
      cases target with
      | scan | connect | subscribe => cases phase
  | found now text phase | linked now text phase | subscribed now text phase =>
      have unasked := awaits.isAnswer_eq_false coherent waiting (by simp [acceptsSignal, phase])
        asked
      cases unasked
  | @gaveUp setback call now text strikes =>
      obtain ⟨-, clean, -⟩ := awaits.linkLost_of_strikes coherent waiting strikes asked
      refine ⟨.ended rfl, ?_⟩
      rw [clean]
      exact attempts_hangUp session
  | @paused setback target call now text strikes again =>
      obtain ⟨connects, clean, instant⟩ :=
        awaits.linkLost_of_strikes coherent waiting strikes asked
      rw [connects] at again
      cases again
      refine ⟨.renewed now instant strikes.uneventful.fails rfl rfl, ?_⟩
      rw [clean]
      rfl
  | rescanned text strikes lost =>
      obtain ⟨connects, -, -⟩ := awaits.linkLost_of_strikes coherent waiting strikes asked
      rw [connects] at lost
      cases lost
  | scanRetried at_ isDue | connectRetried at_ isDue | subscribeRetried at_ isDue =>
      have undue := early _ rfl
      simp [Session.isDue, at_, isDue] at undue

/-! ## The beginning of a pause -/

private theorem Strikes.unique {setback other : Setback} {instant : Nat}
    (strikes : session.Strikes setback call now) (strikesToo : session.Strikes other call instant) :
    setback = other ∧ now = instant := by
  cases strikes with
  | scanTimedOut waiting =>
      cases strikesToo with
      | scanTimedOut => exact ⟨rfl, rfl⟩
      | connectTimedOut timed =>
          rw [waiting] at timed
          cases timed
  | connectTimedOut waiting =>
      cases strikesToo with
      | scanTimedOut timed =>
          rw [waiting] at timed
          cases timed
      | connectTimedOut => exact ⟨rfl, rfl⟩
  | _ =>
      cases strikesToo
      exact ⟨rfl, rfl⟩

private theorem Strikes.instant?_eq {setback : Setback}
    (strikes : session.Strikes setback call now) :
    call.instant? = some now := by
  cases strikes with
  | _ => rfl

private theorem Move.pause_of_strikes {setback : Setback} (move : Move session call turn)
    (strikes : session.Strikes setback call now) (again : setback.retry? = some target)
    (going : turn.session.phase ≠ .faulted) :
    turn.session.deadline = some ⟨now + session.backoff.recordFailure.delay, .retry target⟩ ∧
      turn.session.backoff = session.backoff.recordFailure ∧ attempts turn.issued = 0 := by
  cases move with
  | ignored unheeded =>
      have fails := strikes.uneventful.fails
      rw [(uneventful_of_unheeded unheeded).fails] at fails
      cases fails
  | gaveUp => exact absurd rfl going
  | @paused other next call instant text strikesToo againToo =>
      obtain ⟨rfl, rfl⟩ := strikes.unique strikesToo
      rw [again] at againToo
      cases againToo
      exact ⟨rfl, rfl, attempts_cleanup setback session⟩
  | rescanned text strikesToo lost =>
      obtain ⟨rfl, rfl⟩ := strikes.unique strikesToo
      rw [again] at lost
      cases lost
  | scanRetried waiting | connectRetried waiting | subscribeRetried waiting =>
      cases strikes with
      | scanTimedOut timed | connectTimedOut timed =>
          rw [waiting] at timed
          cases timed
  | _ => cases strikes

end Moves

/-! ## The pauses of a run -/

def pauseAfter (settings : Config.Retry) (failures : Nat) : Nat :=
  (Backoff.start settings.maxConsecutiveFailures.toNat settings.baseBackoff.toNat
    settings.maxBackoff.toNat).delayAt failures

private theorem delayAt_after (session : Session) (calls : List Call) :
    (session.after calls).backoff.delayAt = session.backoff.delayAt := by
  rw [backoff_after]
  rfl

private theorem delay_after (device : Device) (settings : Config.Retry) (calls : List Call) :
    ((fresh device settings).after calls).backoff.delay =
      pauseAfter settings (failuresInRow ((fresh device settings).moments calls)) := by
  have terms := delayAt_after (fresh device settings) calls
  rw [← failures_after]
  exact congrFun terms _

/-- A session at rest stays so and issues nothing, unless it is started. -/
theorem Move.isAtRest_of_unstarted {session : Session} {call : Call} {turn : Turn}
    (move : Move session call turn) (coherent : Coherent session)
    (resting : session.isAtRest = true)
    (unstarted : call = .start → session.phase.canStart = false) :
    turn.session.isAtRest = true ∧ turn.issued = [] := by
  by_cases started : call = .start
  · have refused := unstarted started
    subst started
    cases move with
    | ignored => exact ⟨resting, rfl⟩
    | started text startable =>
        rw [refused] at startable
        cases startable
    | gaveUp text strikes | paused text strikes | rescanned text strikes => cases strikes
  · rcases move.of_isAtRest coherent resting started with rfl | ⟨phase, text, rfl⟩
    · exact ⟨resting, rfl⟩
    · exact ⟨rfl, rfl⟩

/-- How a session stands after the calls since the failure that began a pause: it has come to its
end, or it is still pausing, up to the same instant or a later one. -/
inductive Pause (first : Deadline) (least : Nat) (run : List Moment) (session : Session) : Prop
  | waiting {due : Nat} {target : RetryTarget}
      (deadline : session.deadline = some ⟨due, .retry target⟩) (late : first.due ≤ due)
      (delay : least ≤ session.backoff.delay)
      (same : (∀ moment ∈ run, moment.session.fails moment.call = false) →
        session.deadline = some first)
  | resting (resting : session.isAtRest = true)

section Runs

variable {first : Deadline} {least now : Nat} {run since : List Moment} {session : Session}
  {call : Call} {turn : Turn}

private theorem Pause.step (pause : Pause first least since session) (move : Move session call turn)
    (awaits : Awaits run session) (coherent : Coherent session) (begun : first.due = now + least)
    (asked : call.isAsked (issuedIn run) = true)
    (unstarted : call = .start → session.phase.canStart = false)
    (onward : ∀ instant, call.instant? = some instant → now ≤ instant)
    (early : ∀ instant, call = .poll instant →
      instant < first.due ∨ session.isDue instant = false) :
    Pause first least (since ++ [⟨session, call⟩]) turn.session ∧ attempts turn.issued = 0 := by
  cases pause with
  | resting resting =>
      obtain ⟨still, unissued⟩ := move.isAtRest_of_unstarted coherent resting unstarted
      refine ⟨.resting still, ?_⟩
      rw [unissued]
      rfl
  | waiting deadline late delay same =>
      have undue : ∀ instant, call = .poll instant → session.isDue instant = false := by
        intro instant polled
        rcases early instant polled with before | undue
        · simp only [isDue, deadline, decide_eq_false_iff_not]
          omega
        · exact undue
      obtain ⟨step, unissued⟩ := move.pauseStep awaits coherent deadline asked undue
      refine ⟨?_, unissued⟩
      cases step with
      | kept kept backoff =>
          refine .waiting (kept.trans deadline) late (by rw [backoff]; exact delay) ?_
          intro unbroken
          rw [kept]
          exact same fun moment member => unbroken moment (List.mem_append_left _ member)
      | renewed instant brought fails renewed backoff =>
          have longer := session.backoff.delay_le_delay_recordFailure
          have after := onward instant brought
          refine .waiting renewed (by omega) (by rw [backoff]; omega) ?_
          intro unbroken
          have unfailed := unbroken ⟨session, call⟩ (by simp)
          rw [fails] at unfailed
          cases unfailed
      | ended resting => exact .resting resting

end Runs

private theorem call_mem_of_mem_moments {session : Session} {calls : List Call} {moment : Moment}
    (member : moment ∈ session.moments calls) : moment.call ∈ calls := by
  induction calls generalizing session with
  | nil => cases member
  | cons call rest inductionHypothesis =>
      rcases List.mem_cons.mp member with rfl | member
      · exact List.mem_cons_self
      · exact List.mem_cons_of_mem _ (inductionHypothesis member)

section Runs

variable {device : Device} {settings : Config.Retry}

/-- A pause goes on as long as no poll comes at its end, or at the end of the one that has taken its
place. -/
theorem pause_after {opening later : List Call} {first : Deadline} {least now : Nat}
    (truthful : isTruthful [] ((fresh device settings).moments (opening ++ later)) = true)
    (enough : advances ((fresh device settings).moments (opening ++ later)) < UInt64.size)
    (onward : ∀ instant ∈ instants later, now ≤ instant)
    (unstarted : ∀ moment ∈ ((fresh device settings).after opening).moments later,
      moment.call = .start → moment.session.phase.canStart = false)
    (early : ∀ moment ∈ ((fresh device settings).after opening).moments later,
      ∀ instant, moment.call = .poll instant →
        instant < first.due ∨ moment.session.isDue instant = false)
    (begun : first.due = now + least)
    (pause : Pause first least [] ((fresh device settings).after opening)) :
    Pause first least (((fresh device settings).after opening).moments later)
        ((fresh device settings).after (opening ++ later)) ∧
      attempts (issuedIn (((fresh device settings).after opening).moments later)) = 0 := by
  induction later using List.reverseRecOn with
  | nil =>
      rw [List.append_nil]
      exact ⟨pause, rfl⟩
  | append_singleton later call inductionHypothesis =>
      rw [← List.append_assoc, moments_concat] at truthful enough
      rw [isTruthful_append, Bool.and_eq_true] at truthful
      rw [advances_concat] at enough
      rw [moments_concat, ← after_append, List.forall_mem_append, List.forall_mem_singleton]
        at unstarted early
      rw [instants, List.filterMap_append, List.forall_mem_append] at onward
      have soFar : advances ((fresh device settings).moments (opening ++ later)) < UInt64.size := by
        omega
      obtain ⟨before, unissued⟩ :=
        inductionHypothesis truthful.1 soFar onward.1 unstarted.1 early.1
      have asked : call.isAsked (issuedIn ((fresh device settings).moments (opening ++ later))) =
          true := by
        simpa [isTruthful] using truthful.2
      have notBefore : ∀ instant, call.instant? = some instant → now ≤ instant := by
        intro instant brought
        exact onward.2 instant (by simp [brought])
      obtain ⟨after, unissuedNow⟩ := before.step (move_turn _ call)
        (awaits_after device settings (opening ++ later) soFar)
        (coherent_after device settings (opening ++ later)) begun asked unstarted.2 notBefore
        early.2
      rw [← List.append_assoc, moments_concat, ← after_append, after_concat, issuedIn_concat,
        attempts_append, unissued, Nat.zero_add]
      exact ⟨after, unissuedNow⟩

section Failing

variable {earlier later : List Call} {call : Call} {setback : Setback} {target : RetryTarget}
  {now : Nat}

private theorem instants_onward (ordered : (instants (earlier ++ call :: later)).Pairwise (· ≤ ·))
    (brought : call.instant? = some now) : ∀ instant ∈ instants later, now ≤ instant := by
  rw [instants, List.filterMap_append, List.filterMap_cons_some brought, List.pairwise_append,
    List.pairwise_cons] at ordered
  exact ordered.2.1.1

private theorem pause_begun
    (strikes : ((fresh device settings).after earlier).Strikes setback call now)
    (again : setback.retry? = some target)
    (going : (((fresh device settings).after earlier).turn call).session.phase ≠ .faulted) :
    let pause := pauseAfter settings
      (failuresInRow ((fresh device settings).moments (earlier ++ [call])))
    Pause ⟨now + pause, .retry target⟩ pause []
        ((fresh device settings).after (earlier ++ [call])) ∧
      attempts (((fresh device settings).after earlier).turn call).issued = 0 := by
  intro pause
  have lasts := delay_after device settings (earlier ++ [call])
  rw [after_concat] at lasts ⊢
  obtain ⟨deadline, backoff, unissued⟩ :=
    (move_turn _ call).pause_of_strikes strikes again going
  rw [← backoff, lasts] at deadline
  exact ⟨.waiting deadline (Nat.le_refl _) (Nat.le_of_eq lasts.symm) fun _ => deadline, unissued⟩

/-- Whether a call polls a session at its deadline or later. -/
def Moment.isDuePoll (moment : Moment) : Bool :=
  match moment.call with
  | .poll instant => moment.session.isDue instant
  | _ => false

/-- What comes of a call that begins a pause, in the calls after it that do not start the session
anew. Until a poll comes at the end of the pause, nothing is tried. At any time before the first
poll that is due the session has ended, or its pause goes on, perhaps longer because of another
failure, and the poll that ends it tries again just what failed. -/
structure Patient (session : Session) (call : Call) (later : List Call) (target : RetryTarget)
    (finish : Nat) : Prop where
  silent : (∀ instant, .poll instant ∈ later → instant < finish) →
    attempts (issuedIn (session.moments (call :: later))) = 0
  retried : (∀ moment ∈ (session.turn call).session.moments later, moment.isDuePoll = false) →
    (session.after (call :: later)).isAtRest = true ∨
      ∃ due next, (session.after (call :: later)).deadline = some ⟨due, .retry next⟩ ∧
        finish ≤ due ∧
          (∀ instant, due ≤ instant → ((session.after (call :: later)).poll instant).issued =
            [next.attempt (session.after (call :: later))]) ∧
              ((∀ moment ∈ (session.turn call).session.moments later,
                moment.session.fails moment.call = false) →
                  (session.after (call :: later)).deadline = some ⟨finish, .retry target⟩)

/-- On a link that answers only what it was asked, every failure that is tried again is followed by
its pause, unless the session is started anew. The pauses after failures in a row never get shorter,
and never longer than the greater of their bounds. -/
theorem patient_after
    (truthful : isTruthful [] ((fresh device settings).moments (earlier ++ call :: later)) = true)
    (ordered : (instants (earlier ++ call :: later)).Pairwise (· ≤ ·))
    (enough : advances ((fresh device settings).moments (earlier ++ call :: later)) < UInt64.size)
    (strikes : ((fresh device settings).after earlier).Strikes setback call now)
    (again : setback.retry? = some target)
    (going : (((fresh device settings).after earlier).turn call).session.phase ≠ .faulted)
    (unstarted : ∀ moment ∈ (((fresh device settings).after earlier).turn call).session.moments
      later, moment.call = .start → moment.session.phase.canStart = false) :
    Patient ((fresh device settings).after earlier) call later target
        (now + pauseAfter settings
          (failuresInRow ((fresh device settings).moments (earlier ++ [call])))) ∧
      (∀ failures, pauseAfter settings failures ≤ pauseAfter settings (failures + 1)) ∧
        ∀ failures, pauseAfter settings failures ≤
          max settings.maxBackoff.toNat settings.baseBackoff.toNat := by
  have onward := instants_onward ordered strikes.instant?_eq
  obtain ⟨pause, unissued⟩ := pause_begun strikes again going
  have whole : earlier ++ call :: later = (earlier ++ [call]) ++ later := List.append_cons _ _ _
  have joined := (fresh device settings).after_append earlier (call :: later)
  rw [whole] at truthful enough joined
  rw [← after_concat] at unstarted
  refine ⟨⟨?silent, ?retried⟩, ?rising, ?bounded⟩
  case silent =>
    intro polls
    obtain ⟨-, unissuedSince⟩ := pause_after truthful enough onward unstarted
      (fun moment member instant polled =>
        Or.inl (polls instant (polled ▸ call_mem_of_mem_moments member))) rfl pause
    rw [after_concat] at unissuedSince
    rw [issuedIn_moments_cons, attempts_append, unissued, unissuedSince]
  case retried =>
    intro undue
    rw [← after_concat] at undue ⊢
    obtain ⟨pauseThen, -⟩ := pause_after truthful enough onward unstarted
      (fun moment member instant polled => Or.inr (by
        simpa [Moment.isDuePoll, polled] using undue moment member)) rfl pause
    rw [joined] at pauseThen
    cases pauseThen with
    | resting resting => exact Or.inl resting
    | waiting waiting late _ same =>
        exact Or.inr ⟨_, _, waiting, late, fun instant => poll_of_retry waiting, same⟩
  case rising =>
    intro failures
    exact Backoff.delayAt_le_delayAt _ (Nat.le_add_right failures 1)
  case bounded =>
    intro failures
    exact Backoff.delayAt_le_cap _ failures

end Failing

end Runs

def untilLinked : List Call :=
  [.start, .event ⟨1, .adapterState true⟩ 0, .event ⟨1, .deviceDiscovered "tag"⟩ 100,
    .event ⟨1, .connected⟩ 200]

/-- Calls in the pause after a failure to subscribe: an answer that comes too late, a start that
does not count, and the loss of the link, after which the pause is longer. -/
def duringPause : List Call :=
  [.event ⟨1, .subscribed⟩ 410, .start, .event ⟨2, .linkLost "gone"⟩ 450, .poll 540]

theorem patient_after_untilLinked :
    let failing : Call := .event ⟨1, .subscribeFailed "busy"⟩ 300
    let start := fresh ⟨"tag", "Tag"⟩ {}
    isTruthful [] (start.moments (untilLinked ++ failing :: duringPause)) = true ∧
      (instants (untilLinked ++ failing :: duringPause)).Pairwise (· ≤ ·) ∧
        advances (start.moments (untilLinked ++ failing :: duringPause)) < UInt64.size ∧
          (start.after untilLinked).Strikes (.subscribeFailed "busy") failing 300 ∧
            Setback.retry? (.subscribeFailed "busy") = some .subscribe ∧
              ((start.after untilLinked).turn failing).session.phase ≠ .faulted ∧
                (∀ moment ∈ ((start.after untilLinked).turn failing).session.moments duringPause,
                  moment.call = .start → moment.session.phase.canStart = false) ∧
                    Patient (start.after untilLinked) failing duringPause .subscribe 550 := by
  have truthful : isTruthful [] ((fresh ⟨"tag", "Tag"⟩ {}).moments (untilLinked ++
      .event ⟨1, .subscribeFailed "busy"⟩ 300 :: duringPause)) = true := by decide
  have ordered : (instants (untilLinked ++
      .event ⟨1, .subscribeFailed "busy"⟩ 300 :: duringPause)).Pairwise (· ≤ ·) := by decide
  have enough : advances ((fresh ⟨"tag", "Tag"⟩ {}).moments (untilLinked ++
      .event ⟨1, .subscribeFailed "busy"⟩ 300 :: duringPause)) < UInt64.size := by decide
  have strikes : ((fresh ⟨"tag", "Tag"⟩ {}).after untilLinked).Strikes (.subscribeFailed "busy")
      (.event ⟨1, .subscribeFailed "busy"⟩ 300) 300 := .subscribeFailed rfl
  have again : Setback.retry? (.subscribeFailed "busy") = some .subscribe := by decide
  have going : (((fresh ⟨"tag", "Tag"⟩ {}).after untilLinked).turn
      (.event ⟨1, .subscribeFailed "busy"⟩ 300)).session.phase ≠ .faulted := by decide
  have unstarted : ∀ moment ∈ (((fresh ⟨"tag", "Tag"⟩ {}).after untilLinked).turn
      (.event ⟨1, .subscribeFailed "busy"⟩ 300)).session.moments duringPause,
        moment.call = .start → moment.session.phase.canStart = false := by decide
  exact ⟨truthful, ordered, enough, strikes, again, going, unstarted,
    (patient_after truthful ordered enough strikes again going unstarted).1⟩

end Session

end TagFix
