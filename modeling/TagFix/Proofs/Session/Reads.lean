import TagFix.Proofs.Session.Epochs
import TagFix.Proofs.Session.Meaning
import Mathlib.Data.List.DropRight

/-!
# Notifications and reads

Every notification is followed by a read, and there is never more than one read at a time: those
that come while one is outstanding are answered together by the next. The main statement is
`reading_after`.
-/

namespace TagFix

open Link (Operation)

namespace Session

/-! ## Reads -/

def isRead : Operation → Bool
  | .read .. => true
  | _ => false

def reads (operations : List Operation) : Nat :=
  operations.countP isRead

def readNow (session : Session) : Operation :=
  .read session.device.id .location session.epoch

/-- What a call means for the read that is outstanding. -/
inductive ReadStep (session : Session) (call : Call) (turn : Turn) : Prop
  | begun (phase : session.phase = .subscribed) (hears : session.hearsNews call = true)
      (ends : session.endsRead call = false) (kept : turn.session.epoch = session.epoch)
      (issued : turn.issued = [session.readNow]) (after : turn.session.phase = .awaitingRead)
      (pending : turn.session.notificationPending = session.notificationPending)
  | noted (phase : session.phase = .awaitingRead) (hears : session.hearsNews call = true)
      (ends : session.endsRead call = false) (kept : turn.session.epoch = session.epoch)
      (issued : turn.issued = []) (after : turn.session.phase = .awaitingRead)
      (pending : turn.session.notificationPending = true)
  | ended (phase : session.phase = .awaitingRead) (hears : session.hearsNews call = false)
      (ends : session.endsRead call = true) (kept : turn.session.epoch = session.epoch)
      (issued : turn.issued = if session.notificationPending then [session.readNow] else [])
      (after : turn.session.phase =
        if session.notificationPending then .awaitingRead else .subscribed)
      (pending : turn.session.notificationPending = false)
  | other (hears : session.hearsNews call = false) (ends : session.endsRead call = false)
      (kept : turn.session.epoch = session.epoch) (issued : reads turn.issued = 0)
      (same : turn.session.phase = .awaitingRead ↔ session.phase = .awaitingRead)
      (pending : turn.session.notificationPending = session.notificationPending)
  | left (ends : session.endsRead call = false) (advanced : turn.session.epoch ≠ session.epoch)
      (issued : reads turn.issued = 0) (gone : turn.session.phase ≠ .awaitingRead)

section Moves

variable {session : Session} {call : Call} {turn : Turn}

theorem reads_append (earlier later : List Operation) :
    reads (earlier ++ later) = reads earlier + reads later :=
  List.countP_append

private theorem reads_cleanup (setback : Setback) (session : Session) :
    reads (setback.cleanup session) = 0 := by
  cases setback with
  | _ => rfl

private theorem reads_hangUp (session : Session) : reads session.hangUp = 0 := by
  unfold hangUp
  split
  · rfl
  · rfl

private theorem reads_setback_hangUp (setback : Setback) (session : Session) :
    reads (setback.hangUp session) = 0 := by
  cases setback with
  | scanTimedOut => rfl
  | _ => exact reads_hangUp session

private theorem Move.readStep (move : Move session call turn) : ReadStep session call turn := by
  have advanced := ne_add_one session.epoch
  cases move with
  | ignored unheeded =>
      have uneventful := uneventful_of_unheeded unheeded
      exact .other uneventful.hearsNews uneventful.endsRead rfl rfl .rfl rfl
  | readBegun now phase =>
      exact .begun phase (by simp [hearsNews, phase]) rfl rfl rfl rfl rfl
  | noted now phase => exact .noted phase (by simp [hearsNews, phase]) rfl rfl rfl phase rfl
  | readCompleted data now phase | readFailed reason now text phase =>
      exact .ended phase rfl (by simp [endsRead, phase]) rfl rfl rfl rfl
  | written | writeCompleted | writeFailed | adapterOff | scanRetried | connectRetried
  | subscribeRetried => exact .other rfl rfl rfl rfl .rfl rfl
  | adapterReady now text phase | found now text phase | linked now text phase
  | subscribed now text phase | unlinked now text phase | unlinkFailed reason now text phase =>
      exact .other rfl rfl rfl rfl (by simp [phase]) rfl
  | started | cancelled | scanStopped | disconnecting =>
      exact .left rfl advanced rfl nofun
  | gaveUp text strikes =>
      exact .left strikes.uneventful.endsRead advanced
        (by rw [reads_append, reads_cleanup, reads_hangUp]) nofun
  | @paused setback target call now text strikes =>
      refine .left strikes.uneventful.endsRead advanced (reads_cleanup setback session) ?_
      cases target with
      | scan | connect | subscribe => exact nofun
  | rescanned text strikes =>
      refine .left strikes.uneventful.endsRead advanced ?_ nofun
      rw [reads_append, reads_append, reads_cleanup, reads_setback_hangUp]
      rfl

end Moves

/-! ## What a run keeps -/

/-- The moments of a run since its epoch last advanced. -/
def sinceAdvance (run : List Moment) : List Moment :=
  run.rtakeWhile fun moment => moment.turn.session.epoch = moment.session.epoch

def endedReads (run : List Moment) : Nat :=
  run.countP fun moment => moment.session.endsRead moment.call

/-- How many notifications have reached the session in the moments of a run. -/
def news (run : List Moment) : Nat :=
  run.countP fun moment => moment.session.hearsNews moment.call

/-- How many notifications of the epoch have come since its last read was issued. -/
def unreadNews (run : List Moment) : Nat :=
  news ((sinceAdvance run).rtakeWhile fun moment => reads moment.turn.issued = 0)

/-- How the reads and the notifications of the epoch add up. -/
structure Tracked (run : List Moment) (session : Session) : Prop where
  balance : reads (issuedIn (sinceAdvance run)) =
    endedReads (sinceAdvance run) + if session.phase = .awaitingRead then 1 else 0
  caused : reads (issuedIn (sinceAdvance run)) + (if session.notificationPending then 1 else 0) ≤
    news (sinceAdvance run)
  pending_iff : session.notificationPending = true ↔ 0 < unreadNews run

section Moves

variable {run : List Moment} {session : Session} {call : Call} {turn : Turn}

private theorem sinceAdvance_kept (made : session.turn call = turn)
    (kept : turn.session.epoch = session.epoch) :
    sinceAdvance (run ++ [⟨session, call⟩]) = sinceAdvance run ++ [⟨session, call⟩] :=
  List.rtakeWhile_concat_pos _ _ _ (by simpa [Moment.turn, made] using kept)

private theorem sinceAdvance_advanced (made : session.turn call = turn)
    (advanced : turn.session.epoch ≠ session.epoch) :
    sinceAdvance (run ++ [⟨session, call⟩]) = [] :=
  List.rtakeWhile_concat_neg _ _ _ (by simpa [Moment.turn, made] using advanced)

theorem endedReads_concat (run : List Moment) (moment : Moment) :
    endedReads (run ++ [moment]) =
      endedReads run + if moment.session.endsRead moment.call then 1 else 0 := by
  simp [endedReads, List.countP_append, List.countP_singleton]

theorem news_concat (run : List Moment) (moment : Moment) :
    news (run ++ [moment]) =
      news run + if moment.session.hearsNews moment.call then 1 else 0 := by
  simp [news, List.countP_append, List.countP_singleton]

private theorem reads_extended (made : session.turn call = turn) (run : List Moment) :
    reads (issuedIn (run ++ [⟨session, call⟩])) = reads (issuedIn run) + reads turn.issued := by
  rw [issuedIn_extended made, reads_append]

/-- A call without a read leaves what is unread and adds what it hears. -/
theorem unreadNews_of_unread (made : session.turn call = turn)
    (kept : turn.session.epoch = session.epoch) (issued : reads turn.issued = 0) :
    unreadNews (run ++ [⟨session, call⟩]) =
      unreadNews run + if session.hearsNews call then 1 else 0 := by
  rw [unreadNews, sinceAdvance_kept made kept,
    List.rtakeWhile_concat_pos _ _ _ (by simpa [Moment.turn, made] using issued), news_concat]
  rfl

/-- A read leaves nothing unread. -/
theorem unreadNews_of_read (made : session.turn call = turn)
    (kept : turn.session.epoch = session.epoch) (issued : turn.issued = [session.readNow]) :
    unreadNews (run ++ [⟨session, call⟩]) = 0 := by
  have one : reads turn.issued = 1 := by rw [issued]; rfl
  rw [unreadNews, sinceAdvance_kept made kept,
    List.rtakeWhile_concat_neg _ _ _ (by simp [Moment.turn, made, one])]
  rfl

/-- A call that keeps the epoch adds its reads, its outcome and its news to those so far. -/
theorem tracked_of_kept (made : session.turn call = turn)
    (kept : turn.session.epoch = session.epoch)
    (balance : reads (issuedIn (sinceAdvance run)) + reads turn.issued =
      endedReads (sinceAdvance run) + (if session.endsRead call then 1 else 0) +
        if turn.session.phase = .awaitingRead then 1 else 0)
    (caused : reads (issuedIn (sinceAdvance run)) + reads turn.issued +
      (if turn.session.notificationPending then 1 else 0) ≤
        news (sinceAdvance run) + if session.hearsNews call then 1 else 0)
    (pendingIff : turn.session.notificationPending = true ↔
      0 < unreadNews (run ++ [⟨session, call⟩])) :
    Tracked (run ++ [⟨session, call⟩]) turn.session := by
  refine ⟨?_, ?_, pendingIff⟩
  · rw [sinceAdvance_kept made kept, reads_extended made, endedReads_concat]
    exact balance
  · rw [sinceAdvance_kept made kept, reads_extended made, news_concat]
    exact caused

private theorem tracked_of_advanced (made : session.turn call = turn)
    (advanced : turn.session.epoch ≠ session.epoch) (gone : turn.session.phase ≠ .awaitingRead)
    (coherentThen : Coherent turn.session) :
    Tracked (run ++ [⟨session, call⟩]) turn.session := by
  have empty : sinceAdvance (run ++ [⟨session, call⟩]) = [] := sinceAdvance_advanced made advanced
  have none := coherentThen.notification_eq_false gone
  constructor
  · rw [empty, if_neg gone]
    rfl
  · rw [empty, none]
    exact Nat.le_refl _
  · rw [unreadNews, empty, none]
    simp [news]

private theorem reads_readNow (session : Session) : reads [session.readNow] = 1 := rfl

private theorem Tracked.extended (tracked : Tracked run session) (step : ReadStep session call turn)
    (made : session.turn call = turn) (coherent : Coherent session)
    (coherentThen : Coherent turn.session) :
    Tracked (run ++ [⟨session, call⟩]) turn.session := by
  have balance := tracked.balance
  have caused := tracked.caused
  have pendingIff := tracked.pending_iff
  cases step with
  | begun phase hears ends kept issued after pending =>
      have none := coherent.notification_eq_false (by simp [phase])
      rw [none] at pending caused
      refine tracked_of_kept made kept ?_ ?_ ?_
      · simp [balance, phase, after, ends, issued, reads_readNow]
      · simpa [hears, pending, issued, reads_readNow] using caused
      · simp [unreadNews_of_read made kept issued, pending]
  | noted phase hears ends kept issued after pending =>
      have zero : reads turn.issued = 0 := by rw [issued]; rfl
      refine tracked_of_kept made kept ?_ ?_ ?_
      · simp [balance, phase, after, ends, zero]
      · simp only [hears, pending, zero, if_true]
        omega
      · simp [unreadNews_of_unread made kept zero, pending, hears]
  | ended phase hears ends kept issued after pending =>
      cases waiting : session.notificationPending with
      | false =>
          rw [waiting] at issued after caused pendingIff
          have zero : reads turn.issued = 0 := by rw [issued]; rfl
          refine tracked_of_kept made kept ?_ ?_ ?_
          · simp [balance, phase, after, ends, zero]
          · simpa [pending, hears, zero] using caused
          · simpa [unreadNews_of_unread made kept zero, pending, hears] using pendingIff
      | true =>
          rw [waiting] at issued after caused
          refine tracked_of_kept made kept ?_ ?_ ?_
          · simp [balance, phase, after, ends, issued, reads_readNow]
          · simpa [pending, hears, issued, reads_readNow] using caused
          · simp [unreadNews_of_read made kept issued, pending]
  | other hears ends kept issued same pending =>
      refine tracked_of_kept made kept ?_ ?_ ?_
      · simpa [same, ends, issued] using balance
      · simpa [pending, hears, issued] using caused
      · simpa [unreadNews_of_unread made kept issued, pending, hears] using pendingIff
  | left ends advanced issued gone => exact tracked_of_advanced made advanced gone coherentThen

end Moves

/-! ## Runs -/

/-- What comes at the end and never fails the test is all taken. -/
theorem rtakeWhile_append_of_forall {α : Type} {test : α → Bool} (earlier : List α)
    {later : List α} (passed : ∀ entry ∈ later, test entry = true) :
    (earlier ++ later).rtakeWhile test = earlier.rtakeWhile test ++ later := by
  induction later using List.reverseRecOn with
  | nil => simp
  | append_singleton later entry inductionHypothesis =>
      rw [List.forall_mem_append, List.forall_mem_singleton] at passed
      rw [← List.append_assoc, List.rtakeWhile_concat_pos _ _ _ passed.2,
        inductionHypothesis passed.1, List.append_assoc]

/-- With nothing unread, a read was issued with or after every notification of the epoch. -/
theorem read_of_unreadNews_eq_zero {run earlier later : List Moment} {moment : Moment}
    (unread : unreadNews run = 0) (split : sinceAdvance run = earlier ++ moment :: later)
    (hears : moment.session.hearsNews moment.call = true) :
    0 < reads (issuedIn (moment :: later)) := by
  by_contra none
  have quiet : ∀ entry ∈ moment :: later, reads entry.turn.issued = 0 := by
    intro entry member
    have zero : reads (issuedIn (moment :: later)) = 0 := Nat.eq_zero_of_not_pos none
    rw [reads, List.countP_eq_zero] at zero ⊢
    intro operation issued
    exact zero operation (List.mem_flatMap.mpr ⟨entry, member, issued⟩)
  rw [unreadNews, split, rtakeWhile_append_of_forall earlier (by simpa using quiet), news,
    List.countP_eq_zero] at unread
  exact unread moment (List.mem_append_right _ List.mem_cons_self) hears

section Runs

variable (device : Device) (settings : Config.Retry) (calls : List Call)

private theorem tracked_after :
    Tracked ((fresh device settings).moments calls) ((fresh device settings).after calls) := by
  induction calls using List.reverseRecOn with
  | nil => exact ⟨rfl, Nat.le_refl _, by simp [fresh, unreadNews, sinceAdvance, news]⟩
  | append_singleton calls call inductionHypothesis =>
      have coherent := coherent_after device settings calls
      have move := move_turn ((fresh device settings).after calls) call
      rw [moments_concat, after_concat]
      exact inductionHypothesis.extended move.readStep rfl coherent (move.coherent coherent)

/-- How a session of a run stands with its reads, and what the next call does about them. -/
structure Reading (run : List Moment) (session : Session) : Prop where
  balance : reads (issuedIn (sinceAdvance run)) =
    endedReads (sinceAdvance run) + if session.phase = .awaitingRead then 1 else 0
  caused : reads (issuedIn (sinceAdvance run)) ≤ news (sinceAdvance run)
  pending_iff : session.phase = .awaitingRead →
    (session.notificationPending = true ↔ 0 < unreadNews run)
  answered : session.phase = .subscribed → ∀ earlier moment later,
    sinceAdvance run = earlier ++ moment :: later →
      moment.session.hearsNews moment.call = true → 0 < reads (issuedIn (moment :: later))
  single : ∀ call, reads (session.turn call).issued ≤ 1 ∧
    (0 < reads (session.turn call).issued →
      (session.turn call).session.epoch = session.epoch ∧
        ((session.phase = .subscribed ∧ session.hearsNews call = true) ∨
          session.endsRead call = true))
  followUp : ∀ call, session.endsRead call = true →
    (session.turn call).issued = if 0 < unreadNews run then [session.readNow] else []
  dropped : ∀ call, session.phase = .awaitingRead → session.endsRead call = false →
    (session.turn call).session.phase ≠ .awaitingRead →
      (session.turn call).session.epoch ≠ session.epoch ∧
        reads (session.turn call).issued = 0 ∧
          (session.turn call).session.notificationPending = false

/-- In every epoch of every run there is one read more than have ended while one is awaited, and
none otherwise. The notifications that came meanwhile, however many, are answered by one read when
it ends, well or not, and are forgotten when the epoch does. -/
theorem reading_after :
    Reading ((fresh device settings).moments calls) ((fresh device settings).after calls) := by
  have tracked := tracked_after device settings calls
  have coherent := coherent_after device settings calls
  generalize (fresh device settings).moments calls = run at tracked
  generalize (fresh device settings).after calls = session at tracked coherent
  constructor
  case balance => exact tracked.balance
  case caused => exact Nat.le_of_add_right_le tracked.caused
  case pending_iff =>
    intro _
    exact tracked.pending_iff
  case answered =>
    intro phase earlier moment later split hears
    have none := coherent.notification_eq_false (by simp [phase])
    refine read_of_unreadNews_eq_zero (Nat.eq_zero_of_not_pos ?_) split hears
    rw [← tracked.pending_iff, none]
    exact Bool.false_ne_true
  case single =>
    intro call
    cases (move_turn session call).readStep with
    | begun phase hears ends kept issued =>
        rw [issued]
        exact ⟨Nat.le_refl _, fun _ => ⟨kept, Or.inl ⟨phase, hears⟩⟩⟩
    | noted phase hears ends kept issued => rw [issued]; exact ⟨Nat.zero_le _, nofun⟩
    | ended phase hears ends kept issued =>
        rw [issued]
        refine ⟨?_, fun _ => ⟨kept, Or.inr ends⟩⟩
        cases session.notificationPending with
        | false => exact Nat.zero_le _
        | true => exact Nat.le_refl _
    | other hears ends kept issued | left ends advanced issued =>
        rw [issued]
        exact ⟨Nat.zero_le _, nofun⟩
  case followUp =>
    intro call ends
    cases (move_turn session call).readStep with
    | ended phase hears _ kept issued => rw [issued, if_congr tracked.pending_iff rfl rfl]
    | begun _ _ unended | noted _ _ unended | other _ unended | left unended =>
        rw [unended] at ends
        cases ends
  case dropped =>
    intro call phase unended gone
    cases (move_turn session call).readStep with
    | begun _ _ _ _ _ after | noted _ _ _ _ _ after => exact absurd after gone
    | ended _ _ ends =>
        rw [ends] at unended
        cases unended
    | other _ _ _ _ same => exact absurd (same.mpr phase) gone
    | left _ advanced issued =>
        exact ⟨advanced, issued,
          ((move_turn session call).coherent coherent).notification_eq_false gone⟩

end Runs

def crowdedRead : List Call :=
  [.start, .event ⟨1, .adapterState true⟩ 0, .event ⟨1, .deviceDiscovered "tag"⟩ 100,
    .event ⟨1, .connected⟩ 200, .event ⟨1, .subscribed⟩ 300, .event ⟨1, .notification⟩ 400,
    .event ⟨1, .notification⟩ 410, .event ⟨1, .notification⟩ 420, .event ⟨1, .notification⟩ 430,
    .event ⟨1, .readFailed "timeout"⟩ 500]

example : news (sinceAdvance ((fresh ⟨"tag", "Tag"⟩ {}).moments crowdedRead)) = 4 ∧
    reads (issuedIn (sinceAdvance ((fresh ⟨"tag", "Tag"⟩ {}).moments crowdedRead))) = 2 := by
  decide

end Session

end TagFix
