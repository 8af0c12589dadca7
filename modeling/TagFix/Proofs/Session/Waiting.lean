import TagFix.Proofs.Sequence
import TagFix.Proofs.Session.Coherence
import TagFix.Proofs.Session.Epochs

/-!
# What a session waits for

Between two calls of a run a session waits for something definite: for the answer to an operation
that it issued in the current epoch, for a pause to pass, or for nothing at all. The main statement
is `waiting_after`.
-/

namespace TagFix

open Link (Epoch Operation)
open Sequence (Since)

namespace Session

/-! ## What is waited for -/

/-- An adapter check was issued in the epoch, and no adapter state of the epoch has come since. -/
def AdapterAwaited (run : List Moment) (epoch : Epoch) : Prop :=
  Since (fun moment => .checkAdapter epoch ∈ moment.turn.issued)
    (fun moment => ∀ enabled now, moment.call ≠ .event ⟨epoch, .adapterState enabled⟩ now) run

/-- A scan was started in the epoch, and none was stopped since. -/
def ScanRunning (run : List Moment) (epoch : Epoch) : Prop :=
  Since (· = .startScan epoch) (· ≠ .stopScan) (issuedIn run)

/-- What a session waits for, phase by phase. -/
def Awaits (run : List Moment) (session : Session) : Prop :=
  match session.phase with
  | .idle =>
      session.deadline = none ∧
        (session.adapterCheckPending = true ↔ AdapterAwaited run session.epoch)
  | .scanning =>
      (session.alarm? = some .scanTimeout ∧ ScanRunning run session.epoch) ∨
        (session.alarm? = some (.retry .scan) ∧ .startScan session.epoch ∉ issuedIn run)
  | .connecting =>
      (session.alarm? = some .connectTimeout ∧
          .connect session.device.id session.epoch ∈ issuedIn run) ∨
        (session.alarm? = some (.retry .connect) ∧
          ∀ device, .connect device session.epoch ∉ issuedIn run)
  | .connected => False
  | .subscribing =>
      (session.deadline = none ∧
          .startNotification session.device.id .location session.epoch ∈ issuedIn run) ∨
        (session.alarm? = some (.retry .subscribe) ∧
          ∀ device characteristic,
            .startNotification device characteristic session.epoch ∉ issuedIn run)
  | .awaitingRead =>
      session.deadline = none ∧ .read session.device.id .location session.epoch ∈ issuedIn run
  | .disconnecting =>
      session.deadline = none ∧ .disconnect session.device.id session.epoch ∈ issuedIn run
  | .subscribed | .disconnected | .faulted => session.deadline = none

/-- Whether a call hands over what there is to tell. A write only says whether it is accepted, and
an event of another epoch or a poll before the deadline returns at once. -/
def handsOver (session : Session) : Call → Bool
  | .start | .disconnect => true
  | .write .. => false
  | .event event _ => event.epoch = session.epoch
  | .poll now => session.isDue now

/-- What is left to tell after a call, where `buffer` was left before it. -/
def leave (buffer : List Output) (moment : Moment) : List Output :=
  if moment.session.handsOver moment.call then [] else buffer ++ moment.turn.outputs

/-- What a run has told but not handed over. -/
def untold (run : List Moment) : List Output :=
  run.foldl leave []

section Moves

variable {run : List Moment} {session : Session} {call : Call} {turn : Turn}

private theorem adapterAwaited_extended (made : session.turn call = turn) (epoch : Epoch) :
    AdapterAwaited (run ++ [⟨session, call⟩]) epoch ↔
      .checkAdapter epoch ∈ turn.issued ∨
        (AdapterAwaited run epoch ∧
          ∀ enabled now, call ≠ .event ⟨epoch, .adapterState enabled⟩ now) := by
  rw [AdapterAwaited, Sequence.since_concat_iff, Moment.turn, made]
  rfl

private theorem scanRunning_extended (made : session.turn call = turn) (epoch : Epoch) :
    ScanRunning (run ++ [⟨session, call⟩]) epoch ↔
      Since (· = .startScan epoch) (· ≠ .stopScan) turn.issued ∨
        (ScanRunning run epoch ∧ .stopScan ∉ turn.issued) := by
  rw [ScanRunning, issuedIn_extended made, Sequence.since_append_iff]
  simp only [ScanRunning, ne_eq, List.forall_mem_ne']

private theorem scanRunning_of_startScan (made : session.turn call = turn) {epoch : Epoch}
    (before : List Operation) (started : turn.issued = before ++ [.startScan epoch]) :
    ScanRunning (run ++ [⟨session, call⟩]) epoch := by
  rw [scanRunning_extended made]
  exact Or.inl ⟨before, _, [], started, rfl, List.forall_mem_nil _⟩

private theorem mem_issuedIn_extended (made : session.turn call = turn) {operation : Operation}
    (issued : operation ∈ turn.issued) : operation ∈ issuedIn (run ++ [⟨session, call⟩]) := by
  rw [issuedIn_extended made]
  exact List.mem_append_right _ issued

/-- A setback issues nothing of the epoch that it begins but what it goes on with. -/
theorem not_mem_issuedIn_of_cleanup {setback : Setback} (made : session.turn call = turn)
    (cleaned : turn.issued = setback.cleanup session) (past : Past run session.epoch)
    (forward : session.epoch ≤ session.epoch + 1) {operation : Operation}
    (stamped : operation.epoch? = some (session.epoch + 1)) :
    operation ∉ issuedIn (run ++ [⟨session, call⟩]) := by
  intro issued
  rw [issuedIn_extended made, List.mem_append, cleaned] at issued
  rcases issued with before | now
  · exact past.not_issued forward stamped before
  · exact ne_add_one _ (epoch_of_mem_cleanup now stamped)

/-! ## Moves that keep a session waiting -/

def isWrite : Operation → Bool
  | .write .. => true
  | _ => false

/-- A call that issues at most a write, and does not answer an adapter check that is awaited, leaves
a session waiting for the same thing. -/
theorem Awaits.extended (awaits : Awaits run session) (made : session.turn call = turn)
    (writes : ∀ operation ∈ turn.issued, isWrite operation = true)
    (unanswered : session.phase = .idle → session.adapterCheckPending = true →
      ∀ enabled now, call ≠ .event ⟨session.epoch, .adapterState enabled⟩ now) :
    Awaits (run ++ [⟨session, call⟩]) session := by
  have absent : ∀ operation, isWrite operation = false → operation ∉ turn.issued := by
    intro operation other issued
    rw [writes operation issued] at other
    cases other
  unfold Awaits at awaits ⊢
  cases phase : session.phase with
  | idle =>
      simp only [phase] at awaits ⊢
      refine ⟨awaits.1, ?_⟩
      rw [adapterAwaited_extended made, awaits.2]
      constructor
      · intro awaited
        exact Or.inr ⟨awaited, unanswered phase (awaits.2.mpr awaited)⟩
      · rintro (issued | ⟨awaited, _⟩)
        · exact absurd issued (absent _ rfl)
        · exact awaited
  | scanning =>
      simp only [phase] at awaits ⊢
      rw [scanRunning_extended made, issuedIn_extended made]
      rcases awaits with ⟨alarm, running⟩ | ⟨alarm, unscanned⟩
      · exact Or.inl ⟨alarm, Or.inr ⟨running, absent _ rfl⟩⟩
      · exact Or.inr ⟨alarm, by simpa [unscanned] using absent _ rfl⟩
  | connecting =>
      simp only [phase] at awaits ⊢
      rw [issuedIn_extended made]
      rcases awaits with ⟨alarm, connected⟩ | ⟨alarm, unconnected⟩
      · exact Or.inl ⟨alarm, List.mem_append_left _ connected⟩
      · exact Or.inr ⟨alarm, fun device => by simpa [unconnected] using absent _ rfl⟩
  | connected => simp only [phase] at awaits
  | subscribing =>
      simp only [phase] at awaits ⊢
      rw [issuedIn_extended made]
      rcases awaits with ⟨deadline, subscribed⟩ | ⟨alarm, unsubscribed⟩
      · exact Or.inl ⟨deadline, List.mem_append_left _ subscribed⟩
      · exact Or.inr ⟨alarm, fun device characteristic => by
          simpa [unsubscribed] using absent _ rfl⟩
  | awaitingRead | disconnecting =>
      simp only [phase] at awaits ⊢
      rw [issuedIn_extended made]
      exact ⟨awaits.1, List.mem_append_left _ awaits.2⟩
  | subscribed | disconnected | faulted => simpa only [phase] using awaits

private theorem not_heeds_adapterState {enabled : Bool} {now : Nat}
    (unheeded : session.heeds (.event ⟨session.epoch, .adapterState enabled⟩ now) = false)
    (phase : session.phase = .idle) : session.adapterCheckPending = false := by
  simpa [heeds, acceptsSignal, phase] using unheeded

/-! ## Moves that make a session wait for something else -/

/-- Whatever a call does, it leaves a session that waits for something definite. -/
theorem Move.awaits (move : Move session call turn) (made : session.turn call = turn)
    (coherent : Coherent session) (past : Past run session.epoch)
    (forward : session.epoch ≤ turn.session.epoch) (awaits : Awaits run session) :
    Awaits (run ++ [⟨session, call⟩]) turn.session := by
  cases move with
  | ignored unheeded =>
      refine awaits.extended made (by simp [quiet]) ?_
      rintro phase pending enabled now rfl
      rw [not_heeds_adapterState unheeded phase] at pending
      cases pending
  | started =>
      exact ⟨rfl, iff_of_true rfl
        ((adapterAwaited_extended made _).mpr (Or.inl List.mem_cons_self))⟩
  | cancelled phase => exact coherent.deadline_eq_none (by simp [phase])
  | scanStopped | subscribed | gaveUp => rfl
  | disconnecting => exact ⟨rfl, mem_issuedIn_extended made List.mem_cons_self⟩
  | written linkUp =>
      refine awaits.extended made (by simp [isWrite]) ?_
      intro phase
      simp [phase, Phase.isLinkUp] at linkUp
  | adapterReady => exact Or.inl ⟨rfl, scanRunning_of_startScan made [] rfl⟩
  | adapterOff now text phase =>
      unfold Awaits
      rw [phase]
      refine ⟨coherent.deadline_eq_none (by simp [phase]), ?_⟩
      rw [adapterAwaited_extended made]
      simp
  | found =>
      exact Or.inl ⟨rfl, mem_issuedIn_extended made (List.mem_cons_of_mem _ List.mem_cons_self)⟩
  | linked => exact Or.inl ⟨rfl, mem_issuedIn_extended made List.mem_cons_self⟩
  | readBegun now phase =>
      exact ⟨coherent.deadline_eq_none (by simp [phase]),
        mem_issuedIn_extended made List.mem_cons_self⟩
  | noted now phase =>
      refine awaits.extended made (List.forall_mem_nil _) ?_
      intro idle
      simp [phase] at idle
  | readCompleted data now phase | readFailed reason now text phase =>
      have deadline := coherent.deadline_eq_none (by simp [phase])
      cases pending : session.notificationPending with
      | false => simpa [Awaits, pending] using deadline
      | true =>
          simp only [Awaits, if_true]
          exact ⟨deadline, mem_issuedIn_extended made (by simp [nextRead, pending])⟩
  | writeCompleted now inFlight | writeFailed reason now inFlight =>
      have linkUp := coherent.linkUp_of_write inFlight
      refine awaits.extended made (List.forall_mem_nil _) ?_
      intro idle
      simp [idle, Phase.isLinkUp] at linkUp
  | unlinked now text phase | unlinkFailed reason now text phase =>
      exact coherent.deadline_eq_none (by simp [phase])
  | @paused setback target =>
      have fresh : ∀ {operation : Operation}, operation.epoch? = some (session.epoch + 1) →
          operation ∉ issuedIn (run ++ [⟨session, call⟩]) :=
        not_mem_issuedIn_of_cleanup made rfl past forward
      cases target with
      | scan => exact Or.inr ⟨rfl, fresh rfl⟩
      | connect => exact Or.inr ⟨rfl, fun device => fresh rfl⟩
      | subscribe => exact Or.inr ⟨rfl, fun device characteristic => fresh rfl⟩
  | @rescanned setback =>
      exact Or.inl ⟨rfl, scanRunning_of_startScan made
        (setback.cleanup session ++ setback.hangUp session) rfl⟩
  | scanRetried waiting =>
      rw [Awaits, coherent.phase_of_retry waiting]
      exact Or.inl ⟨rfl, scanRunning_of_startScan made [] rfl⟩
  | connectRetried waiting | subscribeRetried waiting =>
      rw [Awaits, coherent.phase_of_retry waiting]
      exact Or.inl ⟨rfl, mem_issuedIn_extended made List.mem_cons_self⟩

/-! ## What is left to tell -/

private theorem Strikes.handsOver {setback : Setback} {now : Nat}
    (strikes : session.Strikes setback call now) : session.handsOver call = true := by
  cases strikes with
  | scanFailed | connectFailed | subscribeFailed | linkLost => simp [Session.handsOver]
  | scanTimedOut waiting isDue | connectTimedOut waiting isDue =>
      simp [Session.handsOver, Session.isDue, waiting, isDue]

/-- A call that hands nothing over has nothing to tell. -/
theorem Move.outputs_eq_nil (move : Move session call turn)
    (kept : session.handsOver call = false) : turn.outputs = [] := by
  cases move with
  | ignored | written | noted | scanRetried | connectRetried | subscribeRetried => rfl
  | gaveUp text strikes | paused text strikes | rescanned text strikes =>
      rw [strikes.handsOver] at kept
      cases kept
  | _ => simp [handsOver] at kept

end Moves

/-- Whatever a call has to tell, it hands over itself. -/
theorem untold_eq_nil (session : Session) (calls : List Call) :
    untold (session.moments calls) = [] := by
  induction calls using List.reverseRecOn with
  | nil => rfl
  | append_singleton calls call inductionHypothesis =>
      rw [moments_concat, untold, List.foldl_append, ← untold, inductionHypothesis,
        List.foldl_cons, List.foldl_nil, leave]
      split
      · rfl
      · next kept =>
          exact (move_turn _ call).outputs_eq_nil (Bool.not_eq_true _ ▸ kept)

/-! ## Runs -/

section Runs

variable (device : Device) (settings : Config.Retry) (calls : List Call)

/-- What a session waits for was issued in its epoch and is not answered yet. -/
theorem awaits_after
    (enough : advances ((fresh device settings).moments calls) < UInt64.size) :
    Awaits ((fresh device settings).moments calls) ((fresh device settings).after calls) := by
  induction calls using List.reverseRecOn with
  | nil =>
      refine ⟨rfl, ?_⟩
      simp [fresh, AdapterAwaited]
  | append_singleton calls call inductionHypothesis =>
      have forward := epoch_le_of_advances rfl enough
      rw [moments_concat, advances_concat] at enough
      have soFar : advances ((fresh device settings).moments calls) < UInt64.size := by omega
      have past := past_after rfl calls soFar
      have coherent := coherent_after device settings calls
      rw [moments_concat, after_concat]
      exact (move_turn _ call).awaits rfl coherent past forward (inductionHypothesis soFar)

/-- How a session of a run stands between two calls. -/
structure Waiting (run : List Moment) (session : Session) : Prop where
  phase_ne_connected : session.phase ≠ .connected
  idle_of_adapterCheck : session.adapterCheckPending = true → session.phase = .idle
  reading_of_notification : session.notificationPending = true → session.phase = .awaitingRead
  linkUp_of_write : session.writeInFlight = true → session.phase.isLinkUp = true
  told : untold run = []
  awaits : Awaits run session

/-- Between any two calls of any run a session waits for something definite, with flags that fit
its phase and nothing left to tell, as long as the epochs have not run out. -/
theorem waiting_after
    (enough : advances ((fresh device settings).moments calls) < UInt64.size) :
    Waiting ((fresh device settings).moments calls) ((fresh device settings).after calls) :=
  have coherent := coherent_after device settings calls
  { phase_ne_connected := coherent.phase_ne_connected
    idle_of_adapterCheck := coherent.idle_of_adapterCheck
    reading_of_notification := coherent.reading_of_notification
    linkUp_of_write := coherent.linkUp_of_write
    told := untold_eq_nil _ calls
    awaits := awaits_after device settings calls enough }

end Runs

/-- A run in which a scan fails and is tried again, and the link is lost during a read. -/
def lossOfLink : List Call :=
  [.start, .event ⟨1, .adapterState true⟩ 0, .event ⟨1, .scanFailed "radio busy"⟩ 10, .poll 260,
    .event ⟨2, .deviceDiscovered "tag"⟩ 300, .event ⟨2, .connected⟩ 400,
    .event ⟨2, .subscribed⟩ 500, .event ⟨2, .notification⟩ 600, .event ⟨2, .linkLost "gone"⟩ 700]

theorem waiting_after_lossOfLink :
    advances ((fresh ⟨"tag", "Tag"⟩ {}).moments lossOfLink) < UInt64.size ∧
      Waiting ((fresh ⟨"tag", "Tag"⟩ {}).moments lossOfLink)
        ((fresh ⟨"tag", "Tag"⟩ {}).after lossOfLink) :=
  have enough : advances ((fresh ⟨"tag", "Tag"⟩ {}).moments lossOfLink) < UInt64.size := by decide
  ⟨enough, waiting_after _ _ _ enough⟩

end Session

end TagFix
