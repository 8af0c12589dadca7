import TagFix.Proofs.Session.Coherence

/-!
# The lifecycle of a session

A session tells of every change of its phase. The changes of a run follow one another without a gap,
and each of them is one that the lifecycle has.
-/

namespace TagFix.Session

/-! ## Changes of phase -/

/-- The phases that may follow a phase at once. -/
def Phase.successors : Phase → List Phase
  | .idle => [.scanning, .disconnected]
  | .scanning => [.scanning, .connecting, .disconnected, .faulted]
  | .connecting => [.connecting, .connected, .scanning, .disconnecting, .faulted]
  | .connected => [.subscribing]
  | .subscribing => [.subscribing, .subscribed, .scanning, .connecting, .disconnecting, .faulted]
  | .subscribed => [.awaitingRead, .connecting, .disconnecting, .faulted]
  | .awaitingRead => [.subscribed, .connecting, .disconnecting, .faulted]
  | .disconnecting => [.disconnected]
  | .disconnected | .faulted => [.idle]

structure Change where
  before : Phase
  after : Phase
deriving DecidableEq, Repr

def Change.Legal (change : Change) : Prop :=
  change.after ∈ change.before.successors

def Output.change? : Output → Option Change
  | .phaseChanged before after => some ⟨before, after⟩
  | _ => none

def changes (outputs : List Output) : List Change :=
  outputs.filterMap Output.change?

/-- Whether changes lead from one phase to another: each of them begins where the one before it has
ended. -/
def Connects : Phase → List Change → Phase → Prop
  | start, [], finish => finish = start
  | start, change :: rest, finish => change.before = start ∧ Connects change.after rest finish

private theorem connects_append_iff {start finish : Phase} (earlier later : List Change) :
    Connects start (earlier ++ later) finish ↔
      ∃ between, Connects start earlier between ∧ Connects between later finish := by
  induction earlier generalizing start with
  | nil => simp [Connects]
  | cons change rest inductionHypothesis =>
      simp only [List.cons_append, Connects, inductionHypothesis, and_assoc, exists_and_left]

/-- A phase that has one successor is followed by it, unless nothing follows. -/
theorem Connects.eq_cons_of_successors {between finish next : Phase} {later : List Change}
    (connects : Connects between later finish) (legal : ∀ change ∈ later, change.Legal)
    (only : between.successors = [next]) (gone : finish ≠ between) :
    ∃ rest, later = ⟨between, next⟩ :: rest := by
  cases later with
  | nil => exact absurd connects gone
  | cons change rest =>
      obtain ⟨before, after⟩ := change
      obtain ⟨rfl, _⟩ := connects
      have follows : after ∈ before.successors := legal _ List.mem_cons_self
      rw [only, List.mem_singleton] at follows
      exact ⟨rest, by rw [follows]⟩

/-! ## Where setbacks strike -/

def Setback.phases : Setback → List Phase
  | .scanFailed _ | .scanTimedOut => [.scanning]
  | .connectFailed _ | .connectTimedOut => [.connecting]
  | .subscribeFailed _ => [.subscribing]
  | .linkLost _ => [.subscribing, .subscribed, .awaitingRead]

private theorem idle_mem_successors {phase : Phase} (startable : phase.canStart = true)
    (started : phase ≠ .idle) : .idle ∈ phase.successors := by
  cases phase with
  | idle => exact absurd rfl started
  | disconnected | faulted => exact List.mem_cons_self
  | _ => cases startable

private theorem disconnecting_mem_successors {phase : Phase} (linking : phase.isLinking = true)
    (unconnected : phase ≠ .connected) : .disconnecting ∈ phase.successors := by
  cases phase with
  | connecting | subscribing | subscribed | awaitingRead => decide
  | connected => exact absurd rfl unconnected
  | _ => cases linking

section Moves

variable {session : Session} {call : Call} {turn : Turn}

/-- A setback strikes in one of its phases only. -/
theorem Strikes.phase_mem {setback : Setback} {now : Nat}
    (strikes : session.Strikes setback call now) (coherent : Coherent session) :
    session.phase ∈ setback.phases := by
  cases strikes with
  | scanFailed phase | connectFailed phase | subscribeFailed phase =>
      simp [Setback.phases, phase]
  | scanTimedOut waiting => simp [Setback.phases, coherent.scanning_of_scanTimeout waiting]
  | connectTimedOut waiting => simp [Setback.phases, coherent.connecting_of_connectTimeout waiting]
  | linkLost linkUp =>
      cases phase : session.phase with
      | connected => exact absurd phase coherent.phase_ne_connected
      | subscribing | subscribed | awaitingRead => simp [Setback.phases]
      | _ =>
          rw [phase] at linkUp
          cases linkUp

/-- A setback strikes where the session tries to have a link, or uses it. -/
theorem mem_of_mem_phases {setback : Setback} {phase : Phase} (struck : phase ∈ setback.phases) :
    phase ∈ [.scanning, .connecting, .subscribing, .subscribed, .awaitingRead] := by
  cases setback with
  | linkLost => exact List.mem_cons_of_mem _ (List.mem_cons_of_mem _ struck)
  | _ =>
      rw [List.mem_singleton.mp struck]
      decide

private theorem faulted_mem_successors {setback : Setback} {phase : Phase}
    (struck : phase ∈ setback.phases) : .faulted ∈ phase.successors := by
  have ends : ∀ phase ∈ [Phase.scanning, .connecting, .subscribing, .subscribed, .awaitingRead],
      .faulted ∈ phase.successors := by
    decide
  exact ends phase (mem_of_mem_phases struck)

private theorem retry_mem_successors {setback : Setback} {target : RetryTarget} {phase : Phase}
    (struck : phase ∈ setback.phases) (again : setback.retry? = some target) :
    target.phase ∈ phase.successors := by
  cases setback with
  | scanTimedOut => cases again
  | scanFailed | connectTimedOut =>
      cases again
      rw [List.mem_singleton.mp struck]
      decide
  | connectFailed | subscribeFailed =>
      rw [List.mem_singleton.mp struck]
      rw [Setback.retry?] at again
      split at again
      · cases again
        decide
      · cases again
  | linkLost =>
      have relinks : ∀ phase ∈ [Phase.subscribing, .subscribed, .awaitingRead],
          .connecting ∈ phase.successors := by
        decide
      cases again
      exact relinks phase struck

private theorem scanning_mem_successors {setback : Setback} {phase : Phase}
    (struck : phase ∈ setback.phases) (lost : setback.retry? = none) :
    .scanning ∈ phase.successors := by
  cases setback with
  | scanFailed | connectTimedOut | linkLost => cases lost
  | scanTimedOut | connectFailed | subscribeFailed =>
      rw [List.mem_singleton.mp struck]
      decide

/-! ## Changes of a move -/

theorem changes_append (earlier later : List Output) :
    changes (earlier ++ later) = changes earlier ++ changes later :=
  List.filterMap_append

@[simp]
theorem changes_supersession (session : Session) : changes session.supersession = [] := by
  unfold supersession
  split
  · rfl
  · rfl

private theorem Move.connects (move : Move session call turn) :
    Connects session.phase (changes turn.outputs) turn.session.phase := by
  cases move with
  | ignored | written | adapterOff | noted | writeCompleted | writeFailed | scanRetried
  | connectRetried | subscribeRetried => rfl
  | started text startable =>
      rw [changes_append, changes_append, changes_supersession]
      by_cases phase : session.phase = .idle
      · rw [if_pos phase, phase]
        rfl
      · rw [if_neg phase]
        exact ⟨rfl, rfl⟩
  | cancelled phase | scanStopped text phase =>
      rw [changes_append, changes_supersession]
      exact ⟨phase.symm, rfl⟩
  | disconnecting | gaveUp | paused | rescanned =>
      rw [changes_append, changes_supersession]
      exact ⟨rfl, rfl⟩
  | adapterReady now text phase | found now text phase | subscribed now text phase
  | readBegun now phase | unlinked now text phase | unlinkFailed reason now text phase =>
      exact ⟨phase.symm, rfl⟩
  | linked now text phase => exact ⟨phase.symm, rfl, rfl⟩
  | readCompleted data now phase | readFailed reason now text phase =>
      rw [phase]
      cases session.notificationPending
      · exact ⟨rfl, rfl⟩
      · exact ⟨rfl, rfl, rfl⟩

private theorem Move.legal (move : Move session call turn) (coherent : Coherent session) :
    ∀ change ∈ changes turn.outputs, change.Legal := by
  cases move with
  | ignored | written | adapterOff | noted | writeCompleted | writeFailed | scanRetried
  | connectRetried | subscribeRetried => exact List.forall_mem_nil _
  | started text startable =>
      rw [changes_append, changes_append, changes_supersession]
      by_cases idle : session.phase = .idle
      · rw [if_pos idle]
        exact List.forall_mem_nil _
      · rw [if_neg idle]
        exact List.forall_mem_singleton.mpr (idle_mem_successors startable idle)
  | cancelled phase | scanStopped text phase =>
      rw [changes_append, changes_supersession]
      exact List.forall_mem_singleton.mpr (by simp [Change.Legal, Phase.successors])
  | disconnecting text linking =>
      rw [changes_append, changes_supersession]
      exact List.forall_mem_singleton.mpr
        (disconnecting_mem_successors linking coherent.phase_ne_connected)
  | adapterReady | found | subscribed | readBegun | unlinked | unlinkFailed =>
      exact List.forall_mem_singleton.mpr (by simp [Change.Legal, Phase.successors])
  | linked => simp [changes, Output.change?, Change.Legal, Phase.successors]
  | readCompleted | readFailed =>
      have ended : Change.Legal ⟨.awaitingRead, .subscribed⟩ := List.mem_cons_self
      have begun : Change.Legal ⟨.subscribed, .awaitingRead⟩ := List.mem_cons_self
      cases session.notificationPending
      · exact List.forall_mem_singleton.mpr ended
      · exact List.forall_mem_cons.mpr ⟨ended, List.forall_mem_singleton.mpr begun⟩
  | gaveUp text strikes =>
      rw [changes_append, changes_supersession]
      exact List.forall_mem_singleton.mpr (faulted_mem_successors (strikes.phase_mem coherent))
  | paused text strikes again =>
      rw [changes_append, changes_supersession]
      exact List.forall_mem_singleton.mpr (retry_mem_successors (strikes.phase_mem coherent) again)
  | rescanned text strikes lost =>
      rw [changes_append, changes_supersession]
      exact List.forall_mem_singleton.mpr
        (scanning_mem_successors (strikes.phase_mem coherent) lost)

end Moves

/-! ## Runs -/

/-- How the changes of a run fit together, and that no call ends where the link has only come up. -/
structure Unbroken (run : List Moment) (session : Session) : Prop where
  connects : Connects .idle (changes (outputsIn run)) session.phase
  legal : ∀ change ∈ changes (outputsIn run), change.Legal
  passing : ∀ moment ∈ run, ∀ earlier before later,
    changes moment.turn.outputs = earlier ++ ⟨before, .connected⟩ :: later →
      ∃ rest, later = ⟨.connected, .subscribing⟩ :: rest

section Runs

variable (device : Device) (settings : Config.Retry) (calls : List Call)

/-- A call that tells that the link has come up goes on to tell of the subscription. -/
theorem Move.passing {session : Session} {call : Call} {turn : Turn}
    (move : Move session call turn) (coherent : Coherent session) {earlier later : List Change}
    {before : Phase} (split : changes turn.outputs = earlier ++ ⟨before, .connected⟩ :: later) :
    ∃ rest, later = ⟨.connected, .subscribing⟩ :: rest := by
  have connects := move.connects
  have legal := move.legal coherent
  rw [split] at connects legal
  obtain ⟨_, _, _, onward⟩ := (connects_append_iff _ _).mp connects
  refine onward.eq_cons_of_successors ?_ rfl (move.coherent coherent).phase_ne_connected
  intro change member
  exact legal change (List.mem_append_right _ (List.mem_cons_of_mem _ member))

/-- The changes of a run are legal, and each begins where the one before it has ended. -/
theorem unbroken_after :
    Unbroken ((fresh device settings).moments calls) ((fresh device settings).after calls) := by
  induction calls using List.reverseRecOn with
  | nil => exact ⟨rfl, List.forall_mem_nil _, List.forall_mem_nil _⟩
  | append_singleton calls call inductionHypothesis =>
      have coherent := coherent_after device settings calls
      have move := move_turn ((fresh device settings).after calls) call
      rw [moments_concat, after_concat]
      constructor
      case connects =>
        rw [outputsIn_concat, changes_append, connects_append_iff]
        exact ⟨_, inductionHypothesis.connects, move.connects⟩
      case legal =>
        rw [outputsIn_concat, changes_append, List.forall_mem_append]
        exact ⟨inductionHypothesis.legal, move.legal coherent⟩
      case passing =>
        rw [List.forall_mem_append, List.forall_mem_singleton]
        exact ⟨inductionHypothesis.passing, fun _ _ _ => move.passing coherent⟩

end Runs

example : changes (outputsIn ((fresh ⟨"tag", "Tag"⟩ {}).moments
      [.start, .event ⟨1, .adapterState true⟩ 0, .event ⟨1, .deviceDiscovered "tag"⟩ 100,
        .event ⟨1, .connected⟩ 200, .disconnect])) =
    [⟨.idle, .scanning⟩, ⟨.scanning, .connecting⟩, ⟨.connecting, .connected⟩,
      ⟨.connected, .subscribing⟩, ⟨.subscribing, .disconnecting⟩] := by
  decide

end TagFix.Session
