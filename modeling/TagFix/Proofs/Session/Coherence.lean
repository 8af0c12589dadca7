import TagFix.Proofs.Session.Run

/-!
# Coherent sessions

The flags and the deadline of a session fit its phase. No history is needed to say so, and every
move keeps it.
-/

namespace TagFix.Session

def alarm? (session : Session) : Option Alarm :=
  session.deadline.map Deadline.alarm

/-- What a session may wait for in a phase. Between two calls it is never in the phase that only
leads from the link to the subscription. -/
def Phase.allows : Phase → Option Alarm → Bool
  | .idle, none => true
  | .scanning, some .scanTimeout | .scanning, some (.retry .scan) => true
  | .connecting, some .connectTimeout | .connecting, some (.retry .connect) => true
  | .subscribing, none | .subscribing, some (.retry .subscribe) => true
  | .subscribed, none | .awaitingRead, none => true
  | .disconnecting, none | .disconnected, none | .faulted, none => true
  | _, _ => false

def Alarm.phase : Alarm → Phase
  | .scanTimeout => .scanning
  | .connectTimeout => .connecting
  | .retry target => target.phase

private theorem Phase.eq_of_allows {phase : Phase} {alarm : Alarm}
    (allowed : phase.allows (some alarm) = true) : phase = alarm.phase := by
  cases alarm with
  | scanTimeout =>
      cases phase with
      | scanning => rfl
      | _ => cases allowed
  | connectTimeout =>
      cases phase with
      | connecting => rfl
      | _ => cases allowed
  | retry target =>
      cases target with
      | scan =>
          cases phase with
          | scanning => rfl
          | _ => cases allowed
      | connect =>
          cases phase with
          | connecting => rfl
          | _ => cases allowed
      | subscribe =>
          cases phase with
          | subscribing => rfl
          | _ => cases allowed

/-- The flags and the deadline fit the phase. -/
structure Coherent (session : Session) : Prop where
  alarm : session.phase.allows session.alarm? = true
  idle_of_adapterCheck : session.adapterCheckPending = true → session.phase = .idle
  reading_of_notification : session.notificationPending = true → session.phase = .awaitingRead
  linkUp_of_write : session.writeInFlight = true → session.phase.isLinkUp = true

namespace Coherent

variable {session : Session}

/-- A session is in the phase that its deadline is for. -/
theorem phase_of_deadline (coherent : Coherent session) {due : Nat} {alarm : Alarm}
    (waiting : session.deadline = some ⟨due, alarm⟩) : session.phase = alarm.phase := by
  have allowed := coherent.alarm
  rw [alarm?, waiting] at allowed
  exact Phase.eq_of_allows allowed

theorem phase_ne_connected (coherent : Coherent session) : session.phase ≠ .connected := by
  intro phase
  have alarm := coherent.alarm
  rw [phase] at alarm
  simp [Phase.allows] at alarm

/-- A session that neither scans, connects nor subscribes has no deadline. -/
theorem deadline_eq_none (coherent : Coherent session)
    (untimed : session.phase ∉ [.scanning, .connecting, .subscribing]) :
    session.deadline = none := by
  cases waiting : session.deadline with
  | none => rfl
  | some deadline =>
      obtain ⟨due, alarm⟩ := deadline
      rw [coherent.phase_of_deadline waiting] at untimed
      cases alarm with
      | scanTimeout | connectTimeout => simp [Alarm.phase] at untimed
      | retry target =>
          cases target with
          | scan | connect | subscribe => simp [Alarm.phase, RetryTarget.phase] at untimed

theorem scanning_of_scanTimeout (coherent : Coherent session) {due : Nat}
    (waiting : session.deadline = some ⟨due, .scanTimeout⟩) : session.phase = .scanning :=
  coherent.phase_of_deadline waiting

theorem connecting_of_connectTimeout (coherent : Coherent session) {due : Nat}
    (waiting : session.deadline = some ⟨due, .connectTimeout⟩) : session.phase = .connecting :=
  coherent.phase_of_deadline waiting

theorem phase_of_retry (coherent : Coherent session) {due : Nat} {target : RetryTarget}
    (waiting : session.deadline = some ⟨due, .retry target⟩) : session.phase = target.phase :=
  coherent.phase_of_deadline waiting

private theorem adapterCheck_eq_false (coherent : Coherent session)
    (phase : session.phase ≠ .idle) :
    session.adapterCheckPending = false :=
  Bool.eq_false_iff.mpr (mt coherent.idle_of_adapterCheck phase)

theorem notification_eq_false (coherent : Coherent session)
    (phase : session.phase ≠ .awaitingRead) : session.notificationPending = false :=
  Bool.eq_false_iff.mpr (mt coherent.reading_of_notification phase)

theorem write_eq_false (coherent : Coherent session) (linkDown : session.phase.isLinkUp = false) :
    session.writeInFlight = false :=
  Bool.eq_false_iff.mpr (mt coherent.linkUp_of_write (Bool.eq_false_iff.mp linkDown))

/-! ## Where setbacks strike -/

section Setbacks

variable {setback : Setback} {call : Call} {now : Nat}

private theorem phase_ne_idle_of_strikes (coherent : Coherent session)
    (strikes : session.Strikes setback call now) : session.phase ≠ .idle := by
  intro idle
  cases strikes with
  | scanFailed phase | connectFailed phase | subscribeFailed phase => simp [idle] at phase
  | scanTimedOut waiting => simpa [idle] using coherent.scanning_of_scanTimeout waiting
  | connectTimedOut waiting => simpa [idle] using coherent.connecting_of_connectTimeout waiting
  | linkLost linkUp => simp [idle, Phase.isLinkUp] at linkUp

/-- No notification waits for its read after a setback. -/
theorem notification_eq_false_of_strikes (coherent : Coherent session)
    (strikes : session.Strikes setback call now) :
    setback.notificationPending session = false := by
  cases strikes with
  | scanFailed phase | connectFailed phase | subscribeFailed phase =>
      exact coherent.notification_eq_false (by simp [phase])
  | scanTimedOut waiting =>
      exact coherent.notification_eq_false (by simp [coherent.scanning_of_scanTimeout waiting])
  | connectTimedOut waiting =>
      exact coherent.notification_eq_false
        (by simp [coherent.connecting_of_connectTimeout waiting])
  | linkLost => rfl

/-- A link is lost only to be connected again, so a new scan finds no read under way. -/
theorem phase_ne_awaitingRead_of_rescan (coherent : Coherent session)
    (strikes : session.Strikes setback call now) (lost : setback.retry? = none) :
    session.phase ≠ .awaitingRead := by
  intro reading
  cases strikes with
  | scanFailed phase | connectFailed phase | subscribeFailed phase => simp [reading] at phase
  | scanTimedOut waiting => simpa [reading] using coherent.scanning_of_scanTimeout waiting
  | connectTimedOut waiting =>
      simpa [reading] using coherent.connecting_of_connectTimeout waiting
  | linkLost linkUp => simp [Setback.retry?] at lost

end Setbacks

end Coherent

/-! ## Moves keep sessions coherent -/

section Moves

variable {session : Session} {call : Call} {turn : Turn}

private theorem Move.allows (move : Move session call turn) (coherent : Coherent session) :
    turn.session.phase.allows turn.session.alarm? = true := by
  cases move with
  | ignored | written | noted | writeCompleted | writeFailed | adapterOff =>
      exact coherent.alarm
  | started | scanStopped | disconnecting | adapterReady | found | linked | subscribed | gaveUp
  | rescanned => rfl
  | cancelled phase pending => simp [coherent.deadline_eq_none, phase, alarm?, Phase.allows]
  | readBegun now phase => simp [coherent.deadline_eq_none, phase, alarm?, Phase.allows]
  | readCompleted data now phase | readFailed reason now text phase =>
      have waiting := coherent.deadline_eq_none (by simp [phase])
      rw [alarm?, waiting]
      dsimp only
      split
      · rfl
      · rfl
  | unlinked now text phase | unlinkFailed reason now text phase =>
      simp [coherent.deadline_eq_none, phase, alarm?, Phase.allows]
  | @paused setback target => cases target <;> rfl
  | scanRetried waiting | connectRetried waiting | subscribeRetried waiting =>
      simp [coherent.phase_of_retry waiting, RetryTarget.phase, alarm?, Phase.allows]

private theorem Move.idle_of_adapterCheck (move : Move session call turn)
    (coherent : Coherent session)
    (pending : turn.session.adapterCheckPending = true) : turn.session.phase = .idle := by
  cases move with
  | ignored | written | noted | writeCompleted | writeFailed | scanRetried | connectRetried
  | subscribeRetried => exact coherent.idle_of_adapterCheck pending
  | started => rfl
  | cancelled | adapterReady | adapterOff => cases pending
  | scanStopped text phase | found now text phase | linked now text phase
  | subscribed now text phase | readBegun now phase | readCompleted data now phase
  | readFailed reason now text phase | unlinked now text phase
  | unlinkFailed reason now text phase =>
      rw [coherent.adapterCheck_eq_false (by simp [phase])] at pending
      cases pending
  | disconnecting text linking =>
      have idle := coherent.idle_of_adapterCheck pending
      simp [idle, Phase.isLinking, Phase.isLinkUp] at linking
  | gaveUp text strikes | paused text strikes | rescanned text strikes =>
      rw [coherent.adapterCheck_eq_false (coherent.phase_ne_idle_of_strikes strikes)] at pending
      cases pending

private theorem Move.reading_of_notification (move : Move session call turn)
    (coherent : Coherent session) (pending : turn.session.notificationPending = true) :
    turn.session.phase = .awaitingRead := by
  cases move with
  | ignored | written | writeCompleted | writeFailed | adapterOff | scanRetried | connectRetried
  | subscribeRetried => exact coherent.reading_of_notification pending
  | noted now phase => exact phase
  | readBegun => rfl
  | started | disconnecting | readCompleted | readFailed | gaveUp => cases pending
  | cancelled phase | scanStopped text phase | adapterReady now text phase
  | found now text phase | linked now text phase | subscribed now text phase
  | unlinked now text phase | unlinkFailed reason now text phase =>
      rw [coherent.notification_eq_false (by simp [phase])] at pending
      cases pending
  | paused text strikes =>
      rw [coherent.notification_eq_false_of_strikes strikes] at pending
      cases pending
  | rescanned text strikes lost =>
      rw [coherent.notification_eq_false
        (coherent.phase_ne_awaitingRead_of_rescan strikes lost)] at pending
      cases pending

private theorem Move.linkUp_of_write (move : Move session call turn) (coherent : Coherent session)
    (inFlight : turn.session.writeInFlight = true) : turn.session.phase.isLinkUp = true := by
  cases move with
  | ignored | noted | adapterOff | scanRetried | connectRetried | subscribeRetried =>
      exact coherent.linkUp_of_write inFlight
  | written linkUp => exact linkUp
  | linked | subscribed | readBegun => rfl
  | readCompleted | readFailed => cases pending : session.notificationPending <;> rfl
  | started | cancelled | scanStopped | disconnecting | writeCompleted | writeFailed | gaveUp
  | paused | rescanned => cases inFlight
  | adapterReady now text phase | found now text phase | unlinked now text phase
  | unlinkFailed reason now text phase =>
      rw [coherent.write_eq_false (by simp [phase, Phase.isLinkUp])] at inFlight
      cases inFlight

/-- Every move leaves the deadline and the flags fitting the phase. -/
theorem Move.coherent (move : Move session call turn) (coherent : Coherent session) :
    Coherent turn.session where
  alarm := move.allows coherent
  idle_of_adapterCheck := move.idle_of_adapterCheck coherent
  reading_of_notification := move.reading_of_notification coherent
  linkUp_of_write := move.linkUp_of_write coherent

end Moves

theorem fresh_coherent (device : Device) (settings : Config.Retry) :
    Coherent (fresh device settings) where
  alarm := rfl
  idle_of_adapterCheck := nofun
  reading_of_notification := nofun
  linkUp_of_write := nofun

/-- Every session that a run reaches is coherent. -/
theorem coherent_after (device : Device) (settings : Config.Retry) (calls : List Call) :
    Coherent ((fresh device settings).after calls) :=
  invariant_after (fresh_coherent device settings) (fun move => move.coherent) calls

end TagFix.Session
