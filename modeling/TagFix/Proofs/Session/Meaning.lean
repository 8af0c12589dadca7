import TagFix.Proofs.Session.Coherence

/-!
# What calls mean

A call may renew a session, be a failure of it, or bring news, the outcome of a read or a write that
is accepted. A call that goes unheeded is none of these, and a setback is a failure only.
-/

namespace TagFix.Session

def fails (session : Session) : Call → Bool
  | .event ⟨epoch, signal⟩ _ =>
      epoch = session.epoch &&
        match signal with
        | .scanFailed _ => session.phase = .scanning
        | .connectFailed _ => session.phase = .connecting
        | .subscribeFailed _ => session.phase = .subscribing
        | .linkLost _ => session.phase.isLinkUp
        | _ => false
  | .poll now =>
      session.isDue now && (session.alarm? = some .scanTimeout ||
        session.alarm? = some .connectTimeout)
  | _ => false

/-- Whether a call makes a session start afresh: a start that counts, or a subscription. -/
def renews (session : Session) : Call → Bool
  | .start => session.phase.canStart
  | .event ⟨epoch, signal⟩ _ =>
      epoch = session.epoch && signal = .subscribed && session.phase = .subscribing
  | _ => false

/-- Whether a call is a notification that reaches a session while it is subscribed. -/
def hearsNews (session : Session) : Call → Bool
  | .event ⟨epoch, .notification⟩ _ =>
      epoch = session.epoch && (session.phase = .subscribed || session.phase = .awaitingRead)
  | _ => false

def endsRead (session : Session) : Call → Bool
  | .event ⟨epoch, .readCompleted _⟩ _ | .event ⟨epoch, .readFailed _⟩ _ =>
      epoch = session.epoch && session.phase = .awaitingRead
  | _ => false

def arrival? (session : Session) : Call → Option (List UInt8)
  | .event ⟨epoch, .readCompleted data⟩ _ =>
      if epoch = session.epoch ∧ session.phase = .awaitingRead then some data else none
  | _ => none

def acceptsWrite (session : Session) : Call → Bool
  | .write characteristic data => (session.write characteristic data).isOk
  | _ => false

/-- A write is accepted just when the link is up and no other write is in flight. -/
theorem write_isOk (session : Session) (characteristic : Link.Characteristic)
    (data : List UInt8) :
    (session.write characteristic data).isOk =
      (session.phase.isLinkUp && !session.writeInFlight) := by
  unfold write
  cases session.phase.isLinkUp with
  | false => rfl
  | true =>
      cases session.writeInFlight with
      | false => rfl
      | true => rfl

/-- A call that is nothing to a session, unless it is a failure of it. -/
structure Uneventful (session : Session) (call : Call) (failure : Bool) : Prop where
  fails : session.fails call = failure
  renews : session.renews call = false
  hearsNews : session.hearsNews call = false
  endsRead : session.endsRead call = false
  arrival : session.arrival? call = none
  acceptsWrite : session.acceptsWrite call = false

section Calls

variable {session : Session} {call : Call}

/-- A call that a session does not act on means nothing to it. -/
theorem uneventful_of_unheeded (unheeded : session.heeds call = false) :
    session.Uneventful call false := by
  cases call with
  | start => exact ⟨rfl, unheeded, rfl, rfl, rfl, rfl⟩
  | disconnect => exact ⟨rfl, rfl, rfl, rfl, rfl, rfl⟩
  | write characteristic data =>
      exact ⟨rfl, rfl, rfl, rfl, rfl, (session.write_isOk characteristic data).trans unheeded⟩
  | poll now =>
      have early : session.isDue now = false := unheeded
      exact ⟨by rw [fails, early, Bool.false_and], rfl, rfl, rfl, rfl, rfl⟩
  | event event now =>
      obtain ⟨epoch, signal⟩ := event
      cases signal with
      | scanFailed | connectFailed | subscribeFailed | linkLost =>
          exact ⟨unheeded, by simp [renews], rfl, rfl, rfl, rfl⟩
      | subscribed =>
          have unrenewed : (decide (epoch = session.epoch) &&
              decide (session.phase = .subscribing)) = false := unheeded
          exact ⟨by simp [fails], by simpa [renews] using unrenewed, rfl, rfl, rfl, rfl⟩
      | notification => exact ⟨by simp [fails], by simp [renews], unheeded, rfl, rfl, rfl⟩
      | readFailed => exact ⟨by simp [fails], by simp [renews], rfl, unheeded, rfl, rfl⟩
      | readCompleted data =>
          have unread : ¬(epoch = session.epoch ∧ session.phase = .awaitingRead) := by
            simpa [heeds, acceptsSignal] using unheeded
          exact ⟨by simp [fails], by simp [renews], rfl, unheeded, if_neg unread, rfl⟩
      | _ => exact ⟨by simp [fails], by simp [renews], rfl, rfl, rfl, rfl⟩

/-- A setback is a failure and means nothing else. -/
theorem Strikes.uneventful {setback : Setback} {now : Nat}
    (strikes : session.Strikes setback call now) : session.Uneventful call true := by
  cases strikes with
  | scanFailed phase | connectFailed phase | subscribeFailed phase =>
      exact ⟨by simp [fails, phase], by simp [renews], rfl, rfl, rfl, rfl⟩
  | scanTimedOut waiting isDue | connectTimedOut waiting isDue =>
      exact ⟨by simp [fails, Session.isDue, alarm?, waiting, isDue], rfl, rfl, rfl, rfl, rfl⟩
  | linkLost linkUp => exact ⟨by simp [fails, linkUp], by simp [renews], rfl, rfl, rfl, rfl⟩

end Calls

end TagFix.Session
