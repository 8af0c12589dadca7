import TagFix.Proofs.Session.Meaning

/-!
# Payloads

A payload is what the read brings that a session waits for. It is told once and counted, and what it
holds makes no difference to the session.
-/

namespace TagFix.Session

def payloads (outputs : List Output) : List (List UInt8) :=
  outputs.filterMap fun
    | .payload data => some data
    | _ => none

def Output.bare : Output → Output
  | .payload _ => .payload []
  | output => output

section Moves

variable {session : Session} {call : Call} {turn : Turn}

theorem payloads_append (earlier later : List Output) :
    payloads (earlier ++ later) = payloads earlier ++ payloads later :=
  List.filterMap_append

theorem payloads_supersession_append (outputs : List Output) :
    payloads (session.supersession ++ outputs) = payloads outputs := by
  have none : payloads session.supersession = [] := by
    unfold supersession
    split
    · rfl
    · rfl
  rw [payloads_append, none, List.nil_append]

private theorem Setback.payloads_count (setback : Setback) (counters : Counters) :
    (setback.count counters).payloads = counters.payloads := by
  cases setback with
  | scanFailed | scanTimedOut | connectTimedOut | linkLost => rfl
  | connectFailed | subscribeFailed =>
      unfold Setback.count
      dsimp only
      split
      · rfl
      · rfl

/-- A call tells of the payload that it brings, and counts it. -/
theorem Move.payloads (move : Move session call turn) :
    Session.payloads turn.outputs = (session.arrival? call).toList ∧
      turn.session.counters.payloads =
        session.counters.payloads + (session.arrival? call).toList.length := by
  cases move with
  | ignored unheeded =>
      rw [(uneventful_of_unheeded unheeded).arrival]
      exact ⟨rfl, rfl⟩
  | started =>
      rw [List.append_assoc, payloads_supersession_append]
      refine ⟨?_, rfl⟩
      split
      · rfl
      · rfl
  | cancelled | scanStopped | disconnecting =>
      exact ⟨payloads_supersession_append _, rfl⟩
  | readCompleted data now phase =>
      have arrived : session.arrival? (.event ⟨session.epoch, .readCompleted data⟩ now) =
          some data := if_pos ⟨rfl, phase⟩
      rw [arrived]
      cases session.notificationPending with
      | false => exact ⟨rfl, rfl⟩
      | true => exact ⟨rfl, rfl⟩
  | readFailed =>
      cases session.notificationPending with
      | false => exact ⟨rfl, rfl⟩
      | true => exact ⟨rfl, rfl⟩
  | gaveUp text strikes | paused text strikes | rescanned text strikes =>
      rw [strikes.uneventful.arrival, payloads_supersession_append]
      exact ⟨rfl, Setback.payloads_count _ _⟩
  | written | adapterReady | adapterOff | found | linked | subscribed | readBegun | noted
  | writeCompleted | writeFailed | unlinked | unlinkFailed | scanRetried | connectRetried
  | subscribeRetried => exact ⟨rfl, rfl⟩

/-- The outcome of a read is told if it is awaited, and else goes unheeded. -/
theorem turn_readCompleted (session : Session) (epoch : Link.Epoch) (data : List UInt8)
    (now : Nat) :
    session.turn (.event ⟨epoch, .readCompleted data⟩ now) =
      if epoch = session.epoch ∧ session.phase = .awaitingRead then
        ⟨{ session with
            phase := if session.notificationPending then .awaitingRead else .subscribed
            notificationPending := false
            counters := { session.counters with payloads := session.counters.payloads + 1 } },
          session.nextRead,
          [.phaseChanged .awaitingRead .subscribed, .payload data] ++
            if session.notificationPending then [.phaseChanged .subscribed .awaitingRead] else []⟩
      else session.quiet := by
  have move := move_turn session (.event ⟨epoch, .readCompleted data⟩ now)
  generalize session.turn (.event ⟨epoch, .readCompleted data⟩ now) = turn at move
  cases move with
  | ignored unheeded =>
      have none := (uneventful_of_unheeded unheeded).arrival
      simp only [arrival?] at none
      split at none
      · cases none
      · next unfit => rw [if_neg unfit]
  | readCompleted data now phase =>
      have awaited : session.epoch = session.epoch ∧ session.phase = .awaitingRead := ⟨rfl, phase⟩
      rw [if_pos awaited]
  | gaveUp text strikes | paused text strikes | rescanned text strikes => cases strikes

/-- What a payload holds makes no difference to the session that reads it. -/
theorem turn_readCompleted_bare (session : Session) (epoch : Link.Epoch)
    (data other : List UInt8) (now : Nat) :
    let turn := session.turn (.event ⟨epoch, .readCompleted data⟩ now)
    let otherTurn := session.turn (.event ⟨epoch, .readCompleted other⟩ now)
    turn.session = otherTurn.session ∧ turn.issued = otherTurn.issued ∧
      turn.outputs.map Output.bare = otherTurn.outputs.map Output.bare := by
  simp only [turn_readCompleted]
  split
  · exact ⟨rfl, rfl, rfl⟩
  · exact ⟨rfl, rfl, rfl⟩

end Moves

end TagFix.Session
