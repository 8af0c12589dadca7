import TagFix.Proofs.Session.Meaning

/-!
# Writes and their outcomes

Every write that a session accepts has one outcome. It is told when the write ends, or in the call
that ends the epoch of the write, and at most one write has its outcome yet to come.
-/

namespace TagFix

open Link (Failure)

namespace Session

def writeResults (outputs : List Output) : List (Except Failure Unit) :=
  outputs.filterMap fun
    | .writeFinished result => some result
    | _ => none

theorem writeResults_append (earlier later : List Output) :
    writeResults (earlier ++ later) = writeResults earlier ++ writeResults later :=
  List.filterMap_append

section Moves

variable {session : Session} {call : Call} {turn : Turn}

private theorem writeResults_supersession :
    writeResults session.supersession =
      if session.writeInFlight then [.error Turn.superseded] else [] := by
  unfold supersession
  split
  · rfl
  · rfl

/-- What a call means for the write in flight. -/
inductive WriteStep (session : Session) (call : Call) (turn : Turn) : Prop
  | accepted (accepts : session.acceptsWrite call = true) (free : session.writeInFlight = false)
      (inFlight : turn.session.writeInFlight = true) (unanswered : writeResults turn.outputs = [])
  | kept (accepts : session.acceptsWrite call = false)
      (same : turn.session.writeInFlight = session.writeInFlight)
      (unanswered : writeResults turn.outputs = []) (epoch : turn.session.epoch = session.epoch)
      (linked : session.phase.isLinkUp = true → turn.session.phase.isLinkUp = true)
  | settled (result : Except Failure Unit) (accepts : session.acceptsWrite call = false)
      (inFlight : session.writeInFlight = true) (free : turn.session.writeInFlight = false)
      (answered : writeResults turn.outputs = [result])
      (epoch : turn.session.epoch = session.epoch) (phase : turn.session.phase = session.phase)
  | superseded (accepts : session.acceptsWrite call = false)
      (free : turn.session.writeInFlight = false)
      (answered : writeResults turn.outputs =
        if session.writeInFlight then [.error Turn.superseded] else [])

theorem writeResults_supersession_append {outputs : List Output}
    (others : writeResults outputs = []) :
    writeResults (session.supersession ++ outputs) =
      if session.writeInFlight then [.error Turn.superseded] else [] := by
  rw [writeResults_append, others, List.append_nil, writeResults_supersession]

/-- Every move accepts a write, settles the one in flight, leaves it, or ends it with the epoch. -/
theorem Move.writeStep (move : Move session call turn) : WriteStep session call turn := by
  cases move with
  | ignored unheeded =>
      exact .kept (uneventful_of_unheeded unheeded).acceptsWrite rfl rfl rfl id
  | started text startable =>
      refine .superseded rfl rfl ?_
      rw [List.append_assoc]
      apply writeResults_supersession_append
      split
      · rfl
      · rfl
  | cancelled | scanStopped | disconnecting =>
      exact .superseded rfl rfl (writeResults_supersession_append rfl)
  | written linkUp free =>
      exact .accepted (by simp [acceptsWrite, write_isOk, linkUp, free]) free rfl rfl
  | adapterReady now text phase | adapterOff now text phase | found now text phase
  | unlinked now text phase | unlinkFailed reason now text phase =>
      exact .kept rfl rfl rfl rfl (by simp [phase, Phase.isLinkUp])
  | linked | subscribed | readBegun => exact .kept rfl rfl rfl rfl fun _ => rfl
  | noted => exact .kept rfl rfl rfl rfl id
  | readCompleted | readFailed =>
      cases pending : session.notificationPending with
      | false | true =>
          exact .kept rfl rfl (by simp [writeResults]) rfl (by simp [Phase.isLinkUp])
  | writeCompleted now inFlight | writeFailed reason now inFlight =>
      exact .settled _ rfl inFlight rfl rfl rfl rfl
  | gaveUp text strikes | paused text strikes | rescanned text strikes =>
      exact .superseded strikes.uneventful.acceptsWrite rfl (writeResults_supersession_append rfl)
  | scanRetried | connectRetried | subscribeRetried => exact .kept rfl rfl rfl rfl id

/-- Every accepted write has its outcome told or yet to come. -/
theorem WriteStep.balance (step : WriteStep session call turn) :
    (writeResults turn.outputs).length + turn.session.writeInFlight.toNat =
      session.writeInFlight.toNat + (session.acceptsWrite call).toNat := by
  cases step with
  | accepted accepts free inFlight unanswered => simp [accepts, free, inFlight, unanswered]
  | kept accepts same unanswered => simp [accepts, same, unanswered]
  | settled result accepts inFlight free answered => simp [accepts, inFlight, free, answered]
  | superseded accepts free answered =>
      rw [accepts, free, answered]
      cases session.writeInFlight with
      | false => rfl
      | true => rfl

/-- A call that tells an outcome leaves no write in flight. -/
theorem WriteStep.inFlight_eq (step : WriteStep session call turn)
    (accepts : session.acceptsWrite call = false) :
    turn.session.writeInFlight =
      if writeResults turn.outputs = [] then session.writeInFlight else false := by
  cases step with
  | accepted accepted =>
      rw [accepts] at accepted
      cases accepted
  | kept _ same unanswered => rw [if_pos unanswered, same]
  | settled result _ inFlight free answered => rw [free, answered, if_neg (by simp)]
  | superseded _ free answered =>
      rw [free, answered]
      cases inFlight : session.writeInFlight with
      | false => rfl
      | true => rfl

theorem of_write_eq_ok {characteristic : Link.Characteristic} {data : List UInt8}
    (written : session.write characteristic data = .ok turn) :
    session.writeInFlight = false ∧ turn.session.writeInFlight = true ∧ turn.outputs = [] := by
  unfold write at written
  split at written
  · cases written
  · split at written
    · cases written
    · next free =>
        cases written
        exact ⟨Bool.not_eq_true _ ▸ free, rfl, rfl⟩

/-- A call that ends the epoch or the link tells that the write in flight has failed. -/
theorem WriteStep.answered_of_superseded (step : WriteStep session call turn)
    (coherent : Coherent session) (inFlight : session.writeInFlight = true)
    (ends : turn.session.phase.isLinkUp = false ∨ turn.session.epoch ≠ session.epoch) :
    writeResults turn.outputs = [.error Turn.superseded] := by
  have linkUp := coherent.linkUp_of_write inFlight
  cases step with
  | accepted accepts free =>
      rw [inFlight] at free
      cases free
  | kept accepts same unanswered epoch linked =>
      rcases ends with linkDown | advanced
      · rw [linked linkUp] at linkDown
        cases linkDown
      · exact absurd epoch advanced
  | settled result accepts _ free answered epoch phase =>
      rcases ends with linkDown | advanced
      · rw [phase, linkUp] at linkDown
        cases linkDown
      · exact absurd epoch advanced
  | superseded accepts free answered => rw [answered, if_pos inFlight]

end Moves

def acceptedWrites (run : List Moment) : Nat :=
  run.countP fun moment => moment.session.acceptsWrite moment.call

/-- Every write that was accepted in a run has its outcome told or yet to come. -/
theorem acceptedWrites_add (session : Session) (calls : List Call) :
    session.writeInFlight.toNat + acceptedWrites (session.moments calls) =
      (writeResults (outputsIn (session.moments calls))).length +
        (session.after calls).writeInFlight.toNat := by
  induction calls using List.reverseRecOn with
  | nil => exact Nat.add_comm _ _
  | append_singleton calls call inductionHypothesis =>
      have balance := (move_turn (session.after calls) call).writeStep.balance
      have accepted : acceptedWrites (session.moments calls ++ [⟨session.after calls, call⟩]) =
          acceptedWrites (session.moments calls) +
            ((session.after calls).acceptsWrite call).toNat := by
        rw [acceptedWrites, List.countP_append, List.countP_singleton]
        cases (session.after calls).acceptsWrite call with
        | false => rfl
        | true => rfl
      rw [moments_concat, outputsIn_concat, after_concat, writeResults_append, List.length_append,
        accepted]
      simp only [Moment.turn]
      omega

/-- How a session of a run stands with its writes, and what comes of one that is cut off. -/
structure Accounted (run : List Moment) (session : Session) : Prop where
  balance : acceptedWrites run =
    (writeResults (outputsIn run)).length + if session.writeInFlight then 1 else 0
  superseded : session.writeInFlight = true → ∀ call,
    (session.turn call).session.phase.isLinkUp = false ∨
        (session.turn call).session.epoch ≠ session.epoch →
      writeResults (session.turn call).outputs = [.error Turn.superseded]

/-- Of the writes that a run has accepted, each is settled once or still in flight. -/
theorem accounted_after (device : Device) (settings : Config.Retry) (calls : List Call) :
    Accounted ((fresh device settings).moments calls) ((fresh device settings).after calls) where
  balance := by
    have sum := acceptedWrites_add (fresh device settings) calls
    have free : (fresh device settings).writeInFlight = false := rfl
    rw [free, Bool.toNat_false, Nat.zero_add] at sum
    rw [sum]
    cases ((fresh device settings).after calls).writeInFlight with
    | false => rfl
    | true => rfl
  superseded inFlight call ends :=
    (move_turn _ call).writeStep.answered_of_superseded (coherent_after device settings calls)
      inFlight ends

end Session

end TagFix
