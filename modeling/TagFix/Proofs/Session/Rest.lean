import TagFix.Proofs.Session.Lifecycle

/-!
# Sessions at rest

A session that was never started, that has come to its end or that was given up does nothing until
it is started again, whatever events still come: all that may be left to tell is the end of its
link.
-/

namespace TagFix.Session

/-- Whether a session is at rest: it neither waits for an adapter check nor tries, makes or uses a
link. -/
def isAtRest (session : Session) : Bool :=
  match session.phase with
  | .idle => !session.adapterCheckPending
  | .disconnecting | .disconnected | .faulted => true
  | _ => false

/-- Whether an output only tells how the session goes on, and neither brings data nor the outcome of
anything. -/
def Output.isProgress : Output → Bool
  | .phaseChanged .. | .status _ => true
  | _ => false

/-! ## Moves of a session at rest -/

section Moves

variable {session : Session} {call : Call} {turn : Turn}

private theorem phase_mem_of_isAtRest (resting : session.isAtRest = true) :
    session.phase ∈ [.idle, .disconnecting, .disconnected, .faulted] := by
  cases phase : session.phase with
  | idle | disconnecting | disconnected | faulted => decide
  | _ => simp [isAtRest, phase] at resting

/-- A session at rest has no link, nor one in the making. -/
theorem isLinking_eq_false_of_isAtRest (resting : session.isAtRest = true) :
    session.phase.isLinking = false := by
  have unlinked : ∀ phase ∈ [Phase.idle, .disconnecting, .disconnected, .faulted],
      phase.isLinking = false := by
    decide
  exact unlinked _ (phase_mem_of_isAtRest resting)

private theorem isLinkUp_eq_false_of_isAtRest (resting : session.isAtRest = true) :
    session.phase.isLinkUp = false := by
  have unlinking := isLinking_eq_false_of_isAtRest resting
  refine Bool.eq_false_iff.mpr fun linkUp => ?_
  rw [Phase.isLinking_of_isLinkUp linkUp] at unlinking
  cases unlinking

private theorem Coherent.deadline_eq_none_of_isAtRest (coherent : Coherent session)
    (resting : session.isAtRest = true) : session.deadline = none := by
  have untimed : ∀ phase ∈ [Phase.idle, .disconnecting, .disconnected, .faulted],
      phase ∉ [Phase.scanning, .connecting, .subscribing] := by
    decide
  exact coherent.deadline_eq_none (untimed _ (phase_mem_of_isAtRest resting))

/-- No setback strikes a session at rest. -/
theorem Strikes.isAtRest_eq_false {setback : Setback} {now : Nat}
    (strikes : session.Strikes setback call now) (coherent : Coherent session) :
    session.isAtRest = false := by
  have restless : ∀ phase ∈ [Phase.idle, .disconnecting, .disconnected, .faulted],
      phase ∉ [Phase.scanning, .connecting, .subscribing, .subscribed, .awaitingRead] := by
    decide
  refine Bool.eq_false_iff.mpr fun resting => ?_
  exact restless _ (phase_mem_of_isAtRest resting) (mem_of_mem_phases (strikes.phase_mem coherent))

/-- Unless it is started, a session at rest goes on as it is or learns that its link has ended. -/
theorem Move.of_isAtRest (move : Move session call turn) (coherent : Coherent session)
    (resting : session.isAtRest = true) (unstarted : call ≠ .start) :
    turn = session.quiet ∨
      session.phase = .disconnecting ∧ ∃ text, turn =
        ⟨{ session with phase := .disconnected }, [],
          [.phaseChanged .disconnecting .disconnected, .status text]⟩ := by
  have unlinking := isLinking_eq_false_of_isAtRest resting
  have linkDown := isLinkUp_eq_false_of_isAtRest resting
  have untimed := coherent.deadline_eq_none_of_isAtRest resting
  cases move with
  | ignored => exact Or.inl rfl
  | started => exact absurd rfl unstarted
  | unlinked now text phase | unlinkFailed reason now text phase =>
      exact Or.inr ⟨phase, text, rfl⟩
  | cancelled phase pending | adapterReady now text phase pending
  | adapterOff now text phase pending => simp [isAtRest, phase, pending] at resting
  | scanStopped text phase | found now text phase | linked now text phase
  | subscribed now text phase | readBegun now phase | noted now phase
  | readCompleted data now phase | readFailed reason now text phase =>
      simp [isAtRest, phase] at resting
  | disconnecting text linking =>
      rw [unlinking] at linking
      cases linking
  | written linkUp =>
      rw [linkDown] at linkUp
      cases linkUp
  | writeCompleted now inFlight | writeFailed reason now inFlight =>
      rw [coherent.write_eq_false linkDown] at inFlight
      cases inFlight
  | gaveUp text strikes | paused text strikes | rescanned text strikes =>
      rw [strikes.isAtRest_eq_false coherent] at resting
      cases resting
  | scanRetried waiting | connectRetried waiting | subscribeRetried waiting =>
      rw [untimed] at waiting
      cases waiting

/-- A request to disconnect leaves a session at rest, or finds it so. -/
theorem Move.isAtRest_of_disconnect (move : Move session .disconnect turn)
    (coherent : Coherent session) : turn.session.isAtRest = true := by
  cases move with
  | ignored unheeded =>
      cases phase : session.phase with
      | idle => simpa [heeds, quiet, isAtRest, phase, Phase.isLinking, Phase.isLinkUp] using unheeded
      | connected => exact absurd phase coherent.phase_ne_connected
      | disconnecting | disconnected | faulted => simp [quiet, isAtRest, phase]
      | _ => simp [heeds, phase, Phase.isLinking, Phase.isLinkUp] at unheeded
  | cancelled | scanStopped | disconnecting => rfl
  | gaveUp text strikes | paused text strikes | rescanned text strikes => cases strikes

/-- A request to disconnect tells of no payload. -/
theorem Move.ne_payload_of_disconnect (move : Move session .disconnect turn) :
    ∀ output ∈ turn.outputs, ∀ data, output ≠ .payload data := by
  have unsuperseded : ∀ output ∈ session.supersession, ∀ data, output ≠ .payload data := by
    unfold supersession
    split
    · exact List.forall_mem_singleton.mpr nofun
    · exact List.forall_mem_nil _
  cases move with
  | ignored => exact List.forall_mem_nil _
  | cancelled | scanStopped | disconnecting =>
      rw [List.forall_mem_append]
      exact ⟨unsuperseded, by simp⟩
  | gaveUp text strikes | paused text strikes | rescanned text strikes => cases strikes

end Moves

/-! ## Runs of a session at rest -/

/-- What a session at rest makes of calls: nothing at all, or the end of its link is told once. -/
inductive RestRun (session : Session) (later : List Call) : Prop
  | still (issued : issuedIn (session.moments later) = []) (same : session.after later = session)
      (untold : outputsIn (session.moments later) = [])
  | ended (text : String) (issued : issuedIn (session.moments later) = [])
      (phase : session.phase = .disconnecting)
      (after : session.after later = { session with phase := .disconnected })
      (told : outputsIn (session.moments later) =
        [.phaseChanged .disconnecting .disconnected, .status text])

/-- How quiet a session is in the course of calls. -/
structure Silent (session : Session) (later : List Call) : Prop where
  issued : issuedIn (session.moments later) = []
  outputs : ∀ output ∈ outputsIn (session.moments later), output.isProgress = true
  refused : ∀ characteristic data, (session.after later).write characteristic data =
    .error (.notConnected (session.after later).phase)
  deadline : (session.after later).deadline = none
  epoch : (session.after later).epoch = session.epoch
  changes : (changes (outputsIn (session.moments later)) = [] ∧
      (session.after later).phase = session.phase) ∨
    (changes (outputsIn (session.moments later)) = [⟨.disconnecting, .disconnected⟩] ∧
      session.phase = .disconnecting ∧ (session.after later).phase = .disconnected)

section Runs

variable {session : Session} {later : List Call}

/-- A session at rest that is not started tells of nothing but the end of its link. -/
theorem restRun_of_isAtRest (coherent : Coherent session) (resting : session.isAtRest = true)
    (unstarted : .start ∉ later) : RestRun session later := by
  induction later generalizing session with
  | nil => exact .still rfl rfl rfl
  | cons call rest inductionHypothesis =>
      rw [List.mem_cons, not_or] at unstarted
      have move := move_turn session call
      rcases move.of_isAtRest coherent resting (Ne.symm unstarted.1) with
        made | ⟨phase, text, made⟩
      · cases inductionHypothesis coherent resting unstarted.2 with
        | still issued same untold =>
            refine .still ?_ ?_ ?_
            · simp [issuedIn_moments_cons, made, quiet, issued]
            · simp [after_cons, made, quiet, same]
            · simp [outputsIn_moments_cons, made, quiet, untold]
        | ended text issued phase after told =>
            refine .ended text ?_ phase ?_ ?_
            · simp [issuedIn_moments_cons, made, quiet, issued]
            · simp [after_cons, made, quiet, after]
            · simp [outputsIn_moments_cons, made, quiet, told]
      · have onward := move.coherent coherent
        rw [made] at onward
        -- From here on the session is disconnected, so it cannot be told a second time.
        cases inductionHypothesis onward rfl unstarted.2 with
        | still issued same untold =>
            refine .ended text ?_ phase ?_ ?_
            · simp [issuedIn_moments_cons, made, issued]
            · simp [after_cons, made, same]
            · simp [outputsIn_moments_cons, made, untold]
        | ended _ _ unended => cases unended

private theorem write_eq_error (linkDown : session.phase.isLinkUp = false)
    (characteristic : Link.Characteristic) (data : List UInt8) :
    session.write characteristic data = .error (.notConnected session.phase) := by
  simp [write, linkDown]

/-- A session that at most tells of the end of its link is silent. -/
theorem RestRun.silent (run : RestRun session later) (coherent : Coherent session)
    (resting : session.isAtRest = true) : Silent session later := by
  have untimed := coherent.deadline_eq_none_of_isAtRest resting
  cases run with
  | still issued same untold =>
      have linkDown := isLinkUp_eq_false_of_isAtRest resting
      constructor
      case issued => exact issued
      case outputs => simp [untold]
      case refused => rw [same]; exact write_eq_error linkDown
      case deadline => rw [same]; exact untimed
      case epoch => rw [same]
      case changes => exact Or.inl ⟨by rw [untold]; rfl, by rw [same]⟩
  | ended text issued phase after told =>
      constructor
      case issued => exact issued
      case outputs => simp [told, Output.isProgress]
      case refused => rw [after]; exact write_eq_error rfl
      case deadline => rw [after]; exact untimed
      case epoch => rw [after]
      case changes => exact Or.inr ⟨by rw [told]; rfl, phase, by rw [after]⟩

end Runs

end TagFix.Session
