import TagFix.Proofs.Engine.Commands

/-!
# The end of an engine

An engine takes what comes until it is told to stop, or until nobody is left to make a request. It
stops where it stands: a command that is under way then is never answered, and every other one was
answered before. The main statement is `settled_or_cut_off`.
-/

namespace TagFix

namespace Engine

/-! ## The calls of a run -/

def Stimulus.call? : Stimulus → Option Call
  | .event signalled now => some (.event signalled now)
  | .request (some .start) => some .start
  | .request (some .disconnect) => some .disconnect
  | .request (some (.send command ticket)) => some (.send command ticket)
  | .request (some .shutdown) | .request none => none
  | .deadline now => some (.poll now)

/-- The calls that are made until the engine ends. -/
def served : List Stimulus → List Call
  | [] => []
  | stimulus :: stimuli =>
      match stimulus.call? with
      | none => []
      | some call => call :: served stimuli

def heard (run : List Turn) : List Notice :=
  run.flatMap Turn.notices

def stopped (engine : Engine) (stimuli : List Stimulus) : Engine :=
  ((engine.run stimuli).getLast?.map Turn.engine).getD engine

section Calls

variable {engine : Engine}

private theorem react_eq (stimulus : Stimulus) :
    engine.react stimulus = stimulus.call?.map engine.turn := by
  cases stimulus with
  | event | deadline => rfl
  | request request =>
      cases request with
      | none => rfl
      | some request => cases request <;> rfl

private theorem heard_run (stimuli : List Stimulus) :
    heard (engine.run stimuli) = engine.told (served stimuli) := by
  induction stimuli generalizing engine with
  | nil => rfl
  | cons stimulus rest inductionHypothesis =>
      rw [run, served, react_eq]
      cases stimulus.call? with
      | none => rfl
      | some call =>
          have later : heard ((engine.turn call).engine.run rest) =
              (engine.turn call).engine.told (served rest) := inductionHypothesis
          rw [heard] at later
          simp only [Option.map_some, heard, List.flatMap_cons, told, later]

private theorem stopped_eq_after (stimuli : List Stimulus) :
    engine.stopped stimuli = engine.after (served stimuli) := by
  induction stimuli generalizing engine with
  | nil => rfl
  | cons stimulus rest inductionHypothesis =>
      rw [stopped, run, served, react_eq]
      cases stimulus.call? with
      | none => rfl
      | some call =>
          have later : (engine.turn call).engine.stopped rest =
              (engine.turn call).engine.after (served rest) := inductionHypothesis
          rw [stopped] at later
          simp only [Option.map_some, List.getLast?_cons]
          change _ = (engine.turn call).engine.after (served rest)
          rw [← later]
          cases ((engine.turn call).engine.run rest).getLast? <;> rfl

end Calls

/-! ## The command under way at the end -/

section Runs

variable {engine : Engine} {ticket : Ticket} {calls : List Call}

/-- The command of a ticket is under way at the end of a run and was not answered, or it is not and
was answered once. -/
theorem answers_of_given (paired : Paired engine) (idle : engine.pending = none)
    (distinct : (tickets calls).Nodup) (given : ticket ∈ tickets calls) :
    ((engine.after calls).holder = some ticket ∧ answers ticket (engine.told calls) = []) ∨
      ((engine.after calls).holder ≠ some ticket ∧
        ∃ result, answers ticket (engine.told calls) = [result]) := by
  obtain ⟨earlier, command, later, split⟩ := exists_send_of_mem_tickets given
  obtain ⟨absentBefore, absentAfter⟩ := not_mem_tickets_of_distinct (split ▸ distinct)
  have pairedThen := (step_turn _ (.send command (some ticket))).paired
    (paired_after paired earlier)
  have atEnd := holder_after_iff pairedThen absentAfter
  have whole : engine.after calls =
      ((engine.after earlier).turn (.send command (some ticket))).engine.after later := by
    rw [split, after_append]
    rfl
  rw [← whole] at atEnd
  cases sent : ((engine.after earlier).send command (some ticket)).2 with
  | error refusal =>
      have free : (engine.after earlier).holder ≠ some ticket := by
        intro holds
        have held := ((holder_after_iff paired absentBefore).mp holds).1
        simp [holder, idle] at held
      have answered := (answers_of_refused paired idle distinct split sent).2
      refine Or.inr ⟨?_, rejection refusal, answered⟩
      intro holds
      have held := (atEnd.mp holds).1
      rw [turn, send_of_error sent] at held
      exact free held
  | ok =>
      have pending := (send_of_ok sent).1
      have waits : ((engine.after earlier).turn (.send command (some ticket))).engine.holder =
          some ticket := by
        rw [turn, holder, pending]
        rfl
      have answered := answers_of_accepted paired idle distinct split sent
      change _ = (((engine.after earlier).turn (.send command (some ticket))).engine.settlements
        later).take 1 at answered
      rw [ne_eq, atEnd, answered]
      generalize Engine.settlements _ later = settlements
      cases settlements with
      | nil => exact Or.inl ⟨⟨waits, rfl⟩, rfl⟩
      | cons result others => exact Or.inr ⟨by simp, result, rfl⟩

end Runs

/-- When an engine has ended, every command that it took from a host that waits was answered once,
but for the one whose write is still in flight, which is never answered. A ticket stands for one
host that waits, so no ticket is given out twice. -/
theorem settled_or_cut_off (device : Device) (directory : Option Directory)
    (settings : Config.Settings) (stimuli : List Stimulus)
    (distinct : (tickets (served stimuli)).Nodup) (ticket : Ticket)
    (given : ticket ∈ tickets (served stimuli)) :
    let engine := fresh device directory settings
    ((engine.stopped stimuli).holder = some ticket ∧
        (engine.stopped stimuli).session.writeInFlight = true ∧
          answers ticket (heard (engine.run stimuli)) = []) ∨
      ((engine.stopped stimuli).holder ≠ some ticket ∧
        ∃ result, answers ticket (heard (engine.run stimuli)) = [result]) := by
  intro engine
  have paired : Paired engine := rfl
  rw [heard_run, stopped_eq_after]
  rcases answers_of_given paired rfl distinct given with ⟨waits, unanswered⟩ | answered
  · have pairedThen := paired_after paired (served stimuli)
    have inFlight : (engine.after (served stimuli)).session.writeInFlight = true := by
      rw [← pairedThen, Option.isSome_iff_exists]
      obtain ⟨pending, held, _⟩ := Option.bind_eq_some_iff.mp waits
      exact ⟨pending, held⟩
    exact Or.inl ⟨waits, inFlight, unanswered⟩
  · exact Or.inr answered

/-- A tag is subscribed to and sent two commands; the engine is stopped before the second write has
ended. -/
def cutOffCommand : List Stimulus :=
  [.request (some .start), .event ⟨1, .adapterState true⟩ 0,
    .event ⟨1, .deviceDiscovered "tag"⟩ 100, .event ⟨1, .connected⟩ 200,
    .event ⟨1, .subscribed⟩ 300,
    .request (some (.send (.ranging true) (some 0))), .event ⟨1, .writeCompleted⟩ 400,
    .request (some (.send (.ranging false) (some 1))), .request (some .shutdown)]

theorem settled_or_cut_off_cutOffCommand :
    let engine := fresh ⟨"tag", "Tag"⟩ none {}
    (tickets (served cutOffCommand)).Nodup ∧ 0 ∈ tickets (served cutOffCommand) ∧
      (((engine.stopped cutOffCommand).holder = some 0 ∧
          (engine.stopped cutOffCommand).session.writeInFlight = true ∧
            answers 0 (heard (engine.run cutOffCommand)) = []) ∨
        ((engine.stopped cutOffCommand).holder ≠ some 0 ∧
          ∃ result, answers 0 (heard (engine.run cutOffCommand)) = [result])) :=
  have distinct : (tickets (served cutOffCommand)).Nodup := by decide
  have given : 0 ∈ tickets (served cutOffCommand) := by decide
  ⟨distinct, given, settled_or_cut_off _ _ _ _ distinct 0 given⟩

/-- So not every command is answered by the end: the host of the second one waits forever. -/
theorem unanswered_cutOffCommand :
    let engine := fresh ⟨"tag", "Tag"⟩ none {}
    .request (some .shutdown) ∈ cutOffCommand ∧ 1 ∈ tickets (served cutOffCommand) ∧
      (tickets (served cutOffCommand)).Nodup ∧
        answers 1 (heard (engine.run cutOffCommand)) = [] :=
  ⟨by decide, by decide, by decide, rfl⟩

end Engine

end TagFix
