import TagFix.Proofs.Engine.Run
import Mathlib.Data.List.Nodup

/-!
# Commands and their outcomes

The host of a command hears of its outcome once: at once where the command is refused, and else when
the session tells how the write ended. The main statement is `answered_after`.
-/

namespace TagFix

open Link (Failure)
open Session (writeResults)

namespace Engine

def Call.ticket? : Call → Option Ticket
  | .send _ ticket => ticket
  | _ => none

def tickets (calls : List Call) : List Ticket :=
  calls.filterMap Call.ticket?

/-- A command is under way exactly while the session has a write in flight. -/
def Paired (engine : Engine) : Prop :=
  engine.pending.isSome = engine.session.writeInFlight

def rejection (refusal : Session.Refusal) : Except Failure Unit :=
  .error ⟨.write, .transient, refusal.message⟩

section Calls

variable {engine : Engine} {call : Call} {ticket : Ticket}

/-! ## What a call can do to an engine -/

/-- The ways in which an engine goes on from a call. -/
inductive Step (engine : Engine) : Call → Turn → Prop
  | dispatched {call : Call} (inner : Session.Call) (asked : call.forSession? = some inner)
      (unwritten : engine.session.acceptsWrite inner = false) :
      Step engine call (engine.dispatch (engine.session.turn inner))
  | taken (command : Command) (holder : Option Ticket) {turn : Session.Turn}
      (written : engine.session.write command.characteristic command.encode = .ok turn) :
      Step engine (.send command holder)
        { engine.dispatch turn with
          engine := { engine with session := turn.session, pending := some (command, holder) } }
  | refused (command : Command) (holder : Option Ticket) {refusal : Session.Refusal}
      (unwritten : engine.session.write command.characteristic command.encode = .error refusal) :
      Step engine (.send command holder)
        ⟨engine, [], .status notSent :: settledNotice holder (rejection refusal)⟩
  | loaded (directory : Option Directory) :
      Step engine (.load directory) ⟨{ engine with directory }, [], []⟩

/-- Every call of an engine is one of the steps. -/
theorem step_turn (engine : Engine) (call : Call) : Step engine call (engine.turn call) := by
  cases call with
  | start => exact .dispatched .start rfl rfl
  | disconnect => exact .dispatched .disconnect rfl rfl
  | event signalled now => exact .dispatched (.event signalled now) rfl rfl
  | poll now => exact .dispatched (.poll now) rfl rfl
  | load directory => exact .loaded directory
  | send command holder =>
      simp only [turn, send]
      split
      · next written =>
          have step := Step.taken command holder written
          simpa only [dispatch_engine, settle] using step
      · next unwritten => exact .refused command holder unwritten

theorem send_of_error {command : Command} {holder : Option Ticket} {refusal : Session.Refusal}
    (refused : (engine.send command holder).2 = .error refusal) :
    (engine.send command holder).1 =
      ⟨engine, [], .status notSent :: settledNotice holder (rejection refusal)⟩ := by
  unfold send at refused ⊢
  split at refused
  · cases refused
  · cases refused
    rfl

theorem send_of_ok {command : Command} {holder : Option Ticket}
    (taken : (engine.send command holder).2 = .ok ()) :
    (engine.send command holder).1.engine.pending = some (command, holder) ∧
      ∀ ticket, answers ticket (engine.send command holder).1.notices = [] := by
  unfold send at taken ⊢
  split at taken
  · next written =>
      refine ⟨rfl, ?_⟩
      intro ticket
      simp only [answers_dispatch, (Session.of_write_eq_ok written).2.2]
      simp [writeResults, hearing]
  · cases taken

private theorem settlements_dispatched {inner : Session.Call}
    (asked : call.forSession? = some inner) :
    engine.settlements [call] = writeResults (engine.session.turn inner).outputs := by
  simp [settlements, asked, Session.moments, Session.outputsIn, Session.Moment.turn]

private theorem settlements_send (command : Command) (holder : Option Ticket) :
    engine.settlements [.send command holder] = [] := by
  rw [settlements_dispatched rfl, Session.turn]
  split
  · next written => rw [(Session.of_write_eq_ok written).2.2]; rfl
  · rfl

/-- A step makes at most one call of the session and changes it in no other way. -/
theorem Step.session_eq {turn : Turn} (step : Step engine call turn) :
    turn.engine.session = engine.session.after ([call].filterMap Call.forSession?) := by
  cases step with
  | dispatched inner asked =>
      rw [dispatch_engine]
      simp [asked, settle, Session.after]
  | taken command holder written => simp [Call.forSession?, Session.after, Session.turn, written]
  | refused command holder unwritten =>
      simp [Call.forSession?, Session.after, Session.turn, unwritten, Session.quiet]
  | loaded => rfl

/-- The command under way begins and ends with the write in flight. -/
theorem Step.paired {turn : Turn} (step : Step engine call turn) (paired : Paired engine) :
    Paired turn.engine := by
  unfold Paired at paired ⊢
  cases step with
  | dispatched inner asked unwritten =>
      have inFlight := (Session.move_turn engine.session inner).writeStep.inFlight_eq unwritten
      rw [dispatch_engine]
      simp only [settle, inFlight]
      split
      · exact paired
      · rfl
  | taken command holder written => exact (Session.of_write_eq_ok written).2.1.symm
  | refused | loaded => exact paired

private theorem Paired.pending_eq_none (paired : Paired engine)
    (free : engine.session.writeInFlight = false) : engine.pending = none := by
  rw [Paired, free] at paired
  simpa using paired

/-- A command that is under way stays so until the session tells an outcome. -/
theorem Step.pending_eq {turn : Turn} (step : Step engine call turn) (paired : Paired engine)
    {command : Command × Option Ticket} (pending : engine.pending = some command)
    (unsettled : engine.settlements [call] = []) : turn.engine.pending = some command := by
  cases step with
  | dispatched inner asked =>
      rw [settlements_dispatched asked] at unsettled
      rw [dispatch_engine]
      simp [settle, unsettled, pending]
  | taken other holder written =>
      rw [paired.pending_eq_none (Session.of_write_eq_ok written).1] at pending
      cases pending
  | refused | loaded => exact pending

/-- The host of a ticket that a call does not give out hears of it only what the session tells. -/
theorem Step.answers_eq {turn : Turn} (step : Step engine call turn)
    (absent : call.ticket? ≠ some ticket) :
    answers ticket turn.notices = engine.hearing ticket (engine.settlements [call]) := by
  cases step with
  | dispatched inner asked => rw [settlements_dispatched asked, answers_dispatch]
  | taken command holder written =>
      have told := (Session.of_write_eq_ok written).2.2
      rw [settlements_send, answers_dispatch, told]
      rfl
  | refused command holder unwritten =>
      simp only [Call.ticket?] at absent
      rw [settlements_send, ← List.singleton_append, answers_append, answers_settledNotice,
        if_neg absent]
      simp [answers, hearing]
  | loaded directory =>
      have untold : engine.settlements [.load directory] = [] := rfl
      rw [untold]
      simp [answers, hearing]

private theorem Step.holder_iff {turn : Turn} (step : Step engine call turn)
    (paired : Paired engine) (absent : call.ticket? ≠ some ticket) :
    turn.engine.holder = some ticket ↔
      (engine.settle (engine.settlements [call])).holder = some ticket := by
  cases step with
  | dispatched inner asked =>
      rw [settlements_dispatched asked, dispatch_engine]
      rfl
  | taken command holder written =>
      have none := paired.pending_eq_none (Session.of_write_eq_ok written).1
      simp only [Call.ticket?] at absent
      simp [Engine.holder, settle, none, absent]
  | refused command holder unwritten => rw [settlements_send, settle_nil]
  | loaded => rfl

end Calls

/-! ## Runs -/

section Runs

variable {engine : Engine} {ticket : Ticket}

/-- The session of an engine is run by the calls that the engine makes of it. -/
theorem session_after (engine : Engine) (calls : List Call) :
    (engine.after calls).session = engine.session.after (calls.filterMap Call.forSession?) := by
  induction calls generalizing engine with
  | nil => rfl
  | cons call rest inductionHypothesis =>
      have first := (step_turn engine call).session_eq
      rw [← List.singleton_append, List.filterMap_append, Session.after_append, ← first]
      exact inductionHypothesis _

theorem settlements_append (engine : Engine) (earlier later : List Call) :
    engine.settlements (earlier ++ later) =
      engine.settlements earlier ++ (engine.after earlier).settlements later := by
  unfold settlements
  rw [List.filterMap_append, Session.moments_append, session_after, ← Session.writeResults_append]
  simp [Session.outputsIn]

theorem paired_after (paired : Paired engine) (calls : List Call) :
    Paired (engine.after calls) := by
  induction calls generalizing engine with
  | nil => exact paired
  | cons call rest inductionHypothesis =>
      exact inductionHypothesis ((step_turn engine call).paired paired)

private theorem pending_after (paired : Paired engine) {command : Command × Option Ticket}
    (pending : engine.pending = some command) {calls : List Call}
    (unsettled : engine.settlements calls = []) :
    (engine.after calls).pending = some command := by
  induction calls generalizing engine with
  | nil => exact pending
  | cons call rest inductionHypothesis =>
      have step := step_turn engine call
      rw [← List.singleton_append, settlements_append, List.append_eq_nil_iff] at unsettled
      exact inductionHypothesis (step.paired paired) (step.pending_eq paired pending unsettled.1)
        unsettled.2

theorem not_mem_tickets_cons {call : Call} {rest : List Call} :
    ticket ∉ tickets (call :: rest) ↔ call.ticket? ≠ some ticket ∧ ticket ∉ tickets rest := by
  simp only [tickets, List.mem_filterMap, List.mem_cons, exists_eq_or_imp, not_or, ne_eq]

private theorem holder_settle_iff (results : List (Except Link.Failure Unit)) :
    (engine.settle results).holder = some ticket ↔ engine.holder = some ticket ∧ results = [] := by
  unfold settle holder
  by_cases untold : results = []
  · simp [untold]
  · simp [untold]

/-- A host still waits if and only if no outcome was told since its command was put under way. -/
theorem holder_after_iff (paired : Paired engine) {calls : List Call}
    (absent : ticket ∉ tickets calls) :
    (engine.after calls).holder = some ticket ↔
      engine.holder = some ticket ∧ engine.settlements calls = [] := by
  induction calls generalizing engine with
  | nil => simp [after, settlements, Session.outputsIn, Session.writeResults]
  | cons call rest inductionHypothesis =>
      have step := step_turn engine call
      obtain ⟨absentNow, absentLater⟩ := not_mem_tickets_cons.mp absent
      have whole : engine.settlements (call :: rest) =
          engine.settlements [call] ++ (engine.turn call).engine.settlements rest :=
        settlements_append engine [call] rest
      have later := inductionHypothesis (step.paired paired) absentLater
      rw [step.holder_iff paired absentNow, holder_settle_iff] at later
      rw [whole, List.append_eq_nil_iff, ← and_assoc]
      exact later

/-- The host of a ticket hears the first outcome that the session tells after its command was put
under way, as long as the ticket is not given out again. -/
theorem answers_told (paired : Paired engine) {calls : List Call}
    (absent : ticket ∉ tickets calls) :
    answers ticket (engine.told calls) = engine.hearing ticket (engine.settlements calls) := by
  induction calls generalizing engine with
  | nil => simp [told, answers, hearing, settlements, Session.outputsIn, writeResults]
  | cons call rest inductionHypothesis =>
      have step := step_turn engine call
      obtain ⟨absentNow, absentLater⟩ := not_mem_tickets_cons.mp absent
      -- An outcome that is told now ends the wait, so it hides all later ones.
      have later : (engine.turn call).engine.hearing ticket
            ((engine.turn call).engine.settlements rest) =
          (engine.settle (engine.settlements [call])).hearing ticket
            ((engine.turn call).engine.settlements rest) := by
        unfold hearing
        simp only [step.holder_iff paired absentNow]
      have whole : engine.settlements (call :: rest) =
          engine.settlements [call] ++ (engine.turn call).engine.settlements rest :=
        settlements_append engine [call] rest
      rw [told, answers_append, step.answers_eq absentNow,
        inductionHypothesis (step.paired paired) absentLater, later, ← hearing_append, whole]

/-- What the host hears of a ticket, given out in one call of a run, in the whole run. -/
theorem answers_told_split (paired : Paired engine) (idle : engine.holder = none)
    {earlier later : List Call} {call : Call} (absentBefore : ticket ∉ tickets earlier)
    (absentAfter : ticket ∉ tickets later) :
    answers ticket (engine.told (earlier ++ call :: later)) =
      answers ticket ((engine.after earlier).turn call).notices ++
        ((engine.after earlier).turn call).engine.hearing ticket
          (((engine.after earlier).turn call).engine.settlements later) := by
  have pairedThen := (step_turn _ call).paired (paired_after paired earlier)
  rw [told_append, answers_append, answers_told paired absentBefore, told, answers_append,
    answers_told pairedThen absentAfter]
  simp [hearing, idle]

end Runs

/-! ## The commands of a run -/

/-- Where tickets are given out once each, that of a command occurs neither before nor after it. -/
theorem not_mem_tickets_of_distinct {ticket : Ticket} {command : Command}
    {earlier later : List Call}
    (distinct : (tickets (earlier ++ .send command (some ticket) :: later)).Nodup) :
    ticket ∉ tickets earlier ∧ ticket ∉ tickets later := by
  have split : tickets (earlier ++ .send command (some ticket) :: later) =
      tickets earlier ++ ticket :: tickets later := by
    simp [tickets, Call.ticket?]
  rw [split, List.nodup_middle, List.nodup_cons, List.mem_append, not_or] at distinct
  exact distinct.1

theorem exists_send_of_mem_tickets {ticket : Ticket} {calls : List Call}
    (given : ticket ∈ tickets calls) :
    ∃ earlier command later, calls = earlier ++ .send command (some ticket) :: later := by
  obtain ⟨call, member, gives⟩ := List.mem_filterMap.mp given
  obtain ⟨earlier, later, split⟩ := List.append_of_mem member
  cases call with
  | send command holder =>
      cases gives
      exact ⟨earlier, command, later, split⟩
  | _ => cases gives

/-- How the commands of a run have fared. A command that is refused is answered at once. One that
is put under way is answered with the first outcome that the session tells from then on, and is
under way until then. -/
structure Answered (start : Engine) (calls : List Call) : Prop where
  paired : Paired (start.after calls)
  refused : ∀ earlier command ticket later refusal,
    calls = earlier ++ .send command (some ticket) :: later →
      ((start.after earlier).send command (some ticket)).2 = .error refusal →
        answers ticket ((start.after earlier).send command (some ticket)).1.notices =
            [rejection refusal] ∧
          answers ticket (start.told calls) = [rejection refusal]
  accepted : ∀ earlier command ticket later,
    calls = earlier ++ .send command (some ticket) :: later →
      ((start.after earlier).send command (some ticket)).2 = .ok () →
        match ((start.after earlier).send command (some ticket)).1.engine.settlements later with
        | [] =>
            answers ticket (start.told calls) = [] ∧
              (start.after calls).pending = some (command, some ticket)
        | result :: _ => answers ticket (start.told calls) = [result]
  once : ∀ ticket, (answers ticket (start.told calls)).length ≤ 1

section Fresh

variable {start : Engine} {calls : List Call}

/-- A command that is refused is answered in the same call, and never again. -/
theorem answers_of_refused (paired : Paired start) (idle : start.pending = none)
    (distinct : (tickets calls).Nodup) {earlier later : List Call} {command : Command}
    {ticket : Ticket} {refusal : Session.Refusal}
    (split : calls = earlier ++ .send command (some ticket) :: later)
    (refused : ((start.after earlier).send command (some ticket)).2 = .error refusal) :
    answers ticket ((start.after earlier).send command (some ticket)).1.notices =
        [rejection refusal] ∧
      answers ticket (start.told calls) = [rejection refusal] := by
  have unheld : start.holder = none := by simp [holder, idle]
  rw [split] at distinct ⊢
  obtain ⟨absentBefore, absentAfter⟩ := not_mem_tickets_of_distinct distinct
  have made := send_of_error refused
  have now : answers ticket ((start.after earlier).send command (some ticket)).1.notices =
      [rejection refusal] := by
    rw [made, ← List.singleton_append, answers_append, answers_settledNotice, if_pos rfl]
    rfl
  have free : (start.after earlier).holder ≠ some ticket := by
    intro holds
    rw [((holder_after_iff paired absentBefore).mp holds).1] at unheld
    cases unheld
  refine ⟨now, ?_⟩
  rw [answers_told_split paired unheld absentBefore absentAfter]
  simp only [turn]
  rw [now, made, hearing, if_neg free]
  rfl

/-- A command that is taken is answered with the first outcome of a write after it. -/
theorem answers_of_accepted (paired : Paired start) (idle : start.pending = none)
    (distinct : (tickets calls).Nodup) {earlier later : List Call} {command : Command}
    {ticket : Ticket} (split : calls = earlier ++ .send command (some ticket) :: later)
    (taken : ((start.after earlier).send command (some ticket)).2 = .ok ()) :
    answers ticket (start.told calls) =
      (((start.after earlier).send command (some ticket)).1.engine.settlements later).take 1 := by
  have unheld : start.holder = none := by simp [holder, idle]
  rw [split] at distinct ⊢
  obtain ⟨absentBefore, absentAfter⟩ := not_mem_tickets_of_distinct distinct
  obtain ⟨pending, now⟩ := send_of_ok taken
  rw [answers_told_split paired unheld absentBefore absentAfter]
  simp only [turn]
  rw [now, hearing, holder, pending]
  simp

private theorem answered_of_paired (paired : Paired start) (idle : start.pending = none)
    (distinct : (tickets calls).Nodup) : Answered start calls where
  paired := paired_after paired calls
  refused earlier command ticket later refusal split refused :=
    answers_of_refused paired idle distinct split refused
  accepted earlier command ticket later split taken := by
    have heard := answers_of_accepted paired idle distinct split taken
    have pairedThen := (step_turn _ (.send command (some ticket))).paired
      (paired_after paired earlier)
    have pending := (send_of_ok taken).1
    split
    · next unsettled =>
        refine ⟨by rw [heard, unsettled]; rfl, ?_⟩
        rw [split, after_append]
        exact pending_after pairedThen pending unsettled
    · next settled => rw [heard, settled]; rfl
  once ticket := by
    by_cases given : ticket ∈ tickets calls
    · obtain ⟨earlier, command, later, split⟩ := exists_send_of_mem_tickets given
      cases sent : ((start.after earlier).send command (some ticket)).2 with
      | ok =>
          rw [answers_of_accepted paired idle distinct split sent]
          exact List.length_take_le _ _
      | error refusal =>
          rw [(answers_of_refused paired idle distinct split sent).2]
          exact Nat.le_refl _
    · rw [answers_told paired given]
      simp [hearing, holder, idle]

end Fresh

/-- A ticket stands for one host that waits, so no ticket is given out twice. In any such run every
command is answered once, and while a command is under way the session has its write in flight. For
every write that a session accepts it tells one outcome or still has it in flight, and a call that
ends the link or the epoch under a write tells of its failure. -/
theorem answered_after (device : Device) (directory : Option Directory)
    (settings : Config.Settings) (calls : List Call) (distinct : (tickets calls).Nodup) :
    Answered (fresh device directory settings) calls ∧
      ∀ calls, Session.Accounted ((Session.fresh device settings.retry).moments calls)
        ((Session.fresh device settings.retry).after calls) :=
  ⟨answered_of_paired rfl rfl distinct, Session.accounted_after device settings.retry⟩

/-- A run in which a second command comes before the first has ended, and a third is cut off by the
end of the session. -/
def crowdedCommands : List Call :=
  [.start, .event ⟨1, .adapterState true⟩ 0, .event ⟨1, .deviceDiscovered "tag"⟩ 100,
    .event ⟨1, .connected⟩ 200, .send (.ranging true) (some 0), .send (.ranging false) (some 1),
    .event ⟨1, .writeCompleted⟩ 300, .send (.ranging false) (some 2), .disconnect]

example : [0, 1, 2].flatMap (answers · ((fresh ⟨"tag", "Tag"⟩ none {}).told crowdedCommands)) =
    [.ok (), rejection .writeInProgress, .error Session.Turn.superseded] := rfl

theorem answered_after_crowdedCommands :
    (tickets crowdedCommands).Nodup ∧
      Answered (fresh ⟨"tag", "Tag"⟩ none {}) crowdedCommands :=
  have distinct : (tickets crowdedCommands).Nodup := by decide
  ⟨distinct, (answered_after _ _ _ _ distinct).1⟩

end Engine

end TagFix
