import TagFix.Engine.Machine
import TagFix.Proofs.Session.Writes

/-!
# Runs of an engine

A run of an engine is a run of its session, with notices made of what the session tells. A directory
may be put in place at any time.
-/

namespace TagFix

open Link (Event Failure)
open Session (Output outputsIn writeResults)

namespace Engine

/-- A call of an engine, or a new directory in the meantime. -/
inductive Call
  | start
  | disconnect
  | send (command : Command) (ticket : Option Ticket)
  | event (event : Event) (now : Nat)
  | poll (now : Nat)
  | load (directory : Option Directory)

def turn (engine : Engine) : Call → Turn
  | .start => engine.start
  | .disconnect => engine.disconnect
  | .send command ticket => (engine.send command ticket).1
  | .event signalled now => engine.handle signalled now
  | .poll now => engine.poll now
  | .load directory => ⟨{ engine with directory }, [], []⟩

def after (engine : Engine) (calls : List Call) : Engine :=
  calls.foldl (fun engine call => (engine.turn call).engine) engine

def told (engine : Engine) : List Call → List Notice
  | [] => []
  | call :: calls => (engine.turn call).notices ++ (engine.turn call).engine.told calls

/-- The call that an engine makes of its session. -/
def Call.forSession? : Call → Option Session.Call
  | .start => some .start
  | .disconnect => some .disconnect
  | .send command _ => some (.write command.characteristic command.encode)
  | .event signalled now => some (.event signalled now)
  | .poll now => some (.poll now)
  | .load _ => none

/-- The outcomes of writes that the session tells in a sequence of calls. -/
def settlements (engine : Engine) (calls : List Call) : List (Except Failure Unit) :=
  writeResults (outputsIn (engine.session.moments (calls.filterMap Call.forSession?)))

theorem after_append (engine : Engine) (earlier later : List Call) :
    engine.after (earlier ++ later) = (engine.after earlier).after later :=
  List.foldl_append

theorem told_append (engine : Engine) (earlier later : List Call) :
    engine.told (earlier ++ later) = engine.told earlier ++ (engine.after earlier).told later := by
  induction earlier generalizing engine with
  | nil => rfl
  | cons call rest inductionHypothesis =>
      simp only [List.cons_append, told, inductionHypothesis, List.append_assoc]
      rfl

/-! ## What an engine makes of a turn of its session -/

/-- The ticket whose outcome is yet to come. -/
def holder (engine : Engine) : Option Ticket :=
  engine.pending.bind Prod.snd

def answers (ticket : Ticket) (notices : List Notice) : List (Except Failure Unit) :=
  notices.filterMap fun
    | .settled other result => if other = ticket then some result else none
    | _ => none

theorem answers_append (ticket : Ticket) (earlier later : List Notice) :
    answers ticket (earlier ++ later) = answers ticket earlier ++ answers ticket later :=
  List.filterMap_append

/-- The engine once outcomes of writes are told: the first of them ends the command under way. -/
def settle (engine : Engine) (results : List (Except Failure Unit)) : Engine :=
  { engine with pending := if results = [] then engine.pending else none }

/-- What the host of a ticket hears of outcomes of writes: the first of them, if it waits. -/
def hearing (engine : Engine) (ticket : Ticket) (results : List (Except Failure Unit)) :
    List (Except Failure Unit) :=
  if engine.holder = some ticket then results.take 1 else []

section Dispatch

variable {engine : Engine} {ticket : Ticket}

@[simp]
theorem settle_nil : engine.settle [] = engine := rfl

theorem settle_append (earlier later : List (Except Failure Unit)) :
    engine.settle (earlier ++ later) = (engine.settle earlier).settle later := by
  cases earlier with
  | nil => rfl
  | cons => cases later <;> rfl

theorem hearing_append (earlier later : List (Except Failure Unit)) :
    engine.hearing ticket (earlier ++ later) =
      engine.hearing ticket earlier ++ (engine.settle earlier).hearing ticket later := by
  cases earlier with
  | nil =>
      rw [List.nil_append, settle_nil]
      simp [hearing]
  | cons => simp [hearing, settle, holder]

private theorem answers_payloadNotices (payload : List UInt8) :
    answers ticket (engine.payloadNotices payload) = [] := by
  unfold payloadNotices outcomeNotices
  split <;> rfl

theorem answers_settledNotice (other : Option Ticket) (result : Except Failure Unit) :
    answers ticket (settledNotice other result) = if other = some ticket then [result] else [] := by
  cases other with
  | none => rfl
  | some other => by_cases same : other = ticket <;> simp [answers, settledNotice, same]

private theorem answers_writeNotices (result : Except Failure Unit) :
    answers ticket (engine.writeNotices result) = engine.hearing ticket [result] := by
  unfold writeNotices hearing holder
  cases engine.pending with
  | none => rfl
  | some pending =>
      obtain ⟨command, other⟩ := pending
      exact answers_settledNotice other result

theorem writeResults_cons (output : Output) (rest : List Output) :
    writeResults (output :: rest) = writeResults [output] ++ writeResults rest :=
  Session.writeResults_append [output] rest

private theorem pass_engine (turn : Turn) (output : Output) :
    (turn.pass output).engine = turn.engine.settle (writeResults [output]) := by
  cases output <;> rfl

private theorem answers_pass (turn : Turn) (output : Output) :
    answers ticket (turn.pass output).notices =
      answers ticket turn.notices ++ turn.engine.hearing ticket (writeResults [output]) := by
  cases output with
  | phaseChanged | status =>
      rw [Turn.pass, answers_append]
      simp [answers, writeResults, hearing]
  | payload data =>
      rw [Turn.pass, answers_append, answers_payloadNotices]
      simp [writeResults, hearing]
  | writeFinished result =>
      rw [Turn.pass, answers_append, answers_writeNotices]
      rfl
  | faulted => simp [Turn.pass, writeResults, hearing]

private theorem foldl_pass_engine (turn : Turn) (outputs : List Output) :
    (outputs.foldl Turn.pass turn).engine = turn.engine.settle (writeResults outputs) := by
  induction outputs generalizing turn with
  | nil => rfl
  | cons output rest inductionHypothesis =>
      rw [List.foldl_cons, inductionHypothesis, pass_engine, ← settle_append, ← writeResults_cons]

private theorem answers_foldl_pass (turn : Turn) (outputs : List Output) :
    answers ticket (outputs.foldl Turn.pass turn).notices =
      answers ticket turn.notices ++ turn.engine.hearing ticket (writeResults outputs) := by
  induction outputs generalizing turn with
  | nil => simp [writeResults, hearing, answers]
  | cons output rest inductionHypothesis =>
      rw [List.foldl_cons, inductionHypothesis, answers_pass, pass_engine, List.append_assoc,
        ← hearing_append, ← writeResults_cons]

theorem dispatch_engine (turn : Session.Turn) :
    (engine.dispatch turn).engine =
      { engine with session := turn.session }.settle (writeResults turn.outputs) :=
  foldl_pass_engine _ _

/-- A host that waits hears the first outcome that the session tells, and no other. -/
theorem answers_dispatch (turn : Session.Turn) :
    answers ticket (engine.dispatch turn).notices =
      engine.hearing ticket (writeResults turn.outputs) :=
  answers_foldl_pass _ _

end Dispatch

end Engine

end TagFix
