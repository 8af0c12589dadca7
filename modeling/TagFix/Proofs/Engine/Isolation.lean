import TagFix.Proofs.Engine.Notices
import TagFix.Proofs.Session.Payloads
import TagFix.Proofs.Session.Queue

/-!
# Payloads and the session

What a payload holds decides what the host is told of it, by the directory of the moment, and
nothing else: neither the session nor the commands can tell one payload from another. The main
statement is `isolated_after`.
-/

namespace TagFix

open Link (Failure Operation)
open Session (Output Refusal)
open Telemetry (DecodeFault Outcome)

namespace Engine

/-! ## What is told of payloads -/

/-- What a call brings to the engine: the outcome of the read that its session waits for. -/
def arrival? (engine : Engine) (call : Call) : Option (List UInt8) :=
  call.forSession?.bind engine.session.arrival?

/-- A payload, and the engine that it found. -/
structure Arrival where
  engine : Engine
  data : List UInt8

def arrivals (engine : Engine) : List Call → List Arrival
  | [] => []
  | call :: calls =>
      (engine.arrival? call).toList.map (Arrival.mk engine) ++
        (engine.turn call).engine.arrivals calls

/-- What the host is told of what a payload comes to: a position is told twice, in words and as a
report, what is forwarded is handed on, and what cannot be read or solved is a matter of status. -/
inductive Reported (device : Device) : Except DecodeFault Outcome → List Notice → Prop
  | position (fix : Position.Fix) (text : String) :
      Reported device (.ok (.position fix)) [.location text, .position (.of device fix)]
  | noRanges (text : String) : Reported device (.ok .noRanges) [.location text]
  | directoryUnavailable (text : String) :
      Reported device (.ok .directoryUnavailable) [.location text]
  | insufficientRanges (valid required : Nat) (text : String) :
      Reported device (.ok (.insufficientRanges valid required)) [.location text]
  | forwarded (reasonCode : UInt8) (payload : List UInt8) :
      Reported device (.ok (.forwarded reasonCode payload)) [.forwarded reasonCode payload]
  | solveFailed (failure : Position.SolveFailure Float) (text : String) :
      Reported device (.ok (.solveFailed failure)) [.status text]
  | undecodable (fault : DecodeFault) (text : String) :
      Reported device (.error fault) [.status text]

private theorem reported_outcomeNotices (device : Device) (result : Except DecodeFault Outcome) :
    Reported device result (outcomeNotices device result) := by
  cases result with
  | error fault => exact .undecodable fault _
  | ok outcome => cases outcome <;> constructor

section Calls

variable {engine : Engine} {call : Call}

private theorem payloads_sessionOutputs (engine : Engine) (call : Call) :
    Session.payloads (engine.sessionOutputs [call]) = (engine.arrival? call).toList := by
  cases asked : call.forSession? with
  | none => simp [sessionOutputs, arrival?, asked, Session.outputsIn, Session.payloads]
  | some inner =>
      have told := (Session.move_turn engine.session inner).payloads.1
      rw [sessionOutputs_of_asked asked, told, arrival?, asked, Option.bind_some]

/-- Nothing else than a payload makes an engine tell of data. -/
theorem isData_eq_false_of_arrival? (unasked : engine.arrival? call = none) :
    ∀ notice ∈ (engine.turn call).notices, notice.isData = false := by
  have none := payloads_sessionOutputs engine call
  rw [unasked, Option.toList_none, Session.payloads, List.filterMap_eq_nil_iff] at none
  have untold : ∀ notice ∈ engine.told [call], notice.isData = false := by
    apply isData_eq_false_of_told
    rintro output told data rfl
    cases none _ told
  simpa [told] using untold

private theorem exists_readCompleted {data : List UInt8}
    (arrived : engine.arrival? call = some data) :
    ∃ now, call = .event ⟨engine.session.epoch, .readCompleted data⟩ now ∧
      engine.session.phase = .awaitingRead := by
  obtain ⟨inner, asked, brings⟩ := Option.bind_eq_some_iff.mp arrived
  unfold Session.arrival? at brings
  split at brings
  · split at brings
    · next fits =>
        obtain ⟨rfl, phase⟩ := fits
        cases brings
        cases call <;> cases asked
        exact ⟨_, rfl, phase⟩
    · cases brings
  · cases brings

/-- Of a payload the host is told what it comes to, in between the changes of phase. -/
theorem notices_of_arrival {data : List UInt8} (arrived : engine.arrival? call = some data) :
    (engine.turn call).notices = .phaseChanged .awaitingRead .subscribed ::
      engine.payloadNotices data ++
        if engine.session.notificationPending then [.phaseChanged .subscribed .awaitingRead]
        else [] := by
  obtain ⟨now, rfl, phase⟩ := exists_readCompleted arrived
  have made := Session.turn_readCompleted engine.session engine.session.epoch data now
  have awaited : engine.session.epoch = engine.session.epoch ∧
      engine.session.phase = .awaitingRead := ⟨rfl, phase⟩
  have dispatched : engine.turn (.event ⟨engine.session.epoch, .readCompleted data⟩ now) =
      engine.dispatch
        (engine.session.turn (.event ⟨engine.session.epoch, .readCompleted data⟩ now)) := rfl
  rw [dispatched, made, if_pos awaited]
  cases engine.session.notificationPending with
  | false => simp [dispatch, Turn.pass, payloadNotices]
  | true => simp [dispatch, Turn.pass, payloadNotices]

private theorem Step.keeps {turn : Turn} (step : Step engine call turn) :
    turn.engine.minRanges = engine.minRanges ∧ turn.engine.solver = engine.solver ∧
      turn.engine.session.device = engine.session.device := by
  have device : turn.engine.session.device = engine.session.device := by
    rw [step.session_eq]
    cases asked : call.forSession? with
    | none => simp [asked, Session.after]
    | some inner =>
        have kept := (Session.move_turn engine.session inner).device_eq
        simpa [asked, Session.after] using kept
  cases step with
  | dispatched =>
      rw [dispatch_engine] at device ⊢
      exact ⟨rfl, rfl, device⟩
  | taken | refused | loaded => exact ⟨rfl, rfl, device⟩

end Calls

/-! ## The payloads of a run -/

def Arrival.notices (arrival : Arrival) : List Notice :=
  arrival.engine.payloadNotices arrival.data

section Runs

variable {engine : Engine} {calls : List Call}

/-- No call changes the settings of the solver or the device. -/
theorem keeps_after (engine : Engine) (calls : List Call) :
    (engine.after calls).minRanges = engine.minRanges ∧
      (engine.after calls).solver = engine.solver ∧
        (engine.after calls).session.device = engine.session.device := by
  induction calls generalizing engine with
  | nil => exact ⟨rfl, rfl, rfl⟩
  | cons call rest inductionHypothesis =>
      obtain ⟨minRanges, solver, device⟩ := (step_turn engine call).keeps
      obtain ⟨minRangesThen, solverThen, deviceThen⟩ :=
        inductionHypothesis (engine.turn call).engine
      exact ⟨minRangesThen.trans minRanges, solverThen.trans solver, deviceThen.trans device⟩

private theorem payloads_eq_map_arrivals (engine : Engine) (calls : List Call) :
    Session.payloads (engine.sessionOutputs calls) =
      (engine.arrivals calls).map Arrival.data := by
  induction calls generalizing engine with
  | nil => rfl
  | cons call rest inductionHypothesis =>
      rw [sessionOutputs_cons, Session.payloads_append, payloads_sessionOutputs,
        inductionHypothesis, arrivals, List.map_append]
      cases engine.arrival? call <;> rfl

private theorem payloads_after (engine : Engine) (calls : List Call) :
    (engine.after calls).session.counters.payloads =
      engine.session.counters.payloads + (engine.arrivals calls).length := by
  induction calls generalizing engine with
  | nil => rfl
  | cons call rest inductionHypothesis =>
      have now : (engine.turn call).engine.session.counters.payloads =
          engine.session.counters.payloads + (engine.arrival? call).toList.length := by
        rw [(step_turn engine call).session_eq, arrival?]
        cases asked : call.forSession? with
        | none => simp [asked]
        | some inner =>
            have counted := (Session.move_turn engine.session inner).payloads.2
            simpa [asked, Session.after] using counted
      have later := inductionHypothesis (engine.turn call).engine
      rw [now] at later
      rw [arrivals, List.length_append, List.length_map, ← Nat.add_assoc]
      exact later

private theorem filter_isData_of_turn (engine : Engine) (call : Call) :
    (engine.turn call).notices.filter Notice.isData =
      ((engine.arrival? call).toList.map (Arrival.mk engine)).flatMap fun arrival =>
        arrival.notices.filter Notice.isData := by
  cases arrived : engine.arrival? call with
  | none =>
      have untold := isData_eq_false_of_arrival? arrived
      simpa using untold
  | some data =>
      rw [notices_of_arrival arrived]
      cases engine.session.notificationPending <;>
        simp [Notice.isData, Arrival.notices]

private theorem filter_told_isData (engine : Engine) (calls : List Call) :
    (engine.told calls).filter Notice.isData =
      (engine.arrivals calls).flatMap fun arrival => arrival.notices.filter Notice.isData := by
  induction calls generalizing engine with
  | nil => rfl
  | cons call rest inductionHypothesis =>
      rw [told, List.filter_append, filter_isData_of_turn, inductionHypothesis, arrivals,
        List.flatMap_append]

/-- How the payloads of a run are dealt with: each that arrives is told of by the session once and
counted, and is all that the host is told data of. A call that brings one has the host told what it
comes to by the directory of the moment, and no other call tells of data. -/
structure Delivered (start : Engine) (calls : List Call) : Prop where
  payloads : Session.payloads (start.sessionOutputs calls) =
    (start.arrivals calls).map Arrival.data
  counted : (start.after calls).session.counters.payloads = (start.arrivals calls).length
  data : (start.told calls).filter Notice.isData =
    (start.arrivals calls).flatMap fun arrival => arrival.notices.filter Notice.isData
  arrived : ∀ call data, (start.after calls).arrival? call = some data →
    let arrival := Arrival.mk (start.after calls) data
    Reported start.session.device
        (Telemetry.process start.minRanges start.solver (start.after calls).directory data)
        arrival.notices ∧
      ((start.after calls).turn call).notices = .phaseChanged .awaitingRead .subscribed ::
        arrival.notices ++
          if (start.after calls).session.notificationPending then
            [.phaseChanged .subscribed .awaitingRead]
          else []
  unprompted : ∀ call, (start.after calls).arrival? call = none →
    ∀ notice ∈ ((start.after calls).turn call).notices, notice.isData = false

private theorem delivered_of_uncounted (uncounted : engine.session.counters.payloads = 0)
    (calls : List Call) : Delivered engine calls := by
  constructor
  case payloads => exact payloads_eq_map_arrivals engine calls
  case counted => rw [payloads_after, uncounted, Nat.zero_add]
  case data => exact filter_told_isData engine calls
  case arrived =>
    intro call data arrived
    obtain ⟨minRanges, solver, device⟩ := keeps_after engine calls
    refine ⟨?_, notices_of_arrival arrived⟩
    rw [← minRanges, ← solver, ← device]
    exact reported_outcomeNotices _ _
  case unprompted =>
    intro call unasked
    exact isData_eq_false_of_arrival? unasked

end Runs

/-! ## Two runs -/

/-- The call without what a payload holds; putting a directory in place is left out. -/
def Call.bare? : Call → Option Call
  | .load _ => none
  | .event ⟨epoch, .readCompleted _⟩ now => some (.event ⟨epoch, .readCompleted []⟩ now)
  | call => some call

/-- Whether a notice tells how the session or a command fares. -/
def Notice.isConduct : Notice → Bool
  | .phaseChanged .. | .settled .. => true
  | _ => false

def reply? (engine : Engine) : Call → Option (Except Refusal Unit)
  | .send command ticket => some (engine.send command ticket).2
  | _ => none

/-- What a call comes to for the session and the commands: the session afterwards, with its phase,
epoch and deadline, the operations that were issued, the changes of phase and the outcomes of writes
that the host is told, and the answer to a command. -/
structure Conduct where
  session : Session
  issued : List Operation
  notices : List Notice
  reply : Option (Except Refusal Unit)

def conduct (engine : Engine) : List Call → List Conduct
  | [] => []
  | .load directory :: calls => (engine.turn (.load directory)).engine.conduct calls
  | call :: calls =>
      ⟨(engine.turn call).engine.session, (engine.turn call).issued,
          (engine.turn call).notices.filter Notice.isConduct, engine.reply? call⟩ ::
        (engine.turn call).engine.conduct calls

/-- That engines differ at most in the directory and the settings of the solver. -/
structure Alike (engine other : Engine) : Prop where
  session : engine.session = other.session
  pending : engine.pending = other.pending

/-- That turns differ at most in these, and in what the host is told of payloads. -/
structure Turn.Agrees (turn other : Turn) : Prop where
  alike : Alike turn.engine other.engine
  issued : turn.issued = other.issued
  notices : turn.notices.filter Notice.isConduct = other.notices.filter Notice.isConduct

section Agreement

private theorem filter_payloadNotices_isConduct (engine : Engine) (payload : List UInt8) :
    (engine.payloadNotices payload).filter Notice.isConduct = [] := by
  unfold payloadNotices outcomeNotices
  split <;> rfl

private theorem Alike.writeNotices_eq {engine other : Engine} (alike : Alike engine other)
    (result : Except Failure Unit) : engine.writeNotices result = other.writeNotices result := by
  unfold writeNotices
  rw [alike.pending]

private theorem Turn.Agrees.pass {turn other : Turn} (agrees : turn.Agrees other)
    {output otherOutput : Output} (same : output.bare = otherOutput.bare) :
    (turn.pass output).Agrees (other.pass otherOutput) := by
  obtain ⟨alike, issued, notices⟩ := agrees
  cases output with
  | payload data =>
      cases otherOutput with
      | payload otherData =>
          refine ⟨alike, issued, ?_⟩
          simp only [Turn.pass, List.filter_append, filter_payloadNotices_isConduct, notices]
      | _ => cases same
  | writeFinished result =>
      cases otherOutput with
      | writeFinished =>
          cases same
          refine ⟨⟨alike.session, rfl⟩, issued, ?_⟩
          simp only [Turn.pass, List.filter_append, notices, alike.writeNotices_eq]
      | _ => cases same
  | phaseChanged =>
      cases otherOutput with
      | phaseChanged =>
          cases same
          refine ⟨alike, issued, ?_⟩
          simp only [Turn.pass, List.filter_append, notices]
      | _ => cases same
  | status =>
      cases otherOutput with
      | status =>
          cases same
          refine ⟨alike, issued, ?_⟩
          simp only [Turn.pass, List.filter_append, notices]
      | _ => cases same
  | faulted =>
      cases otherOutput with
      | faulted =>
          cases same
          exact ⟨alike, issued, notices⟩
      | _ => cases same

private theorem Turn.Agrees.foldl_pass {turn other : Turn} (agrees : turn.Agrees other)
    {outputs otherOutputs : List Output}
    (same : outputs.map Output.bare = otherOutputs.map Output.bare) :
    (outputs.foldl Turn.pass turn).Agrees (otherOutputs.foldl Turn.pass other) := by
  induction outputs generalizing turn other otherOutputs with
  | nil =>
      have none : otherOutputs = [] := by simpa using same.symm
      rw [none]
      exact agrees
  | cons output rest inductionHypothesis =>
      cases otherOutputs with
      | nil => cases same
      | cons otherOutput otherRest =>
          simp only [List.map_cons, List.cons.injEq] at same
          exact inductionHypothesis (agrees.pass same.1) same.2

variable {engine other : Engine} (alike : Alike engine other)

include alike

private theorem Alike.dispatch {turn otherTurn : Session.Turn}
    (session : turn.session = otherTurn.session) (issued : turn.issued = otherTurn.issued)
    (outputs : turn.outputs.map Output.bare = otherTurn.outputs.map Output.bare) :
    (engine.dispatch turn).Agrees (other.dispatch otherTurn) := by
  apply Turn.Agrees.foldl_pass _ outputs
  exact ⟨⟨session, alike.pending⟩, issued, rfl⟩

private theorem Alike.dispatch_turn (inner : Session.Call) :
    (engine.dispatch (engine.session.turn inner)).Agrees
      (other.dispatch (other.session.turn inner)) := by
  rw [alike.session]
  exact alike.dispatch rfl rfl rfl

private theorem Alike.send (command : Command) (ticket : Option Ticket) :
    (engine.send command ticket).1.Agrees (other.send command ticket).1 ∧
      (engine.send command ticket).2 = (other.send command ticket).2 := by
  unfold Engine.send
  rw [alike.session]
  cases other.session.write command.characteristic command.encode with
  | ok turn =>
      have agrees : (engine.dispatch turn).Agrees (other.dispatch turn) :=
        alike.dispatch rfl rfl rfl
      obtain ⟨⟨session, -⟩, issued, notices⟩ := agrees
      exact ⟨⟨⟨session, rfl⟩, issued, notices⟩, rfl⟩
  | error refusal => exact ⟨⟨alike, rfl, rfl⟩, rfl⟩

/-- A call comes to the same for engines that are alike, whatever a payload that it brings holds. -/
theorem Alike.turn {call bare : Call} (stripped : call.bare? = some bare) :
    (engine.turn call).Agrees (other.turn bare) ∧ engine.reply? call = other.reply? bare := by
  cases call with
  | load => cases stripped
  | start =>
      cases stripped
      exact ⟨alike.dispatch_turn .start, rfl⟩
  | disconnect =>
      cases stripped
      exact ⟨alike.dispatch_turn .disconnect, rfl⟩
  | poll now =>
      cases stripped
      exact ⟨alike.dispatch_turn (.poll now), rfl⟩
  | send command ticket =>
      cases stripped
      obtain ⟨agrees, same⟩ := alike.send command ticket
      exact ⟨agrees, congrArg some same⟩
  | event signalled now =>
      obtain ⟨epoch, signal⟩ := signalled
      cases signal with
      | readCompleted data =>
          cases stripped
          obtain ⟨session, issued, outputs⟩ :=
            Session.turn_readCompleted_bare engine.session epoch data [] now
          have agrees : (engine.turn (.event ⟨epoch, .readCompleted data⟩ now)).Agrees
              (other.dispatch (engine.session.turn (.event ⟨epoch, .readCompleted []⟩ now))) :=
            alike.dispatch session issued outputs
          rw [alike.session] at agrees
          exact ⟨agrees, rfl⟩
      | _ =>
          cases stripped
          exact ⟨alike.dispatch_turn (.event _ now), rfl⟩

end Agreement

/-- A run comes to what it comes to without the contents of payloads and without directories. -/
theorem conduct_eq_bare {engine other : Engine} (alike : Alike engine other) (calls : List Call) :
    engine.conduct calls = other.conduct (calls.filterMap Call.bare?) := by
  -- One run leaves out the loads of the other, so the induction is on the calls as they were made.
  induction calls generalizing engine other with
  | nil => rfl
  | cons call rest inductionHypothesis =>
      cases stripped : call.bare? with
      | none =>
          rw [List.filterMap_cons_none stripped]
          cases call with
          | load directory => exact inductionHypothesis ⟨alike.session, alike.pending⟩
          | event signalled now =>
              obtain ⟨epoch, signal⟩ := signalled
              cases signal <;> cases stripped
          | _ => cases stripped
      | some bare =>
          obtain ⟨⟨onward, issued, notices⟩, reply⟩ := alike.turn stripped
          have later := inductionHypothesis onward
          have heeded : engine.conduct (call :: rest) =
              ⟨(engine.turn call).engine.session, (engine.turn call).issued,
                (engine.turn call).notices.filter Notice.isConduct, engine.reply? call⟩ ::
                  (engine.turn call).engine.conduct rest := by
            cases call <;> first | rfl | cases stripped
          rw [List.filterMap_cons_some stripped, heeded, later, onward.session, issued, notices,
            reply]
          cases call with
          | load => cases stripped
          | event signalled now =>
              obtain ⟨epoch, signal⟩ := signalled
              cases signal <;> cases stripped <;> rfl
          | _ =>
              cases stripped
              rfl

/-- Every payload that arrives is dealt with once, by the directory of the moment, and nothing else
tells of data. Two runs that differ only in what payloads hold, in the directories and when they are
put in place, and in the settings of the solver, come to the same for the session and the commands,
call by call. -/
theorem isolated_after (device : Device) (directory : Option Directory)
    (settings : Config.Settings) :
    (∀ calls, Delivered (fresh device directory settings) calls) ∧
      ∀ (otherDirectory : Option Directory) (otherSettings : Config.Settings)
        (calls otherCalls : List Call), settings.retry = otherSettings.retry →
          calls.filterMap Call.bare? = otherCalls.filterMap Call.bare? →
            (fresh device directory settings).conduct calls =
              (fresh device otherDirectory otherSettings).conduct otherCalls := by
  constructor
  · exact delivered_of_uncounted rfl
  · intro otherDirectory otherSettings calls otherCalls retry same
    have alike : Alike (fresh device directory settings)
        (fresh device otherDirectory otherSettings) := by
      constructor
      · simp only [fresh, retry]
      · rfl
    rw [conduct_eq_bare alike, same, ← conduct_eq_bare ⟨rfl, rfl⟩]

def commandedRead (payload : List UInt8) : List Call :=
  cutOffRead ++ [.send (.ranging true) (some 0), .event ⟨1, .readCompleted payload⟩ 500,
    .event ⟨1, .writeCompleted⟩ 600]

/-- The same with a directory that comes too late for the report. -/
def lateDirectory : List Call :=
  commandedRead [1, 1, 8, 7, 6, 5, 4, 3, 2, 1, 232, 3, 0, 0] ++
    [.load (some (Table.ofList [(⟨#v[1, 2, 3, 4, 5, 6, 7, 8]⟩, ⟨0, 0, 0⟩)]))]

theorem isolated_after_lateDirectory :
    let settings : Config.Settings := { minRanges := 5, solver := { maxIterations := 1 } }
    ({} : Config.Settings).retry = settings.retry ∧
      (commandedRead []).filterMap Call.bare? = lateDirectory.filterMap Call.bare? ∧
        (fresh ⟨"tag", "Tag"⟩ none {}).conduct (commandedRead []) =
          (fresh ⟨"tag", "Tag"⟩ (some Table.empty) settings).conduct lateDirectory :=
  ⟨rfl, rfl, (isolated_after _ _ _).2 _ _ _ _ rfl rfl⟩

end Engine

end TagFix
