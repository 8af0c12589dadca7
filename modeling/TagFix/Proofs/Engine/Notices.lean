import TagFix.Proofs.Engine.Commands
import TagFix.Proofs.Session.Rest

/-!
# What the host hears of a session

The host hears of every change of phase, in order, and of nothing that comes in between a
disconnection and the next start. The main statements are `lifecycle_after` and `silent_after`.
-/

namespace TagFix

open Session (Change Output Silent Unbroken changes outputsIn)

namespace Engine

/-! ## Notices of one kind -/

def sessionOutputs (engine : Engine) (calls : List Call) : List Output :=
  outputsIn (engine.session.moments (calls.filterMap Call.forSession?))

theorem sessionOutputs_append (engine : Engine) (earlier later : List Call) :
    engine.sessionOutputs (earlier ++ later) =
      engine.sessionOutputs earlier ++ (engine.after earlier).sessionOutputs later := by
  unfold sessionOutputs
  rw [List.filterMap_append, Session.outputsIn_moments_append, session_after]

theorem sessionOutputs_cons (engine : Engine) (call : Call) (rest : List Call) :
    engine.sessionOutputs (call :: rest) =
      engine.sessionOutputs [call] ++ (engine.turn call).engine.sessionOutputs rest :=
  engine.sessionOutputs_append [call] rest

theorem sessionOutputs_of_asked {engine : Engine} {call : Call} {inner : Session.Call}
    (asked : call.forSession? = some inner) :
    engine.sessionOutputs [call] = (engine.session.turn inner).outputs := by
  simp [sessionOutputs, asked, Session.moments, outputsIn, Session.Moment.turn]

private theorem sessionOutputs_send (engine : Engine) (command : Command) (holder : Option Ticket) :
    engine.sessionOutputs [.send command holder] = [] := by
  rw [sessionOutputs_of_asked rfl, Session.turn]
  split
  · next written => rw [(Session.of_write_eq_ok written).2.2]
  · rfl

/-- That the notices of a kind which an output gives do not depend on the engine. -/
def Gives (kind : Notice → Bool) (notices : Output → List Notice) (output : Output) : Prop :=
  ∀ turn : Turn, (turn.pass output).notices.filter kind = turn.notices.filter kind ++ notices output

section Kinds

variable {kind : Notice → Bool} {notices : Output → List Notice}

private theorem filter_foldl_pass {outputs : List Output}
    (gives : ∀ output ∈ outputs, Gives kind notices output) (turn : Turn) :
    (outputs.foldl Turn.pass turn).notices.filter kind =
      turn.notices.filter kind ++ outputs.flatMap notices := by
  induction outputs generalizing turn with
  | nil => simp
  | cons output rest inductionHypothesis =>
      rw [List.forall_mem_cons] at gives
      rw [List.foldl_cons, inductionHypothesis gives.2, gives.1, List.flatMap_cons,
        List.append_assoc]

variable {engine : Engine} (unsent : kind (.status notSent) = false)
  (unsettled : ∀ ticket result, kind (.settled ticket result) = false)

include unsent unsettled

private theorem filter_refused (holder : Option Ticket) (result : Except Link.Failure Unit) :
    (Notice.status notSent :: settledNotice holder result).filter kind = [] := by
  cases holder <;> simp [settledNotice, unsent, unsettled]

private theorem Step.filter_notices {call : Call} {turn : Turn} (step : Step engine call turn)
    (gives : ∀ output ∈ engine.sessionOutputs [call], Gives kind notices output) :
    turn.notices.filter kind = (engine.sessionOutputs [call]).flatMap notices := by
  cases step with
  | dispatched inner asked =>
      rw [sessionOutputs_of_asked asked] at gives ⊢
      exact filter_foldl_pass gives _
  | taken command holder written =>
      rw [sessionOutputs_send, dispatch, (Session.of_write_eq_ok written).2.2]
      rfl
  | refused command holder unwritten =>
      rw [sessionOutputs_send]
      exact filter_refused unsent unsettled holder _
  | loaded => rfl

/-- The notices of a kind that the host hears are those which the outputs of the session give. -/
theorem filter_told {calls : List Call}
    (gives : ∀ output ∈ engine.sessionOutputs calls, Gives kind notices output) :
    (engine.told calls).filter kind = (engine.sessionOutputs calls).flatMap notices := by
  induction calls generalizing engine with
  | nil => rfl
  | cons call rest inductionHypothesis =>
      have step := step_turn engine call
      rw [sessionOutputs_cons, List.forall_mem_append] at gives
      rw [told, List.filter_append, step.filter_notices unsent unsettled gives.1,
        inductionHypothesis gives.2, sessionOutputs_cons engine call rest,
        List.flatMap_append]

end Kinds

/-! ## Changes of phase -/

def Notice.isPhaseChange : Notice → Bool
  | .phaseChanged .. => true
  | _ => false

def changeNotice (change : Change) : Notice :=
  .phaseChanged change.before change.after

private theorem filter_payloadNotices_isPhaseChange (engine : Engine) (payload : List UInt8) :
    (engine.payloadNotices payload).filter Notice.isPhaseChange = [] := by
  unfold payloadNotices outcomeNotices
  split <;> rfl

private theorem filter_writeNotices (kind : Notice → Bool)
    (untexted : ∀ text, kind (.status text) = false)
    (unsettled : ∀ ticket result, kind (.settled ticket result) = false) (engine : Engine)
    (result : Except Link.Failure Unit) : (engine.writeNotices result).filter kind = [] := by
  unfold writeNotices
  cases engine.pending with
  | none => rfl
  | some pending =>
      obtain ⟨command, holder⟩ := pending
      cases holder <;> simp [settledNotice, untexted, unsettled]

private theorem gives_isPhaseChange (output : Output) :
    Gives Notice.isPhaseChange (fun output => (changes [output]).map changeNotice) output := by
  intro turn
  cases output with
  | phaseChanged | status => simp [Turn.pass, Notice.isPhaseChange, changes, Output.change?,
      changeNotice]
  | payload data =>
      simp [Turn.pass, filter_payloadNotices_isPhaseChange, changes, Output.change?]
  | writeFinished result =>
      have untold := filter_writeNotices Notice.isPhaseChange (fun _ => rfl)
        (fun _ _ => rfl) turn.engine result
      simp [Turn.pass, untold, changes, Output.change?]
  | faulted => simp [Turn.pass, changes, Output.change?]

private theorem filter_told_isPhaseChange (engine : Engine) (calls : List Call) :
    (engine.told calls).filter Notice.isPhaseChange =
      (changes (engine.sessionOutputs calls)).map changeNotice := by
  rw [filter_told rfl (fun _ _ => rfl) fun output _ => gives_isPhaseChange output]
  generalize engine.sessionOutputs calls = outputs
  induction outputs with
  | nil => rfl
  | cons output rest inductionHypothesis =>
      rw [List.flatMap_cons, inductionHypothesis, ← List.map_append, ← Session.changes_append,
        List.singleton_append]

/-- The changes of phase of a run fit together without a gap and are such as the lifecycle has, and
the host hears of each of them, in order and of no others. -/
theorem lifecycle_after (device : Device) (directory : Option Directory)
    (settings : Config.Settings) :
    (∀ calls : List Session.Call,
        Unbroken ((Session.fresh device settings.retry).moments calls)
          ((Session.fresh device settings.retry).after calls)) ∧
      ∀ calls : List Call,
        Unbroken ((Session.fresh device settings.retry).moments
            (calls.filterMap Call.forSession?))
          ((fresh device directory settings).after calls).session ∧
        ((fresh device directory settings).told calls).filter Notice.isPhaseChange =
          (changes ((fresh device directory settings).sessionOutputs calls)).map changeNotice := by
  refine ⟨Session.unbroken_after device settings.retry, ?_⟩
  intro calls
  refine ⟨?_, filter_told_isPhaseChange _ calls⟩
  rw [session_after]
  exact Session.unbroken_after device settings.retry (calls.filterMap Call.forSession?)

/-! ## Data -/

/-- Whether a notice tells what a payload has brought: where the tag is, why that is not known, or
what is forwarded. -/
def Notice.isData : Notice → Bool
  | .location _ | .position _ | .forwarded .. => true
  | _ => false

private theorem gives_isData {output : Output} (empty : ∀ data, output ≠ .payload data) :
    Gives Notice.isData (fun _ => []) output := by
  intro turn
  cases output with
  | phaseChanged | status => simp [Turn.pass, Notice.isData]
  | payload data => exact absurd rfl (empty data)
  | writeFinished result =>
      have untold := filter_writeNotices Notice.isData (fun _ => rfl)
        (fun _ _ => rfl) turn.engine result
      simp [Turn.pass, untold]
  | faulted => simp [Turn.pass]

theorem isData_eq_false_of_told {engine : Engine} {calls : List Call}
    (empty : ∀ output ∈ engine.sessionOutputs calls, ∀ data, output ≠ .payload data) :
    ∀ notice ∈ engine.told calls, notice.isData = false := by
  have none := filter_told rfl (fun _ _ => rfl) fun output told => gives_isData (empty output told)
  rw [List.flatMap_eq_nil_iff.mpr fun _ _ => rfl, List.filter_eq_nil_iff] at none
  simpa using none

private theorem start_mem_of_forSession? {calls : List Call}
    (started : .start ∈ calls.filterMap Call.forSession?) : .start ∈ calls := by
  obtain ⟨call, member, asked⟩ := List.mem_filterMap.mp started
  cases call <;> cases asked
  exact member

private theorem ne_payload_of_isAtRest {engine : Engine}
    (coherent : Session.Coherent engine.session)
    (resting : engine.session.isAtRest = true) {later : List Call} (unstarted : .start ∉ later) :
    ∀ output ∈ engine.sessionOutputs later, ∀ data, output ≠ .payload data := by
  have run := Session.restRun_of_isAtRest coherent resting (unstarted ∘ start_mem_of_forSession?)
  intro output told data made
  have progress := (run.silent coherent resting).outputs output told
  rw [made] at progress
  cases progress

/-- From the end of its session on, an engine tells of no data until it is started again. -/
theorem isData_eq_false_of_disconnect {engine : Engine}
    (coherent : Session.Coherent engine.session) {later : List Call} (unstarted : .start ∉ later) :
    ∀ notice ∈ engine.told (.disconnect :: later), notice.isData = false := by
  have move := Session.move_turn engine.session .disconnect
  have ended := (step_turn engine .disconnect).session_eq
  apply isData_eq_false_of_told
  rw [sessionOutputs_cons, sessionOutputs_of_asked rfl, List.forall_mem_append]
  refine ⟨move.ne_payload_of_disconnect, ne_payload_of_isAtRest ?_ ?_ unstarted⟩
  · rw [ended]
    exact move.coherent coherent
  · rw [ended]
    exact move.isAtRest_of_disconnect coherent

/-- A request to disconnect leaves the session at rest, and a session at rest stays silent until it
is started. So the host hears of no data in between. -/
theorem silent_after (device : Device) (directory : Option Directory)
    (settings : Config.Settings) :
    (∀ calls, ((Session.fresh device settings.retry).after (calls ++ [.disconnect])).isAtRest) ∧
      (∀ calls later, ((Session.fresh device settings.retry).after calls).isAtRest →
        .start ∉ later → Silent ((Session.fresh device settings.retry).after calls) later) ∧
      ∀ calls later : List Call, .start ∉ later →
        ∀ notice ∈ ((fresh device directory settings).after calls).told (.disconnect :: later),
          notice.isData = false := by
  refine ⟨?_, ?_, ?_⟩
  · intro calls
    rw [Session.after_concat]
    exact (Session.move_turn _ .disconnect).isAtRest_of_disconnect
      (Session.coherent_after device settings.retry calls)
  · intro calls later resting unstarted
    have coherent := Session.coherent_after device settings.retry calls
    exact (Session.restRun_of_isAtRest coherent resting unstarted).silent coherent resting
  · intro calls later unstarted
    apply isData_eq_false_of_disconnect _ unstarted
    rw [session_after]
    exact Session.coherent_after device settings.retry (calls.filterMap Call.forSession?)

def cutOffRead : List Call :=
  [.start, .event ⟨1, .adapterState true⟩ 0, .event ⟨1, .deviceDiscovered "tag"⟩ 100,
    .event ⟨1, .connected⟩ 200, .event ⟨1, .subscribed⟩ 300, .event ⟨1, .notification⟩ 400]

/-- What may still come then, of the new epoch and of the one before. -/
def belated : List Call :=
  [.event ⟨1, .readCompleted [1, 0]⟩ 500, .event ⟨2, .notification⟩ 510,
    .event ⟨2, .linkLost "gone"⟩ 520, .poll 100000, .send (.ranging true) none,
    .event ⟨2, .readCompleted [1, 0]⟩ 530, .event ⟨2, .disconnected⟩ 540, .disconnect]

def cutOff : Session :=
  (Session.fresh ⟨"tag", "Tag"⟩ {}).after (cutOffRead.filterMap Call.forSession? ++ [.disconnect])

theorem silent_after_cutOffRead :
    cutOff.isAtRest ∧ .start ∉ belated.filterMap Call.forSession? ∧
      Silent cutOff (belated.filterMap Call.forSession?) ∧
        ∀ notice ∈ ((fresh ⟨"tag", "Tag"⟩ none {}).after cutOffRead).told (.disconnect :: belated),
          notice.isData = false :=
  have silent := silent_after ⟨"tag", "Tag"⟩ none {}
  have resting : cutOff.isAtRest := silent.1 _
  have unstarted : .start ∉ belated.filterMap Call.forSession? := by decide
  ⟨resting, unstarted, silent.2.1 _ _ resting unstarted, silent.2.2 _ _ (by simp [belated])⟩

end Engine

end TagFix
