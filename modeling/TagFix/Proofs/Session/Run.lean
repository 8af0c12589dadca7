import TagFix.Proofs.Session.Move
import Mathlib.Data.List.Induction

/-!
# Runs of a session

A run is a sequence of calls. What is said of a run is said of its moments: the calls in order, each
with the session that it found.
-/

namespace TagFix

open Link (Operation)

namespace Session

/-- A call of a run, and the session that it found. -/
structure Moment where
  session : Session
  call : Call

def Moment.turn (moment : Moment) : Turn :=
  moment.session.turn moment.call

def moments (session : Session) : List Call → List Moment
  | [] => []
  | call :: calls => ⟨session, call⟩ :: (session.turn call).session.moments calls

def issuedIn (run : List Moment) : List Operation :=
  run.flatMap (·.turn.issued)

def outputsIn (run : List Moment) : List Output :=
  run.flatMap (·.turn.outputs)

/-! ## Longer runs -/

@[simp]
theorem after_nil (session : Session) : session.after [] = session := rfl

@[simp]
theorem moments_nil (session : Session) : session.moments [] = [] := rfl

theorem after_cons (session : Session) (call : Call) (rest : List Call) :
    session.after (call :: rest) = (session.turn call).session.after rest := rfl

theorem after_append (session : Session) (earlier later : List Call) :
    session.after (earlier ++ later) = (session.after earlier).after later :=
  List.foldl_append

theorem after_concat (session : Session) (calls : List Call) (call : Call) :
    session.after (calls ++ [call]) = ((session.after calls).turn call).session :=
  session.after_append calls [call]

/-- The later moments of a run begin with the session that the earlier calls have left. -/
theorem moments_append (session : Session) (earlier later : List Call) :
    session.moments (earlier ++ later) =
      session.moments earlier ++ (session.after earlier).moments later := by
  induction earlier generalizing session with
  | nil => rfl
  | cons call rest inductionHypothesis =>
      simp only [List.cons_append, moments, inductionHypothesis]
      rfl

theorem moments_concat (session : Session) (calls : List Call) (call : Call) :
    session.moments (calls ++ [call]) =
      session.moments calls ++ [⟨session.after calls, call⟩] :=
  session.moments_append calls [call]

private theorem turns_eq_map_moments (session : Session) (calls : List Call) :
    session.turns calls = (session.moments calls).map Moment.turn := by
  induction calls generalizing session with
  | nil => rfl
  | cons call rest inductionHypothesis =>
      simp only [turns, moments, List.map_cons, inductionHypothesis, Moment.turn]

theorem turns_concat (session : Session) (calls : List Call) (call : Call) :
    session.turns (calls ++ [call]) =
      session.turns calls ++ [(session.after calls).turn call] := by
  simp only [turns_eq_map_moments, moments_concat, List.map_append]
  rfl

theorem issuedIn_moments_cons (session : Session) (call : Call) (rest : List Call) :
    issuedIn (session.moments (call :: rest)) =
      (session.turn call).issued ++ issuedIn ((session.turn call).session.moments rest) :=
  List.flatMap_cons

theorem outputsIn_moments_cons (session : Session) (call : Call) (rest : List Call) :
    outputsIn (session.moments (call :: rest)) =
      (session.turn call).outputs ++ outputsIn ((session.turn call).session.moments rest) :=
  List.flatMap_cons

theorem outputsIn_moments_append (session : Session) (earlier later : List Call) :
    outputsIn (session.moments (earlier ++ later)) =
      outputsIn (session.moments earlier) ++
        outputsIn ((session.after earlier).moments later) := by
  rw [moments_append, outputsIn, List.flatMap_append]
  rfl

theorem issuedIn_concat (run : List Moment) (moment : Moment) :
    issuedIn (run ++ [moment]) = issuedIn run ++ moment.turn.issued := by
  simp [issuedIn]

theorem outputsIn_concat (run : List Moment) (moment : Moment) :
    outputsIn (run ++ [moment]) = outputsIn run ++ moment.turn.outputs := by
  simp [outputsIn]

theorem issuedIn_extended {run : List Moment} {session : Session} {call : Call} {turn : Turn}
    (made : session.turn call = turn) :
    issuedIn (run ++ [⟨session, call⟩]) = issuedIn run ++ turn.issued := by
  rw [issuedIn_concat, Moment.turn, made]

/-- What every move preserves holds after every run. -/
theorem invariant_after {invariant : Session → Prop} {session : Session}
    (initially : invariant session)
    (preserved : ∀ {session : Session} {call : Call} {turn : Turn},
      Move session call turn → invariant session → invariant turn.session)
    (calls : List Call) : invariant (session.after calls) := by
  induction calls using List.reverseRecOn with
  | nil => exact initially
  | append_singleton calls call inductionHypothesis =>
      rw [after_concat]
      exact preserved (move_turn _ call) inductionHypothesis

end Session

end TagFix
