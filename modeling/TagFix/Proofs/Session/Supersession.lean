import TagFix.Proofs.Session.Epochs
import TagFix.Proofs.Session.Retries

/-!
# Events that come too late

Whatever ends the work of a session also ends its epoch, so an event of an operation from before is
of an older epoch and goes unheeded. The main statement is `undisturbed_after`: such events may be
put into a run wherever they could come, and the run goes on as if they were not there.
-/

namespace TagFix

open Link (Epoch Event Operation)

namespace Session

/-! ## What ends an epoch -/

/-- Whether a call ends what the session was doing: a start that counts, a disconnection that
changes the session, or a failure. -/
def supersedes (session : Session) : Call → Bool
  | .start => session.phase.canStart
  | .disconnect => session.requestDisconnect.session ≠ session
  | call => session.fails call

section Moves

variable {session : Session} {call : Call} {turn : Turn}

private theorem Strikes.supersedes {setback : Setback} {now : Nat}
    (strikes : session.Strikes setback call now) : session.supersedes call = true := by
  have fails := strikes.uneventful.fails
  cases strikes with
  | _ => exact fails

private theorem supersedes_eq_false_of_unheeded (unheeded : session.heeds call = false)
    (made : session.turn call = session.quiet) : session.supersedes call = false := by
  cases call with
  | start => exact unheeded
  | disconnect =>
      have same : session.requestDisconnect.session = session := congrArg Turn.session made
      simp [supersedes, same]
  | write | event | poll => exact (uneventful_of_unheeded unheeded).fails

/-- The epoch advances in the calls that end what the session was doing, and in no others. -/
theorem Move.epoch_eq_iff (move : Move session call turn) (made : session.turn call = turn) :
    turn.session.epoch = session.epoch + 1 ↔ session.supersedes call = true := by
  have advanced := ne_add_one session.epoch
  cases move with
  | ignored unheeded =>
      simp [quiet, supersedes_eq_false_of_unheeded unheeded made, advanced.symm]
  | started text startable => exact iff_of_true rfl startable
  | cancelled | scanStopped | disconnecting =>
      refine iff_of_true rfl ?_
      have left : session.requestDisconnect.session.epoch = session.epoch + 1 :=
        congrArg (fun turn => turn.session.epoch) made
      have changed : session.requestDisconnect.session ≠ session := by
        intro same
        rw [same] at left
        exact advanced left.symm
      simpa [supersedes] using changed
  | written | adapterReady | adapterOff | found | linked | subscribed | readBegun | noted
  | readCompleted | readFailed | writeCompleted | writeFailed | unlinked | unlinkFailed =>
      simp [supersedes, fails, advanced.symm]
  | gaveUp text strikes | paused text strikes | rescanned text strikes =>
      exact iff_of_true rfl strikes.supersedes
  | scanRetried waiting | connectRetried waiting | subscribeRetried waiting =>
      simp [supersedes, fails, alarm?, waiting, advanced.symm]

/-- An event of another epoch than the current goes unheeded. -/
theorem handle_eq_quiet {event : Event} (other : event.epoch ≠ session.epoch) (now : Nat) :
    session.handle event now = session.quiet :=
  if_neg other

end Moves

/-! ## The epochs of a run -/

section Epochs

variable {start : Session} {calls earlier later : List Call} {call : Call}

/-- The epoch never goes back in a run. -/
theorem epoch_le_after_append (zero : start.epoch = 0)
    (enough : advances (start.moments (earlier ++ later)) < UInt64.size) :
    (start.after earlier).epoch ≤ (start.after (earlier ++ later)).epoch := by
  have whole := toNat_epoch_after zero (earlier ++ later) enough
  rw [advances_moments_append] at enough whole
  have part := toNat_epoch_after zero earlier (by omega)
  rw [UInt64.le_iff_toNat_le]
  omega

/-- A call that ends what the session was doing takes the epoch forward, and no other call does. -/
theorem epoch_lt_iff_supersedes (zero : start.epoch = 0)
    (enough : advances (start.moments (earlier ++ [call])) < UInt64.size) :
    (start.after earlier).epoch < ((start.after earlier).turn call).session.epoch ↔
      (start.after earlier).supersedes call = true := by
  have move := move_turn (start.after earlier) call
  have forward := epoch_le_of_advances zero enough
  rw [← move.epoch_eq_iff rfl]
  constructor
  · intro less
    rcases move.epoch_eq with same | next
    · rw [same] at less
      exact absurd less (UInt64.lt_irrefl _)
    · exact next
  · intro next
    rw [next] at forward ⊢
    exact UInt64.lt_of_le_of_ne forward (ne_add_one _).symm

/-- An operation of an epoch was issued in a run before a call that ended what the session was
doing. -/
def Superseded (start : Session) (calls : List Call) (epoch : Epoch) : Prop :=
  ∃ earlier call later, calls = earlier ++ call :: later ∧
    (start.after earlier).supersedes call = true ∧
      ∃ operation ∈ issuedIn (start.moments earlier), operation.epoch? = some epoch

/-- The epoch of such an operation is over for good. -/
theorem Superseded.epoch_lt {epoch : Epoch} (superseded : Superseded start calls epoch)
    (zero : start.epoch = 0) (enough : advances (start.moments calls) < UInt64.size) :
    epoch < (start.after calls).epoch := by
  obtain ⟨earlier, call, later, split, ends, operation, issued, stamped⟩ := superseded
  have joined : calls = (earlier ++ [call]) ++ later := by
    rw [split, List.append_assoc, List.singleton_append]
  rw [joined] at enough ⊢
  have begun : advances (start.moments (earlier ++ [call])) < UInt64.size := by
    rw [advances_moments_append] at enough
    omega
  have before : advances (start.moments earlier) < UInt64.size := by
    rw [advances_moments_append] at begun
    omega
  have past : epoch ≤ (start.after earlier).epoch :=
    past_after zero earlier before operation issued epoch stamped
  have ended := (epoch_lt_iff_supersedes zero begun).mpr ends
  rw [← after_concat] at ended
  exact UInt64.lt_of_le_of_lt past
    (UInt64.lt_of_lt_of_le ended (epoch_le_after_append zero enough))

end Epochs

/-! ## Late events in a run -/

/-- A call of a run, or an event put in between. -/
inductive Entry
  | own (call : Call)
  | late (event : Event) (now : Nat)

def Entry.call : Entry → Call
  | .own call => call
  | .late event now => .event event now

def Entry.own? : Entry → Option Call
  | .own call => some call
  | .late .. => none

/-- The calls of the run without what was put in. -/
def ownCalls (entries : List Entry) : List Call :=
  entries.filterMap Entry.own?

def allCalls (entries : List Entry) : List Call :=
  entries.map Entry.call

/-- The turns of the calls of the run itself, with what was put in between them. -/
def ownTurns (session : Session) : List Entry → List Turn
  | [] => []
  | .own call :: rest => session.turn call :: (session.turn call).session.ownTurns rest
  | .late event now :: rest => (session.handle event now).session.ownTurns rest

/-- Every event that was put in is of an epoch that was superseded in the run by then. -/
def AllLate (start : Session) (entries : List Entry) : Prop :=
  ∀ earlier event now later, entries = earlier ++ .late event now :: later →
    Superseded start (ownCalls earlier) event.epoch

section Entries

variable {start : Session} {entries : List Entry}

theorem ownCalls_append (earlier later : List Entry) :
    ownCalls (earlier ++ later) = ownCalls earlier ++ ownCalls later :=
  List.filterMap_append

private theorem ownCalls_concat_late (entries : List Entry) (event : Event) (now : Nat) :
    ownCalls (entries ++ [.late event now]) = ownCalls entries := by
  rw [ownCalls_append]
  exact List.append_nil _

theorem allCalls_concat (entries : List Entry) (entry : Entry) :
    allCalls (entries ++ [entry]) = allCalls entries ++ [entry.call] :=
  List.map_append

theorem ownTurns_append (session : Session) (earlier later : List Entry) :
    session.ownTurns (earlier ++ later) =
      session.ownTurns earlier ++ (session.after (allCalls earlier)).ownTurns later := by
  induction earlier generalizing session with
  | nil => rfl
  | cons entry rest inductionHypothesis =>
      cases entry with
      | own call =>
          simp only [List.cons_append, ownTurns, inductionHypothesis]
          rfl
      | late event now =>
          simp only [List.cons_append, ownTurns, inductionHypothesis]
          rfl

private theorem allLate_map_own (calls : List Call) : AllLate start (calls.map .own) := by
  intro earlier event now later split
  have member : Entry.late event now ∈ calls.map Entry.own := by simp [split]
  simp at member

private theorem AllLate.initial {more : List Entry} (late : AllLate start (entries ++ more)) :
    AllLate start entries := by
  intro earlier event now later split
  exact late earlier event now (later ++ more) (by rw [split, List.append_assoc, List.cons_append])

private theorem AllLate.concat (late : AllLate start entries) {event : Event} (now : Nat)
    (superseded : Superseded start (ownCalls entries) event.epoch) :
    AllLate start (entries ++ [.late event now]) := by
  intro earlier other time later split
  rcases List.eq_nil_or_concat later with rfl | ⟨rest, last, rfl⟩
  · obtain ⟨rfl, same⟩ := List.append_inj' split rfl
    cases same
    exact superseded
  · rw [List.concat_eq_append, ← List.cons_append, ← List.append_assoc] at split
    obtain ⟨initial, -⟩ := List.append_inj' split rfl
    exact late earlier other time rest initial

/-- An event that comes too late goes unheeded. -/
theorem AllLate.handle_eq_quiet {event : Event} {now : Nat} (zero : start.epoch = 0)
    (enough : advances (start.moments (ownCalls (entries ++ [.late event now]))) < UInt64.size)
    (late : AllLate start (entries ++ [.late event now])) :
    (start.after (ownCalls entries)).handle event now =
      (start.after (ownCalls entries)).quiet := by
  rw [ownCalls_concat_late] at enough
  have past := (late entries event now [] rfl).epoch_lt zero enough
  exact Session.handle_eq_quiet (UInt64.ne_of_lt past) now

/-- So a run with late events reaches the session that it reaches without them. -/
theorem AllLate.after_eq (zero : start.epoch = 0)
    (enough : advances (start.moments (ownCalls entries)) < UInt64.size)
    (late : AllLate start entries) :
    start.after (allCalls entries) = start.after (ownCalls entries) := by
  induction entries using List.reverseRecOn with
  | nil => rfl
  | append_singleton entries entry inductionHypothesis =>
      have before : advances (start.moments (ownCalls entries)) < UInt64.size := by
        rw [ownCalls_append, advances_moments_append] at enough
        omega
      have same := inductionHypothesis before late.initial
      rw [allCalls_concat, ownCalls_append, after_concat, after_append, same]
      cases entry with
      | own call => rfl
      | late event now => exact congrArg Turn.session (late.handle_eq_quiet zero enough)

/-- And the turns of the run itself are the same. -/
theorem AllLate.ownTurns_eq (zero : start.epoch = 0)
    (enough : advances (start.moments (ownCalls entries)) < UInt64.size)
    (late : AllLate start entries) :
    start.ownTurns entries = start.turns (ownCalls entries) := by
  induction entries using List.reverseRecOn with
  | nil => rfl
  | append_singleton entries entry inductionHypothesis =>
      have before : advances (start.moments (ownCalls entries)) < UInt64.size := by
        rw [ownCalls_append, advances_moments_append] at enough
        omega
      have sameSession := late.initial.after_eq zero before
      rw [ownTurns_append, sameSession, inductionHypothesis before late.initial]
      cases entry with
      | own call =>
          rw [ownCalls_append]
          exact (turns_concat start (ownCalls entries) call).symm
      | late event now =>
          rw [ownCalls_concat_late]
          exact List.append_nil _

end Entries

/-- How the epochs of a run go, and what becomes of events that are put into it too late. -/
structure Undisturbed (start : Session) (calls : List Call) : Prop where
  forward : ∀ earlier call later, calls = earlier ++ call :: later →
    (start.after earlier).epoch ≤ ((start.after earlier).turn call).session.epoch
  advances_iff : ∀ earlier call later, calls = earlier ++ call :: later →
    ((start.after earlier).epoch < ((start.after earlier).turn call).session.epoch ↔
      (start.after earlier).supersedes call = true)
  late_quiet : ∀ entries, ownCalls entries = calls → AllLate start entries →
    ∀ earlier event now later, entries = earlier ++ .late event now :: later →
      (start.after (allCalls earlier)).handle event now =
        (start.after (allCalls earlier)).quiet
  ownTurns_eq : ∀ entries, ownCalls entries = calls → AllLate start entries →
    start.ownTurns entries = start.turns calls

/-- As long as the epochs have not run out, the epoch of a run never goes back, and it goes forward
in the calls that end what the session was doing. Events of operations from before such a call may
be put into the run anywhere after it: nothing comes of them, and every call of the run itself does
what it does without them. -/
theorem undisturbed_after (device : Device) (settings : Config.Retry) (calls : List Call)
    (enough : advances ((fresh device settings).moments calls) < UInt64.size) :
    Undisturbed (fresh device settings) calls := by
  have upTo : ∀ {earlier call later}, calls = earlier ++ call :: later →
      advances ((fresh device settings).moments (earlier ++ [call])) < UInt64.size := by
    intro earlier call later split
    rw [split, List.append_cons, advances_moments_append] at enough
    omega
  constructor
  case forward =>
    intro earlier call later split
    exact epoch_le_of_advances rfl (upTo split)
  case advances_iff =>
    intro earlier call later split
    exact epoch_lt_iff_supersedes rfl (upTo split)
  case late_quiet =>
    rintro entries rfl late earlier event now later split
    rw [split, List.append_cons] at enough late
    have whole := late.initial
    rw [ownCalls_append, advances_moments_append] at enough
    have begun : advances ((fresh device settings).moments
        (ownCalls (earlier ++ [.late event now]))) < UInt64.size := by omega
    have before : advances ((fresh device settings).moments (ownCalls earlier)) <
        UInt64.size := by
      rw [ownCalls_append, advances_moments_append] at begun
      omega
    rw [whole.initial.after_eq rfl before]
    exact whole.handle_eq_quiet rfl begun
  case ownTurns_eq =>
    rintro entries rfl late
    exact late.ownTurns_eq rfl enough

/-- A connection that comes about only after its time has run out, and after the next attempt has
begun. -/
def slowConnection : List Entry :=
  [.own .start, .own (.event ⟨1, .adapterState true⟩ 0),
    .own (.event ⟨1, .deviceDiscovered "tag"⟩ 100), .own (.poll 10100), .own (.poll 10400)] ++
      [.late ⟨1, .connected⟩ 10500]

theorem undisturbed_after_slowConnection :
    advances ((fresh ⟨"tag", "Tag"⟩ {}).moments (ownCalls slowConnection)) < UInt64.size ∧
      AllLate (fresh ⟨"tag", "Tag"⟩ {}) slowConnection ∧
        Undisturbed (fresh ⟨"tag", "Tag"⟩ {}) (ownCalls slowConnection) := by
  have enough : advances ((fresh ⟨"tag", "Tag"⟩ {}).moments (ownCalls slowConnection)) <
      UInt64.size := by decide
  refine ⟨enough, ?_, undisturbed_after _ _ _ enough⟩
  have own : AllLate (fresh ⟨"tag", "Tag"⟩ {})
      ([.start, .event ⟨1, .adapterState true⟩ 0, .event ⟨1, .deviceDiscovered "tag"⟩ 100,
        .poll 10100, .poll 10400].map .own) := allLate_map_own _
  refine own.concat 10500 ⟨[.start, .event ⟨1, .adapterState true⟩ 0,
    .event ⟨1, .deviceDiscovered "tag"⟩ 100], .poll 10100, [.poll 10400], rfl, by decide, ?_⟩
  exact ⟨.connect "tag" 1, by decide, rfl⟩

end Session

end TagFix
