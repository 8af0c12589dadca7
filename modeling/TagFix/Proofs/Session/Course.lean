import TagFix.Proofs.Session.Epochs
import TagFix.Proofs.Session.Retries

/-!
# The course of an epoch

Within one epoch a session only moves forward: it looks for the tag, connects and subscribes, or it
comes to an end, or it is given up. On the way it issues each operation at most once, so an event
of the epoch can only be the answer to that one. The main statement is `oneWay_after`.
-/

namespace TagFix

open Link (Epoch Operation)

/-- The place of an operation among those that lead to a subscription. -/
def Link.Operation.rank? : Operation → Option Nat
  | .checkAdapter _ => some 0
  | .startScan _ => some 1
  | .connect .. => some 2
  | .startNotification .. => some 3
  | .stopScan | .disconnect .. | .read .. | .write .. => none

namespace Session

/-! ## Phases of an epoch -/

inductive Course
  | subscribing
  | ending
  | givenUp
deriving DecidableEq, Repr

def Phase.course : Phase → Course
  | .idle | .scanning | .connecting | .connected | .subscribing | .subscribed | .awaitingRead =>
      .subscribing
  | .disconnecting | .disconnected => .ending
  | .faulted => .givenUp

/-- How far a phase is on its course. A subscribed session reads, and is subscribed again. -/
def Phase.stage : Phase → Nat
  | .idle | .disconnecting | .faulted => 0
  | .scanning | .disconnected => 1
  | .connecting => 2
  | .connected => 3
  | .subscribing => 4
  | .subscribed | .awaitingRead => 5

/-- Whether one phase may come before or with another in an epoch. -/
def Phase.Leads (before after : Phase) : Prop :=
  before.course = after.course ∧ before.stage ≤ after.stage

private theorem Phase.Leads.rfl {phase : Phase} : phase.Leads phase :=
  ⟨Eq.refl _, Nat.le_refl _⟩

private theorem Phase.Leads.trans {before between after : Phase} (first : before.Leads between)
    (second : between.Leads after) : before.Leads after :=
  ⟨first.1.trans second.1, Nat.le_trans first.2 second.2⟩

def phasesIn (run : List Moment) (epoch : Epoch) : List Phase :=
  (run.filter fun moment => moment.turn.session.epoch = epoch).map fun moment =>
    moment.turn.session.phase

def ranks (operations : List Operation) (epoch : Epoch) : List Nat :=
  operations.filterMap fun operation =>
    if operation.epoch? = some epoch then operation.rank? else none

theorem phasesIn_concat (run : List Moment) (moment : Moment) (epoch : Epoch) :
    phasesIn (run ++ [moment]) epoch =
      phasesIn run epoch ++
        if moment.turn.session.epoch = epoch then [moment.turn.session.phase] else [] := by
  rw [phasesIn, List.filter_append, List.map_append]
  by_cases same : moment.turn.session.epoch = epoch
  · simp [phasesIn, same]
  · simp [phasesIn, same]

@[simp]
theorem ranks_nil (epoch : Epoch) : ranks [] epoch = [] := rfl

@[simp]
theorem ranks_cons (operation : Operation) (rest : List Operation) (epoch : Epoch) :
    ranks (operation :: rest) epoch =
      (if operation.epoch? = some epoch then operation.rank?.toList else []) ++
        ranks rest epoch := by
  by_cases stamped : operation.epoch? = some epoch
  · cases place : operation.rank? with
    | none | some rank => simp [ranks, stamped, place]
  · simp [ranks, stamped]

@[simp]
theorem ranks_append (earlier later : List Operation) (epoch : Epoch) :
    ranks (earlier ++ later) epoch = ranks earlier epoch ++ ranks later epoch :=
  List.filterMap_append

/-! ## Moves within an epoch -/

section Moves

variable {session : Session} {call : Call} {turn : Turn}

/-- A move that keeps the epoch only moves forward. -/
theorem Move.leads (move : Move session call turn) (kept : turn.session.epoch = session.epoch) :
    session.phase.Leads turn.session.phase := by
  have advanced := ne_add_one session.epoch
  cases move with
  | ignored | written | adapterOff | noted | writeCompleted | writeFailed | scanRetried
  | connectRetried | subscribeRetried => exact .rfl
  | adapterReady now text phase | found now text phase | linked now text phase
  | subscribed now text phase | readBegun now phase | unlinked now text phase
  | unlinkFailed reason now text phase =>
      rw [phase]
      exact ⟨rfl, by simp [Phase.stage]⟩
  | readCompleted data now phase | readFailed reason now text phase =>
      rw [phase]
      cases session.notificationPending with
      | false | true => exact ⟨rfl, by simp [Phase.stage]⟩
  | started | cancelled | scanStopped | disconnecting | gaveUp | paused | rescanned =>
      exact absurd kept advanced

@[simp]
theorem ranks_cleanup (setback : Setback) (session : Session) (epoch : Epoch) :
    ranks (setback.cleanup session) epoch = [] := by
  cases setback with
  | scanTimedOut | connectTimedOut => simp [Setback.cleanup, Operation.rank?]
  | _ => rfl

@[simp]
theorem ranks_hangUp (session : Session) (epoch : Epoch) : ranks session.hangUp epoch = [] := by
  unfold hangUp
  split
  · simp [Operation.rank?]
  · rfl

@[simp]
theorem ranks_setback_hangUp (setback : Setback) (session : Session) (epoch : Epoch) :
    ranks (setback.hangUp session) epoch = [] := by
  cases setback with
  | scanTimedOut => rfl
  | _ => exact ranks_hangUp session epoch

@[simp]
theorem ranks_nextRead (session : Session) (epoch : Epoch) : ranks session.nextRead epoch = [] := by
  unfold nextRead
  split
  · simp [Operation.rank?]
  · rfl

/-- Operations that lead to a subscription are of the epoch in which the call ends. -/
theorem Move.ranks_eq_nil (move : Move session call turn) {epoch : Epoch}
    (other : epoch ≠ turn.session.epoch) : ranks turn.issued epoch = [] := by
  cases move with
  | ignored | cancelled | adapterOff | subscribed | noted | writeCompleted | writeFailed
  | unlinked | unlinkFailed => rfl
  | scanStopped | disconnecting | written | readBegun | readCompleted | readFailed | gaveUp
  | paused => simp [Operation.rank?]
  | started | adapterReady | found | linked | rescanned | scanRetried | connectRetried
  | subscribeRetried => simpa [Operation.epoch?, Operation.rank?] using other.symm

/-- What a call means for the operations that lead to a subscription: it issues none of them, or one
that comes behind those of the epoch so far and before those that may still come. -/
inductive RankStep (session : Session) (turn : Turn) : Prop
  | none (unissued : ranks turn.issued turn.session.epoch = [])
      (ahead : turn.session.epoch = session.epoch →
        turn.session.attemptsAhead ≤ session.attemptsAhead)
  | one (rank : Nat) (issued : ranks turn.issued turn.session.epoch = [rank])
      (ahead : rank + turn.session.attemptsAhead ≤ 3)
      (behind : turn.session.epoch = session.epoch → 3 < rank + session.attemptsAhead)

private theorem Move.rankStep (move : Move session call turn) (coherent : Coherent session) :
    RankStep session turn := by
  have advanced := ne_add_one session.epoch
  cases move with
  | ignored | written | writeCompleted | writeFailed =>
      exact .none (by simp [quiet, Operation.rank?]) fun _ => Nat.le_refl _
  | cancelled | scanStopped | disconnecting =>
      exact .none (by simp [Operation.rank?]) fun kept => absurd kept advanced
  | gaveUp | paused => exact .none (by simp) fun kept => absurd kept advanced
  | adapterOff now text phase | noted now phase =>
      exact .none (by simp) fun _ => by simp [attemptsAhead, phase]
  | subscribed | readBegun | unlinked | unlinkFailed =>
      exact .none (by simp [Operation.rank?]) fun _ => Nat.zero_le _
  | readCompleted | readFailed =>
      refine .none (ranks_nextRead session session.epoch) fun _ => ?_
      cases session.notificationPending with
      | false | true => exact Nat.zero_le _
  | started =>
      exact .one 0 (by simp [Operation.epoch?, Operation.rank?]) (by simp [attemptsAhead])
        fun kept => absurd kept advanced
  | rescanned =>
      exact .one 1 (by simp [Operation.epoch?, Operation.rank?])
        (by simp [attemptsAhead, alarm?]) fun kept => absurd kept advanced
  | adapterReady now text phase pending =>
      exact .one 1 (by simp [Operation.epoch?, Operation.rank?])
        (by simp [attemptsAhead, alarm?]) fun _ => by simp [attemptsAhead, phase, pending]
  | found now text phase =>
      have ahead := attemptsAhead_of_scanning phase
      exact .one 2 (by simp [Operation.epoch?, Operation.rank?])
        (by simp [attemptsAhead, alarm?]) fun _ => by omega
  | linked now text phase =>
      have ahead := attemptsAhead_of_connecting phase
      exact .one 3 (by simp [Operation.epoch?, Operation.rank?])
        (by simp [attemptsAhead, alarm?]) fun _ => by omega
  | scanRetried waiting =>
      have phase := coherent.phase_of_retry waiting
      exact .one 1 (by simp [Operation.epoch?, Operation.rank?])
        (by simp [attemptsAhead, alarm?, phase, RetryTarget.phase])
        fun _ => by simp [attemptsAhead, alarm?, phase, waiting, RetryTarget.phase]
  | connectRetried waiting =>
      have phase := coherent.phase_of_retry waiting
      exact .one 2 (by simp [Operation.epoch?, Operation.rank?])
        (by simp [attemptsAhead, alarm?, phase, RetryTarget.phase])
        fun _ => by simp [attemptsAhead, alarm?, phase, waiting, RetryTarget.phase]
  | subscribeRetried waiting =>
      have phase := coherent.phase_of_retry waiting
      exact .one 3 (by simp [Operation.epoch?, Operation.rank?])
        (by simp [attemptsAhead, alarm?, phase, RetryTarget.phase])
        fun _ => by simp [attemptsAhead, alarm?, phase, waiting, RetryTarget.phase]

end Moves

/-! ## What a run keeps -/

/-- How a run went in each of its epochs, and what is left to the current one. -/
structure Charted (run : List Moment) (session : Session) : Prop where
  past : ∀ moment ∈ run, moment.turn.session.epoch ≤ session.epoch
  onward : ∀ epoch, (phasesIn run epoch).Pairwise Phase.Leads
  leads : ∀ phase ∈ phasesIn run session.epoch, phase.Leads session.phase
  ordered : ∀ epoch, (ranks (issuedIn run) epoch).Pairwise (· < ·)
  ahead : ∀ rank ∈ ranks (issuedIn run) session.epoch, rank + session.attemptsAhead ≤ 3

section Moves

variable {run : List Moment} {session : Session} {call : Call} {turn : Turn}

/-- An epoch that only begins has seen no phase. -/
theorem Charted.phasesIn_next (charted : Charted run session)
    (forward : session.epoch ≤ session.epoch + 1) :
    phasesIn run (session.epoch + 1) = [] := by
  rw [phasesIn, List.map_eq_nil_iff, List.filter_eq_nil_iff]
  intro moment member same
  have back := charted.past moment member
  rw [decide_eq_true_iff] at same
  rw [same] at back
  exact ne_add_one session.epoch (UInt64.le_antisymm back forward)

private theorem ranks_next (past : Past run session.epoch)
    (forward : session.epoch ≤ session.epoch + 1) :
    ranks (issuedIn run) (session.epoch + 1) = [] := by
  rw [ranks, List.filterMap_eq_nil_iff]
  intro operation issued
  rw [if_neg]
  intro stamped
  exact past.not_issued forward stamped issued

/-- The phases so far of the epoch in which a call ends all lead to the phase that it leaves. -/
theorem Charted.leads_of_move (charted : Charted run session) (move : Move session call turn)
    (forward : session.epoch ≤ turn.session.epoch) :
    ∀ phase ∈ phasesIn run turn.session.epoch, phase.Leads turn.session.phase := by
  intro phase member
  rcases move.epoch_eq with kept | next
  · rw [kept] at member
    exact (charted.leads phase member).trans (move.leads kept)
  · rw [next] at member forward
    rw [charted.phasesIn_next forward] at member
    cases member

/-- And the operations so far of that epoch come before what the call leaves to come. -/
theorem Charted.ranks_of_move (charted : Charted run session) (past : Past run session.epoch)
    (move : Move session call turn) (coherent : Coherent session)
    (forward : session.epoch ≤ turn.session.epoch) :
    (ranks (issuedIn run) turn.session.epoch ++
        ranks turn.issued turn.session.epoch).Pairwise (· < ·) ∧
      ∀ rank ∈ ranks (issuedIn run) turn.session.epoch ++ ranks turn.issued turn.session.epoch,
        rank + turn.session.attemptsAhead ≤ 3 := by
  rcases move.epoch_eq with kept | next
  · have ordered := charted.ordered turn.session.epoch
    have before := charted.ahead
    rw [← kept] at before
    cases move.rankStep coherent with
    | none unissued ahead =>
        rw [unissued, List.append_nil]
        refine ⟨ordered, ?_⟩
        intro rank member
        have sum := before rank member
        have fewer := ahead kept
        omega
    | one rank issued ahead behind =>
        have after := behind kept
        rw [issued, List.pairwise_append]
        refine ⟨⟨ordered, List.pairwise_singleton _ _, ?_⟩, ?_⟩
        · intro earlier member later last
          have sum := before earlier member
          rw [List.mem_singleton.mp last]
          omega
        · intro other member
          rcases List.mem_append.mp member with earlier | last
          · have sum := before other earlier
            omega
          · rw [List.mem_singleton.mp last]
            exact ahead
  · have none := ranks_next past (next ▸ forward)
    rw [← next] at none
    rw [none, List.nil_append]
    cases move.rankStep coherent with
    | none unissued =>
        rw [unissued]
        exact ⟨.nil, List.forall_mem_nil _⟩
    | one rank issued ahead =>
        rw [issued]
        exact ⟨List.pairwise_singleton _ _, List.forall_mem_singleton.mpr ahead⟩

private theorem Charted.extended (charted : Charted run session) (past : Past run session.epoch)
    (move : Move session call turn) (made : session.turn call = turn)
    (coherent : Coherent session) (forward : session.epoch ≤ turn.session.epoch) :
    Charted (run ++ [⟨session, call⟩]) turn.session := by
  have leads := charted.leads_of_move move forward
  have rising := charted.ranks_of_move past move coherent forward
  have phases : ∀ epoch, phasesIn (run ++ [⟨session, call⟩]) epoch =
      phasesIn run epoch ++ if turn.session.epoch = epoch then [turn.session.phase] else [] := by
    intro epoch
    rw [phasesIn_concat, Moment.turn, made]
  constructor
  case past =>
    intro moment member
    rcases List.mem_append.mp member with earlier | last
    · exact UInt64.le_trans (charted.past moment earlier) forward
    · rw [List.mem_singleton.mp last, Moment.turn, made]
      exact UInt64.le_refl _
  case onward =>
    intro epoch
    rw [phases]
    by_cases current : turn.session.epoch = epoch
    · rw [if_pos current, ← current, List.pairwise_append]
      refine ⟨charted.onward _, List.pairwise_singleton _ _, ?_⟩
      intro phase member last only
      rw [List.mem_singleton.mp only]
      exact leads phase member
    · rw [if_neg current, List.append_nil]
      exact charted.onward epoch
  case leads =>
    intro phase member
    rw [phases, if_pos rfl] at member
    rcases List.mem_append.mp member with earlier | last
    · exact leads phase earlier
    · rw [List.mem_singleton.mp last]
      exact .rfl
  case ordered =>
    intro epoch
    rw [issuedIn_extended made, ranks_append]
    by_cases current : epoch = turn.session.epoch
    · rw [current]
      exact rising.1
    · rw [move.ranks_eq_nil current, List.append_nil]
      exact charted.ordered epoch
  case ahead =>
    rw [issuedIn_extended made, ranks_append]
    exact rising.2

end Moves

/-! ## Runs -/

section Runs

variable (device : Device) (settings : Config.Retry) (calls : List Call)

private theorem charted_after
    (enough : advances ((fresh device settings).moments calls) < UInt64.size) :
    Charted ((fresh device settings).moments calls) ((fresh device settings).after calls) := by
  induction calls using List.reverseRecOn with
  | nil =>
      exact ⟨List.forall_mem_nil _, fun _ => .nil, List.forall_mem_nil _, fun _ => .nil,
        List.forall_mem_nil _⟩
  | append_singleton calls call inductionHypothesis =>
      have forward := epoch_le_of_advances rfl enough
      rw [moments_concat, advances_concat] at enough
      have soFar : advances ((fresh device settings).moments calls) < UInt64.size := by omega
      have past := past_after rfl calls soFar
      have coherent := coherent_after device settings calls
      rw [moments_concat, after_concat]
      exact (inductionHypothesis soFar).extended past (move_turn _ call) rfl coherent forward

/-- No call leaves a session in the phase between the link and the subscription. -/
theorem connected_not_mem_phasesIn (epoch : Epoch) :
    .connected ∉ phasesIn ((fresh device settings).moments calls) epoch := by
  induction calls using List.reverseRecOn with
  | nil => exact List.not_mem_nil
  | append_singleton calls call inductionHypothesis =>
      have coherent := coherent_after device settings (calls ++ [call])
      rw [after_concat] at coherent
      rw [moments_concat, phasesIn_concat, List.mem_append, not_or]
      refine ⟨inductionHypothesis, ?_⟩
      split
      · exact mt List.mem_singleton.mp coherent.phase_ne_connected.symm
      · exact List.not_mem_nil

/-- How an epoch of a run goes: its phases are of one course and never go back on it, and the
operations that lead to a subscription are issued in their order and at most once. -/
structure OneWay (run : List Moment) (epoch : Epoch) : Prop where
  connected_not_mem : .connected ∉ phasesIn run epoch
  sameCourse : ∃ course, ∀ phase ∈ phasesIn run epoch, phase.course = course
  onward : (phasesIn run epoch).Pairwise fun before after => before.stage ≤ after.stage
  ordered : (ranks (issuedIn run) epoch).Pairwise (· < ·)

/-- As long as the epochs have not run out, every epoch of every run only goes one way. -/
theorem oneWay_after (enough : advances ((fresh device settings).moments calls) < UInt64.size)
    (epoch : Epoch) : OneWay ((fresh device settings).moments calls) epoch := by
  have charted := charted_after device settings calls enough
  constructor
  case connected_not_mem => exact connected_not_mem_phasesIn device settings calls epoch
  case sameCourse =>
    have onward := charted.onward epoch
    cases phases : phasesIn ((fresh device settings).moments calls) epoch with
    | nil => exact ⟨.subscribing, List.forall_mem_nil _⟩
    | cons first rest =>
        rw [phases, List.pairwise_cons] at onward
        refine ⟨first.course, List.forall_mem_cons.mpr ⟨rfl, ?_⟩⟩
        intro phase member
        exact (onward.1 phase member).1.symm
  case onward => exact (charted.onward epoch).imp And.right
  case ordered => exact charted.ordered epoch

end Runs

/-- The epoch that begins when the radio no longer knows the tag. -/
theorem oneWay_after_twoEpochs :
    advances ((fresh ⟨"tag", "Tag"⟩ {}).moments (.start :: twoEpochs)) < UInt64.size ∧
      OneWay ((fresh ⟨"tag", "Tag"⟩ {}).moments (.start :: twoEpochs)) 2 ∧
        phasesIn ((fresh ⟨"tag", "Tag"⟩ {}).moments (.start :: twoEpochs)) 2 =
            [.scanning, .connecting, .subscribing] ∧
          ranks (issuedIn ((fresh ⟨"tag", "Tag"⟩ {}).moments (.start :: twoEpochs))) 2 =
            [1, 2, 3] := by
  have enough : advances ((fresh ⟨"tag", "Tag"⟩ {}).moments (.start :: twoEpochs)) <
      UInt64.size := by decide
  exact ⟨enough, oneWay_after _ _ _ enough 2, by decide, by decide⟩

end Session

end TagFix
