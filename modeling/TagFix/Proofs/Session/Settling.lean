import TagFix.Proofs.Session.Retries

/-!
# Polls come to rest

A poll that finds the deadline due may set another that is due as well, for a pause may be of no
length and an attempt may be given no time. But each such poll uses up a failure that is left, or
the pause that comes before it. So a session that is polled over and over comes to rest. The main
statement is `settled_after`.
-/

namespace TagFix

namespace Session

/-- The most polls that can still act while nothing else is called. A failure that is left costs two
of them: one ends the pause before an attempt, and one ends the attempt. -/
def pollsAhead (limit : Nat) (session : Session) : Nat :=
  match session.alarm? with
  | none => 0
  | some .scanTimeout | some .connectTimeout => 2 * (limit - session.backoff.failures) - 1
  | some (.retry _) => 2 * (limit - session.backoff.failures)

def heeded (run : List Moment) : Nat :=
  run.countP fun moment => moment.session.heeds moment.call

/-- That a session has nothing to do at an instant: its deadline, if there is one, is later, and any
number of polls change nothing, issue nothing and tell nothing. -/
structure Settled (session : Session) (now : Nat) : Prop where
  later : ∀ deadline, session.deadline = some deadline → now < deadline.due
  turns_eq : ∀ count,
    session.turns (List.replicate count (.poll now)) = List.replicate count session.quiet

section Polls

variable {limit : Nat} {session : Session} {now : Nat} {turn : Turn}

private theorem pollsAhead_le (limit : Nat) (session : Session) :
    session.pollsAhead limit ≤ 2 * limit := by
  have left : 2 * (limit - session.backoff.failures) ≤ 2 * limit :=
    Nat.mul_le_mul_left 2 (Nat.sub_le _ _)
  unfold pollsAhead
  split
  · exact Nat.zero_le _
  · exact (Nat.sub_le _ _).trans left
  · exact (Nat.sub_le _ _).trans left
  · exact left

private theorem poll_eq_quiet (waiting : session.isDue now = false) :
    session.poll now = session.quiet := by
  unfold isDue at waiting
  unfold poll
  cases deadline : session.deadline with
  | none => rfl
  | some deadline =>
      rw [deadline] at waiting
      exact if_neg (of_decide_eq_false waiting)

private theorem phase_ne_faulted_of_isDue (coherent : Coherent session)
    (isDue : session.isDue now = true) : session.phase ≠ .faulted := by
  intro faulted
  have waiting := coherent.deadline_eq_none (by simp [faulted])
  simp [Session.isDue, waiting] at isDue

/-- Where a deadline brings a setback, an attempt has run out of time, and one failure more is
counted. -/
theorem Strikes.pollsAhead_eq {setback : Setback} {time : Nat}
    (strikes : session.Strikes setback (.poll now) time) :
    session.pollsAhead limit = 2 * (limit - session.backoff.failures) - 1 := by
  cases strikes with
  | scanTimedOut waiting isDue | connectTimedOut waiting isDue =>
      simp only [pollsAhead, alarm?, waiting, Option.map_some]

/-- A poll that acts leaves fewer that can. -/
theorem Move.pollsAhead_lt (move : Move session (.poll now) turn) (coherent : Coherent session)
    (bounded : Bounded limit session) (isDue : session.isDue now = true) :
    turn.session.pollsAhead limit < session.pollsAhead limit := by
  have going := phase_ne_faulted_of_isDue coherent isDue
  have below := bounded.below going
  obtain ⟨counted, last⟩ := bounded.recordFailure going
  cases move with
  | ignored unheeded =>
      rw [heeds, isDue] at unheeded
      cases unheeded
  | gaveUp text strikes exhausted =>
      rw [strikes.pollsAhead_eq]
      simp only [pollsAhead, alarm?, Option.map_none]
      omega
  | paused text strikes again more | rescanned text strikes again more =>
      rw [more] at last
      rw [strikes.pollsAhead_eq]
      simp only [pollsAhead, alarm?, Option.map_some, counted]
      omega
  | scanRetried waiting | connectRetried waiting | subscribeRetried waiting =>
      simp only [pollsAhead, alarm?, waiting, Option.map_some, Option.map_none]
      omega

/-- Whatever the instants at which a session is polled, it acts on few of the polls. -/
theorem heeded_le_pollsAhead (coherent : Coherent session) (bounded : Bounded limit session)
    (instants : List Nat) :
    heeded (session.moments (instants.map .poll)) ≤ session.pollsAhead limit := by
  induction instants generalizing session with
  | nil => exact Nat.zero_le _
  | cons now instants inductionHypothesis =>
      have move := move_turn session (.poll now)
      have others := inductionHypothesis (move.coherent coherent)
        (move.tally.bounded coherent bounded)
      rw [List.map_cons, moments, heeded, List.countP_cons, ← heeded]
      cases isDue : session.isDue now with
      | true =>
          have fewer := move.pollsAhead_lt coherent bounded isDue
          simp only [heeds, isDue, if_true]
          omega
      | false =>
          have unmoved : session.turn (.poll now) = session.quiet := poll_eq_quiet isDue
          rw [unmoved] at others ⊢
          simp only [heeds, isDue, Bool.false_eq_true, if_false, Nat.add_zero]
          exact others

private theorem settled_of_not_due (waiting : session.isDue now = false) : Settled session now := by
  refine ⟨?_, ?_⟩
  · intro deadline set
    rw [isDue, set] at waiting
    exact Nat.lt_of_not_le (of_decide_eq_false waiting)
  · intro count
    have unmoved : session.turn (.poll now) = session.quiet := poll_eq_quiet waiting
    induction count with
    | zero => rfl
    | succ count inductionHypothesis =>
        rw [List.replicate_succ, turns, unmoved, List.replicate_succ]
        exact congrArg (List.cons _) inductionHypothesis

/-- Polls at one instant come to rest as soon as one of them does not act. -/
theorem exists_settled (coherent : Coherent session) (bounded : Bounded limit session) (now : Nat) :
    ∃ count ≤ session.pollsAhead limit,
      Settled (session.after (List.replicate count (.poll now))) now := by
  induction ahead : session.pollsAhead limit using Nat.strongRecOn generalizing session with
  | ind ahead inductionHypothesis =>
      cases isDue : session.isDue now with
      | false => exact ⟨0, Nat.zero_le _, settled_of_not_due isDue⟩
      | true =>
          have move := move_turn session (.poll now)
          have fewer := move.pollsAhead_lt coherent bounded isDue
          rw [ahead] at fewer
          obtain ⟨count, few, settled⟩ := inductionHypothesis _ fewer (move.coherent coherent)
            (move.tally.bounded coherent bounded) rfl
          refine ⟨count + 1, Nat.lt_of_le_of_lt few fewer, ?_⟩
          rwa [List.replicate_succ, after_cons]

end Polls

/-- After any run a session that is polled over and over at one instant comes to rest: after at most
two polls for each failure that is allowed its deadline is later than the instant, or there is none,
and further polls do nothing. Nor does it act on more polls than that at any other instants, as long
as nothing else is called. -/
theorem settled_after (device : Device) (settings : Config.Retry) (calls : List Call) :
    (∀ now, ∃ count ≤ 2 * failureLimit settings,
      Settled (((fresh device settings).after calls).after (List.replicate count (.poll now))) now) ∧
      ∀ instants : List Nat,
        heeded (((fresh device settings).after calls).moments (instants.map .poll)) ≤
          2 * failureLimit settings := by
  have coherent := coherent_after device settings calls
  have bounded := bounded_after device settings calls
  have ahead := pollsAhead_le (failureLimit settings) ((fresh device settings).after calls)
  refine ⟨?_, ?_⟩
  · intro now
    obtain ⟨count, few, settled⟩ := exists_settled coherent bounded now
    exact ⟨count, few.trans ahead, settled⟩
  · intro instants
    exact (heeded_le_pollsAhead coherent bounded instants).trans ahead

/-- A session without pauses or time for its attempts acts on every poll until it is given up. -/
example :
    let settings : Config.Retry :=
      { maxConsecutiveFailures := 3, baseBackoff := 0, maxBackoff := 0, scanTimeout := 0,
        connectTimeout := 0 }
    let session := (fresh ⟨"tag", "Tag"⟩ settings).after
      [.start, .event ⟨1, .adapterState true⟩ 0, .event ⟨1, .deviceDiscovered "tag"⟩ 0]
    heeded (session.moments (List.replicate 9 (.poll 0))) = 5 ∧
      (session.after (List.replicate 5 (.poll 0))).phase = .faulted := by decide

end Session

end TagFix
