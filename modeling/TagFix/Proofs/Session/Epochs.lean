import TagFix.Proofs.Session.Run

/-!
# Epochs of a run

The epoch of a session counts its advances until the 64 bits run out. Until then every operation so
far is of an epoch that has begun, so an epoch that only begins has none.
-/

namespace TagFix

open Link (Epoch Operation)

def Link.Operation.epoch? : Operation → Option Epoch
  | .checkAdapter epoch | .startScan epoch | .connect _ epoch | .disconnect _ epoch => some epoch
  | .startNotification _ _ epoch | .read _ _ epoch | .write _ _ _ epoch => some epoch
  | .stopScan => none

namespace Session

/-! ## Advances -/

/-- How often the epoch of a run advances. No call advances it more than once. -/
def advances (run : List Moment) : Nat :=
  run.countP fun moment => moment.turn.session.epoch ≠ moment.session.epoch

/-- A call advances the epoch at most once. -/
theorem Move.epoch_eq {session : Session} {call : Call} {turn : Turn}
    (move : Move session call turn) :
    turn.session.epoch = session.epoch ∨ turn.session.epoch = session.epoch + 1 := by
  cases move with
  | started | cancelled | scanStopped | disconnecting | gaveUp | paused | rescanned =>
      exact Or.inr rfl
  | _ => exact Or.inl rfl

theorem advances_concat (run : List Moment) (moment : Moment) :
    advances (run ++ [moment]) =
      advances run + if moment.turn.session.epoch ≠ moment.session.epoch then 1 else 0 := by
  simp [advances, List.countP_append, List.countP_singleton]

theorem advances_moments_append (start : Session) (earlier later : List Call) :
    advances (start.moments (earlier ++ later)) =
      advances (start.moments earlier) + advances ((start.after earlier).moments later) := by
  rw [moments_append, advances, List.countP_append]
  rfl

private theorem toNat_add_one {epoch : Epoch} (room : epoch.toNat + 1 < UInt64.size) :
    (epoch + 1).toNat = epoch.toNat + 1 := by
  rw [UInt64.toNat_add]
  exact Nat.mod_eq_of_lt room

theorem ne_add_one (epoch : Epoch) : epoch + 1 ≠ epoch := by
  intro same
  have values := congrArg UInt64.toNat same
  rw [UInt64.toNat_add] at values
  have bound := epoch.toNat_lt
  simp only [UInt64.toNat_one] at values
  omega

private theorem Move.toNat_epoch_eq {session : Session} {call : Call} {turn : Turn}
    (move : Move session call turn)
    (room : session.epoch.toNat + (if turn.session.epoch ≠ session.epoch then 1 else 0) <
      UInt64.size) :
    turn.session.epoch.toNat =
      session.epoch.toNat + if turn.session.epoch ≠ session.epoch then 1 else 0 := by
  rcases move.epoch_eq with same | next
  · rw [same, if_neg (not_not_intro rfl), Nat.add_zero]
  · have advanced := ne_add_one session.epoch
    rw [next, if_pos advanced] at room ⊢
    exact toNat_add_one room

/-- As long as the epochs have not run out, the epoch is the number of its advances. -/
theorem toNat_epoch_after {session : Session} (zero : session.epoch = 0) (calls : List Call)
    (enough : advances (session.moments calls) < UInt64.size) :
    (session.after calls).epoch.toNat = advances (session.moments calls) := by
  induction calls using List.reverseRecOn with
  | nil => simp [advances, zero]
  | append_singleton calls call inductionHypothesis =>
      rw [moments_concat, advances_concat] at enough ⊢
      have before := inductionHypothesis (by omega)
      rw [← before] at enough ⊢
      rw [after_concat]
      exact (move_turn _ call).toNat_epoch_eq enough

/-- As long as the epochs have not run out, no call takes the epoch back. -/
theorem epoch_le_of_advances {session : Session} (zero : session.epoch = 0) {calls : List Call}
    {call : Call} (enough : advances (session.moments (calls ++ [call])) < UInt64.size) :
    (session.after calls).epoch ≤ ((session.after calls).turn call).session.epoch := by
  have after := toNat_epoch_after zero (calls ++ [call]) enough
  rw [moments_concat, advances_concat] at enough after
  have before := toNat_epoch_after zero calls (by omega)
  rw [UInt64.le_iff_toNat_le, before, ← after_concat, after]
  exact Nat.le_add_right _ _

/-! ## Operations so far -/

/-- No operation of a run is of a later epoch. -/
def Past (run : List Moment) (epoch : Epoch) : Prop :=
  ∀ operation ∈ issuedIn run, ∀ issuedAt, operation.epoch? = some issuedAt → issuedAt ≤ epoch

section Moves

variable {run : List Moment} {session : Session} {call : Call} {turn : Turn}

theorem epoch_of_mem_cleanup {setback : Setback} {operation : Operation} {epoch : Epoch}
    (member : operation ∈ setback.cleanup session) (stamped : operation.epoch? = some epoch) :
    epoch = session.epoch := by
  cases setback with
  | scanTimedOut =>
      rw [List.mem_singleton.mp member] at stamped
      cases stamped
  | connectTimedOut =>
      rw [List.mem_singleton.mp member] at stamped
      exact (Option.some.inj stamped).symm
  | _ => cases member

private theorem epoch_of_mem_hangUp {operation : Operation} {epoch : Epoch}
    (member : operation ∈ session.hangUp) (stamped : operation.epoch? = some epoch) :
    epoch = session.epoch + 1 := by
  unfold hangUp at member
  split at member
  · rw [List.mem_singleton.mp member] at stamped
    exact (Option.some.inj stamped).symm
  · cases member

/-- A call issues operations of the epoch that it finds or of the one that it leaves. -/
theorem Move.epoch_of_issued (move : Move session call turn) {operation : Operation}
    (issued : operation ∈ turn.issued) {epoch : Epoch} (stamped : operation.epoch? = some epoch) :
    epoch = session.epoch ∨ epoch = turn.session.epoch := by
  cases move with
  | ignored | cancelled | adapterOff | subscribed | noted | writeCompleted | writeFailed
  | unlinked | unlinkFailed => cases issued
  | started | scanStopped | disconnecting | written | adapterReady | found | linked | readBegun
  | scanRetried | connectRetried | subscribeRetried =>
      simp only [List.mem_cons, List.not_mem_nil, or_false] at issued
      grind [Operation.epoch?]
  | readCompleted | readFailed => grind [Operation.epoch?, nextRead]
  | gaveUp =>
      rcases List.mem_append.mp issued with cleaned | hung
      · exact Or.inl (epoch_of_mem_cleanup cleaned stamped)
      · exact Or.inr (epoch_of_mem_hangUp hung stamped)
  | paused => exact Or.inl (epoch_of_mem_cleanup issued stamped)
  | rescanned =>
      rcases List.mem_append.mp issued with ended | scanned
      · rcases List.mem_append.mp ended with cleaned | hung
        · exact Or.inl (epoch_of_mem_cleanup cleaned stamped)
        · exact Or.inr (epoch_of_mem_hangUp (Setback.mem_hangUp hung) stamped)
      · rw [List.mem_singleton.mp scanned] at stamped
        exact Or.inr (Option.some.inj stamped).symm

private theorem Past.extended (past : Past run session.epoch) (move : Move session call turn)
    (made : session.turn call = turn) (forward : session.epoch ≤ turn.session.epoch) :
    Past (run ++ [⟨session, call⟩]) turn.session.epoch := by
  intro operation issued issuedAt stamped
  rw [issuedIn_extended made, List.mem_append] at issued
  rcases issued with before | now
  · exact UInt64.le_trans (past operation before issuedAt stamped) forward
  · rcases move.epoch_of_issued now stamped with found | left
    · rw [found]
      exact forward
    · rw [left]
      exact UInt64.le_refl _

/-- Nothing was issued in an epoch that only begins. -/
theorem Past.not_issued (past : Past run session.epoch)
    (forward : session.epoch ≤ session.epoch + 1) {operation : Operation}
    (stamped : operation.epoch? = some (session.epoch + 1)) : operation ∉ issuedIn run := by
  intro issued
  have back := past operation issued _ stamped
  exact ne_add_one session.epoch (UInt64.le_antisymm back forward)

end Moves

/-- As long as the epoch has not gone around, no operation of a run is of a later one. -/
theorem past_after {session : Session} (zero : session.epoch = 0) (calls : List Call)
    (enough : advances (session.moments calls) < UInt64.size) :
    Past (session.moments calls) (session.after calls).epoch := by
  induction calls using List.reverseRecOn with
  | nil => exact List.forall_mem_nil _
  | append_singleton calls call inductionHypothesis =>
      have forward := epoch_le_of_advances zero enough
      rw [moments_concat, advances_concat] at enough
      rw [moments_concat, after_concat]
      exact (inductionHypothesis (by omega)).extended (move_turn _ call) rfl forward

end Session

end TagFix
