import TagFix.Anchor.Refresh
import TagFix.Proofs.Anchor.Document
import TagFix.Telemetry.Outcome

/-!
# Refreshes of the directory

A refresh replaces the directory by one that has anchors, or leaves it as it is. So once there are
known anchors there always are. The main statement is `Refresher.directory_after`.
-/

namespace TagFix

open TagFix.Position (Solver)

namespace Anchor

def RefreshOutcome.isUpdate : RefreshOutcome → Bool
  | .updated .. => true
  | _ => false

def HasAnchors (current : Option Directory) : Prop :=
  ∃ known, current = some known ∧ known.entries ≠ []

/-! ## One refresh -/

section Refresh

variable {timeout : Nat} {current : Option Directory} {response : Response}

/-- That a response brings a document with these members before the time is up. -/
structure Brings (timeout : Nat) (response : Response) (members : List (String × Json.Value)) :
    Prop where
  inTime : response.delay ≤ timeout
  fetched : response.fetched = .ok (some (.object members))

/-- That a response brings a document before the time is up, and what is taken in of it. -/
structure Ingests (timeout : Nat) (response : Response) (ingested : Ingested) : Prop where
  inTime : response.delay ≤ timeout
  document : ∃ value, response.fetched = .ok (some value) ∧ ingest value = .ok (some ingested)

/-- What a refresh can come to: a new directory, or a reason to keep the one in use. -/
inductive Refreshed (timeout : Nat) (current : Option Directory) (response : Response) :
    RefreshOutcome × Option Directory → Prop
  | updated {members : List (String × Json.Value)} (brings : Brings timeout response members)
      (usable : placements (Json.entries members) ≠ []) :
      Refreshed timeout current response
        (.updated (Table.ofList (placements (Json.entries members))).size
            (refusals (Json.entries members)).length,
          some (Table.ofList (placements (Json.entries members))))
  | kept {outcome : RefreshOutcome} (other : outcome.isUpdate = false)
      (without : ∀ members, Brings timeout response members →
        placements (Json.entries members) = []) :
      Refreshed timeout current response (outcome, current)

/-- A document that lists no usable member, or is none, changes nothing. -/
theorem refreshed_adopt (inTime : response.delay ≤ timeout) :
    Refreshed timeout current response (adopt current response.fetched) := by
  cases fetched : response.fetched with
  | error fault => exact .kept rfl fun _ brings => nomatch fetched.symm.trans brings.fetched
  | ok document =>
      cases document with
      | none => exact .kept rfl fun _ brings => nomatch fetched.symm.trans brings.fetched
      | some value =>
          cases value with
          | object members =>
              simp only [adopt, ingest_object, Table.size, List.length_eq_zero_iff,
                Table.ofList_eq_nil_iff]
              split
              · next unusable =>
                  refine .kept rfl fun others brings => ?_
                  cases fetched.symm.trans brings.fetched
                  exact unusable
              · next usable => exact .updated ⟨inTime, fetched⟩ usable
          | _ => exact .kept rfl fun _ brings => nomatch fetched.symm.trans brings.fetched

private theorem refreshed_refresh :
    Refreshed timeout current response (refresh timeout current response) := by
  rw [refresh]
  split
  · next inTime => exact refreshed_adopt inTime
  · next late => exact .kept rfl fun _ brings => absurd brings.inTime late

variable {result : RefreshOutcome × Option Directory}
  (refreshed : Refreshed timeout current response result)

include refreshed

private theorem Refreshed.isUpdate_iff : result.1.isUpdate ↔
    ∃ members, Brings timeout response members ∧
      ∃ member ∈ Json.entries members, ∃ id place, Places member id place := by
  cases refreshed with
  | updated brings usable =>
      rw [ne_eq, placements_eq_nil_iff, not_not] at usable
      exact iff_of_true rfl ⟨_, brings, usable⟩
  | kept other without =>
      refine iff_of_false (Bool.eq_false_iff.mp other) ?_
      rintro ⟨members, brings, usable⟩
      exact placements_eq_nil_iff.mp (without members brings) usable

private theorem Refreshed.of_updated {anchors rejected : Nat}
    (outcome : result.1 = .updated anchors rejected) :
    ∃ members known, Brings timeout response members ∧ result.2 = some known ∧
      1 ≤ anchors ∧ anchors = known.size ∧
        rejected = (refusals (Json.entries members)).length ∧ Holds known members := by
  cases refreshed with
  | @updated members brings usable =>
      cases outcome
      have listed := List.length_pos_iff.mpr (mt Table.ofList_eq_nil_iff.mp usable)
      exact ⟨_, _, brings, rfl, listed, rfl, rfl, holds_ofList members⟩
  | kept other =>
      cases outcome
      cases other

private theorem Refreshed.eq_of_not_update (kept : result.1.isUpdate = false) :
    result.2 = current := by
  cases refreshed with
  | updated => cases kept
  | kept => rfl

private theorem Refreshed.exists_ingested (update : result.1.isUpdate = true) :
    ∃ ingested, Ingests timeout response ingested ∧ result.2 = some ingested.directory := by
  cases refreshed with
  | @updated members brings usable =>
      exact ⟨_, ⟨brings.inTime, _, brings.fetched, ingest_object members⟩, rfl⟩
  | kept other =>
      rw [update] at other
      cases other

private theorem Refreshed.hasAnchors (known : HasAnchors current) : HasAnchors result.2 := by
  cases refreshed with
  | updated brings usable => exact ⟨_, rfl, mt Table.ofList_eq_nil_iff.mp usable⟩
  | kept => exact known

end Refresh

/-- A directory with anchors is never found wanting. -/
theorem process_ne_directoryUnavailable {current : Option Directory} (known : HasAnchors current)
    (minRanges : Nat) (solver : Solver Float) (payload : List UInt8) :
    Telemetry.process minRanges solver current payload ≠ .ok .directoryUnavailable := by
  obtain ⟨known, rfl, anchors⟩ := known
  have listed : known.isEmpty = false := by simpa [Table.isEmpty] using anchors
  unfold Telemetry.process
  cases Telemetry.decode payload with
  | error fault => simp [Except.map]
  | ok report =>
      cases report with
      | forwarded => simp [Except.map]
      | ranges ranges =>
          simp only [Except.map, ne_eq, Except.ok.injEq, Telemetry.rangesOutcome, Telemetry.judge,
            listed]
          grind [Telemetry.Selection.outcome]

/-! ## Refreshes in a row -/

namespace Refresher

def after (refresher : Refresher) : Nat → Refresher
  | 0 => refresher
  | count + 1 => (refresher.after count).once.1

/-- What one refresh does with the directory in use: it is replaced if and only if the refresh is
brought a usable document, and then by what that document says. -/
structure Careful (refresher : Refresher) : Prop where
  updated_iff : refresher.once.2.isUpdate ↔
    ∃ members, Brings refresher.timeout refresher.response members ∧
      ∃ member ∈ Json.entries members, ∃ id place, Places member id place
  updated : ∀ anchors rejected, refresher.once.2 = .updated anchors rejected →
    ∃ members known, Brings refresher.timeout refresher.response members ∧
      refresher.once.1.current = some known ∧
        1 ≤ anchors ∧ anchors = known.size ∧
          rejected = (refusals (Json.entries members)).length ∧ Holds known members
  kept : refresher.once.2.isUpdate = false → refresher.once.1.current = refresher.current

/-- Where the directory in use comes from: from the last refresh that brought a new one, or it is
the initial one. -/
inductive Latest (start : Refresher) (count : Nat) : Prop
  | initial (never : ∀ call < count, (start.after call).once.2.isUpdate = false)
      (same : (start.after count).current = start.current)
  | updated (call : Nat) (ingested : Ingested) (earlier : call < count)
      (update : (start.after call).once.2.isUpdate = true)
      (last : ∀ later, call < later → later < count →
        (start.after later).once.2.isUpdate = false)
      (ingests : Ingests (start.after call).timeout (start.after call).response ingested)
      (inUse : (start.after count).current = some ingested.directory)

section Runs

variable (start : Refresher)

private theorem refreshed_once : Refreshed start.timeout start.current start.response
    (start.once.2, start.once.1.current) :=
  refreshed_refresh

private theorem careful : Careful start where
  updated_iff := start.refreshed_once.isUpdate_iff
  updated _ _ := start.refreshed_once.of_updated
  kept := start.refreshed_once.eq_of_not_update

private theorem latest (count : Nat) : Latest start count := by
  induction count with
  | zero => exact .initial (fun _ none => absurd none (Nat.not_lt_zero _)) rfl
  | succ count inductionHypothesis =>
      have refreshed := (start.after count).refreshed_once
      cases update : (start.after count).once.2.isUpdate with
      | true =>
          obtain ⟨ingested, ingests, inUse⟩ := refreshed.exists_ingested update
          refine .updated count ingested (Nat.lt_succ_self count) update ?_ ingests inUse
          intro later after before
          omega
      | false =>
          have same := refreshed.eq_of_not_update update
          cases inductionHypothesis with
          | initial never initially =>
              refine .initial ?_ (same.trans initially)
              intro call before
              rcases Nat.lt_succ_iff_lt_or_eq.mp before with earlier | rfl
              · exact never call earlier
              · exact update
          | updated call ingested earlier updated last ingests inUse =>
              refine .updated call ingested (Nat.lt_succ_of_lt earlier) updated ?_ ingests
                (same.trans inUse)
              intro later after before
              rcases Nat.lt_succ_iff_lt_or_eq.mp before with between | rfl
              · exact last later after between
              · exact update

private theorem hasAnchors_after {earlier : Nat} (known : HasAnchors (start.after earlier).current)
    (later : Nat) : HasAnchors (start.after (earlier + later)).current := by
  induction later with
  | zero => exact known
  | succ later inductionHypothesis =>
      exact (start.after (earlier + later)).refreshed_once.hasAnchors inductionHypothesis

/-- In any number of refreshes, whatever the source answers, the directory in use is the one of the
last refresh that brought anchors. Once there are anchors there always are, and every later payload
is judged by some. -/
theorem directory_after :
    (∀ count, Careful (start.after count)) ∧ (∀ count, Latest start count) ∧
      ∀ earlier later, HasAnchors (start.after earlier).current →
        HasAnchors (start.after (earlier + later)).current ∧
          ∀ minRanges solver payload,
            Telemetry.process minRanges solver (start.after (earlier + later)).current payload ≠
              .ok .directoryUnavailable := by
  refine ⟨fun count => careful _, latest start, ?_⟩
  intro earlier later known
  have still := start.hasAnchors_after known later
  exact ⟨still, process_ne_directoryUnavailable still⟩

end Runs

/-- A source that answers with nothing of use in four ways. -/
def barren : List Response :=
  [⟨0, .ok (some .null)⟩, ⟨0, .ok (some (.object [("gate", .array [])]))⟩,
    ⟨0, .error (.unavailable "gone")⟩, ⟨6000, .ok (some (.object []))⟩]

def settled : Refresher :=
  ⟨5000, barren, some (Table.empty.insert ⟨.replicate 8 0⟩ Position.Point.origin), 0, []⟩

example : (List.range 4).map (fun call => (settled.after call).once.2) =
    [.unchanged, .failed "no usable anchors, 1 rejected",
      .failed "directory source unavailable: gone", .timedOut] := by
  rfl

theorem directory_after_barren :
    HasAnchors (settled.after 0).current ∧ HasAnchors (settled.after (0 + 4)).current :=
  have known : HasAnchors (settled.after 0).current := ⟨_, rfl, List.cons_ne_nil _ _⟩
  ⟨known, ((directory_after settled).2.2 0 4 known).1⟩

/-! ## Scheduled refreshes -/

/-- A schedule says when the fetches start. What they find, and what is in use after them, is as in
refreshes in a row. -/
theorem scheduled_eq (settings : Config.Refresh) (start : Refresher) (rounds : Nat) :
    (start.scheduled settings rounds).timeout = (start.after rounds).timeout ∧
      (start.scheduled settings rounds).responses = (start.after rounds).responses ∧
        (start.scheduled settings rounds).current = (start.after rounds).current := by
  induction rounds with
  | zero => exact ⟨rfl, rfl, rfl⟩
  | succ rounds inductionHypothesis =>
      obtain ⟨timeout, responses, current⟩ := inductionHypothesis
      have response : (start.scheduled settings rounds).response =
          (start.after rounds).response := by
        rw [Refresher.response, Refresher.response, responses]
      refine ⟨timeout, congrArg List.tail responses, ?_⟩
      change (refresh _ _ _).2 = (refresh _ _ _).2
      rw [timeout, current, response]

/-- Nor do known anchors get lost while refreshes go on by a schedule. -/
theorem hasAnchors_scheduled (settings : Config.Refresh) (start : Refresher) {earlier : Nat}
    (known : HasAnchors (start.scheduled settings earlier).current) (later : Nat) :
    HasAnchors (start.scheduled settings (earlier + later)).current := by
  rw [(scheduled_eq settings start _).2.2] at known ⊢
  exact start.hasAnchors_after known later

end Refresher

end Anchor

end TagFix
