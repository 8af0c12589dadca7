import TagFix.Anchor.Document
import TagFix.Proofs.Telemetry.Selection

/-!
# Directories from documents

A document gives the directory of those of its members that tell where an anchor stands. All others
are reported.
-/

namespace TagFix

/-! ## Tables from lists -/

namespace Table

variable {κ α : Type} [DecidableEq κ]

private theorem mem_of_mem_insertEntry {key : κ} {value : α} {entries : List (κ × α)}
    {entry : κ × α}
    (member : entry ∈ insertEntry key value entries) : entry = (key, value) ∨ entry ∈ entries := by
  induction entries with
  | nil => exact Or.inl (List.mem_singleton.mp member)
  | cons head rest inductionHypothesis =>
      rw [insertEntry] at member
      split at member
      · exact (List.mem_cons.mp member).imp_right (List.mem_cons_of_mem _)
      · rcases List.mem_cons.mp member with first | later
        · exact Or.inr (first ▸ List.mem_cons_self)
        · exact (inductionHypothesis later).imp_right (List.mem_cons_of_mem _)

theorem ofList_concat (pairs : List (κ × α)) (pair : κ × α) :
    ofList (pairs ++ [pair]) = (ofList pairs).insert pair.1 pair.2 :=
  List.foldl_append

/-- A table has no pairs but those of the list that it is made of. -/
theorem mem_of_mem_ofList {pairs : List (κ × α)} {entry : κ × α}
    (member : entry ∈ (ofList pairs).entries) : entry ∈ pairs := by
  induction pairs using List.reverseRecOn with
  | nil => exact member
  | append_singleton pairs pair inductionHypothesis =>
      rw [ofList_concat] at member
      rw [List.mem_append, List.mem_singleton]
      exact (mem_of_mem_insertEntry member).symm.imp_left inductionHypothesis

/-- A table has every key of the list that it is made of. -/
theorem mem_keys_ofList {pairs : List (κ × α)} {key : κ} :
    key ∈ (ofList pairs).entries.map Prod.fst ↔ key ∈ pairs.map Prod.fst := by
  induction pairs using List.reverseRecOn with
  | nil => exact Iff.rfl
  | append_singleton pairs pair inductionHypothesis =>
      rw [ofList_concat, keys_insert, List.map_append, List.mem_append, ← inductionHypothesis]
      split
      · next known =>
          refine ⟨Or.inl, ?_⟩
          rintro (old | new)
          · exact old
          · rw [List.mem_singleton.mp new]
            exact known
      · rw [List.mem_append]
        rfl

theorem ofList_eq_nil_iff {pairs : List (κ × α)} : (ofList pairs).entries = [] ↔ pairs = [] := by
  constructor
  · intro empty
    have unkeyed : pairs.map Prod.fst = [] := by
      refine List.eq_nil_iff_forall_not_mem.mpr fun key member => ?_
      rw [← mem_keys_ofList, empty] at member
      cases member
    exact List.map_eq_nil_iff.mp unkeyed
  · rintro rfl
    rfl

end Table

namespace Anchor

open TagFix.Json (Value)
open TagFix.Position (Point)

/-! ## Members -/

/-- A member of a document that tells where an anchor stands: its key is the address, and its value
an array of the three coordinates, all of them finite. -/
structure Places (member : String × Value) (id : AnchorId) (place : Point Float) : Prop where
  address : AnchorId.parse member.1 = .ok id
  coordinates : ∃ x y z : Json.Number, member.2 = .array [.number x, .number y, .number z] ∧
    place = ⟨x.toFloat, y.toFloat, z.toFloat⟩ ∧
      x.toFloat.isFinite ∧ y.toFloat.isFinite ∧ z.toFloat.isFinite

private theorem exists_of_bind_eq_ok {ε α β : Type} {first : Except ε α} {next : α → Except ε β}
    {result : β} (made : first >>= next = .ok result) :
    ∃ found, first = .ok found ∧ next found = .ok result := by
  cases first with
  | error fault => cases made
  | ok found => exact ⟨found, rfl, made⟩

private theorem coordinate_eq_ok_iff {value : Value} {found : Float} :
    coordinate value = .ok found ↔
      ∃ n : Json.Number, value = .number n ∧ found = n.toFloat ∧ n.toFloat.isFinite := by
  cases value with
  | number n =>
      simp only [coordinate, Value.number.injEq, exists_eq_left']
      split
      · next finite => simpa [finite] using eq_comm
      · next infinite => simp [infinite]
  | _ => simp [coordinate]

/-- A point is read from an array of three finite numbers and from nothing else. -/
theorem point_eq_ok_iff {value : Value} {place : Point Float} :
    point value = .ok place ↔
      ∃ x y z : Json.Number, value = .array [.number x, .number y, .number z] ∧
        place = ⟨x.toFloat, y.toFloat, z.toFloat⟩ ∧
          x.toFloat.isFinite ∧ y.toFloat.isFinite ∧ z.toFloat.isFinite := by
  constructor
  · intro found
    unfold point at found
    split at found
    · obtain ⟨_, first, found⟩ := exists_of_bind_eq_ok found
      obtain ⟨_, second, found⟩ := exists_of_bind_eq_ok found
      obtain ⟨_, third, found⟩ := exists_of_bind_eq_ok found
      obtain ⟨x, rfl, rfl, finiteX⟩ := coordinate_eq_ok_iff.mp first
      obtain ⟨y, rfl, rfl, finiteY⟩ := coordinate_eq_ok_iff.mp second
      obtain ⟨z, rfl, rfl, finiteZ⟩ := coordinate_eq_ok_iff.mp third
      cases found
      exact ⟨x, y, z, rfl, rfl, finiteX, finiteY, finiteZ⟩
    · cases found
    · cases found
  · rintro ⟨x, y, z, rfl, rfl, finiteX, finiteY, finiteZ⟩
    have first := coordinate_eq_ok_iff.mpr ⟨x, rfl, rfl, finiteX⟩
    have second := coordinate_eq_ok_iff.mpr ⟨y, rfl, rfl, finiteY⟩
    have third := coordinate_eq_ok_iff.mpr ⟨z, rfl, rfl, finiteZ⟩
    rw [point, first, second, third]
    rfl

/-- A member becomes an entry just when it tells where an anchor stands. -/
theorem entry_eq_ok_iff {member : String × Value} {id : AnchorId} {place : Point Float} :
    entry member.1 member.2 = .ok (id, place) ↔ Places member id place := by
  unfold entry
  constructor
  · intro found
    split at found
    · cases found
    · next address =>
        cases located : point member.2 with
        | error reason =>
            rw [located] at found
            cases found
        | ok place =>
            rw [located] at found
            cases found
            exact ⟨address, point_eq_ok_iff.mp located⟩
  · intro places
    rw [places.address, point_eq_ok_iff.mpr places.coordinates]
    rfl

/-! ## Documents -/

/-- Where the members of a document say that anchors stand, in their order. -/
def placements (members : List (String × Value)) : List (AnchorId × Point Float) :=
  members.filterMap fun member => (entry member.1 member.2).toOption

def refusals (members : List (String × Value)) : List (String × Rejection) :=
  members.filterMap fun member =>
    match entry member.1 member.2 with
    | .ok _ => none
    | .error reason => some (member.1, reason)

theorem toOption_eq_some_iff {ε α : Type} {result : Except ε α} {found : α} :
    result.toOption = some found ↔ result = .ok found := by
  cases result <;> simp [Except.toOption]

theorem mem_placements_iff {members : List (String × Value)} {id : AnchorId}
    {place : Point Float} :
    (id, place) ∈ placements members ↔ ∃ member ∈ members, Places member id place := by
  simp only [placements, List.mem_filterMap, toOption_eq_some_iff, entry_eq_ok_iff]

/-- Nothing is placed just when no member tells where an anchor stands. -/
theorem placements_eq_nil_iff {members : List (String × Value)} :
    placements members = [] ↔ ¬∃ member ∈ members, ∃ id place, Places member id place := by
  rw [List.eq_nil_iff_forall_not_mem]
  constructor
  · rintro none ⟨member, listed, id, place, places⟩
    exact none (id, place) (mem_placements_iff.mpr ⟨member, listed, places⟩)
  · intro none placement found
    obtain ⟨member, listed, places⟩ := mem_placements_iff.mp found
    exact none ⟨member, listed, _, _, places⟩

/-- A document gives the table of the places that it tells. -/
theorem foldl_take (members : List (String × Value)) :
    members.foldl Ingested.take Ingested.empty =
      ⟨Table.ofList (placements members), refusals members⟩ := by
  induction members using List.reverseRecOn with
  | nil => rfl
  | append_singleton members member inductionHypothesis =>
      rw [List.foldl_append, inductionHypothesis, List.foldl_cons, List.foldl_nil, Ingested.take]
      cases found : entry member.1 member.2 with
      | ok placement =>
          have placed : placements (members ++ [member]) = placements members ++ [placement] := by
            simp [placements, found, Except.toOption]
          have refused : refusals (members ++ [member]) = refusals members := by
            simp [refusals, found]
          rw [placed, refused, Table.ofList_concat]
      | error reason => simp [placements, refusals, found, Except.toOption]

theorem ingest_object (members : List (String × Value)) :
    ingest (.object members) =
      .ok (some ⟨Table.ofList (placements (Json.entries members)),
        refusals (Json.entries members)⟩) := by
  rw [ingest, foldl_take]

/-- A directory that holds the anchors of a document, where the document says that they stand, and
no others. -/
structure Holds (known : Directory) (members : List (String × Value)) : Prop where
  placed : ∀ anchor ∈ known.entries,
    ∃ member ∈ Json.entries members, Places member anchor.1 anchor.2
  complete : ∀ member ∈ Json.entries members, ∀ id place, Places member id place →
    id ∈ known.entries.map Prod.fst

/-- The table of the placements of a document holds its anchors. -/
theorem holds_ofList (members : List (String × Value)) :
    Holds (Table.ofList (placements (Json.entries members))) members where
  placed _ listed := mem_placements_iff.mp (Table.mem_of_mem_ofList listed)
  complete member listed id place places := by
    rw [Table.mem_keys_ofList]
    exact List.mem_map.mpr ⟨_, mem_placements_iff.mpr ⟨member, listed, places⟩, rfl⟩

end Anchor

end TagFix
