import TagFix.Proofs.Anchor.Document
import TagFix.Proofs.Json.Entries
import Mathlib.Data.List.Nodup
import Mathlib.Data.List.Pairwise
import Mathlib.Data.List.Perm.Subperm

/-!
# Members of directory documents

Every member of a document is either taken for an anchor or reported. Of several members that name
one anchor, the one with the greatest key tells where the anchor stands.
-/

namespace TagFix

/-! ## Sizes of tables -/

namespace Table

variable {κ α : Type} [DecidableEq κ]

private theorem get?_eq_none_iff {table : Table κ α} {key : κ} :
    table.get? key = none ↔ key ∉ table.entries.map Prod.fst := by
  rw [get?, Option.map_eq_none_iff, List.find?_eq_none, List.mem_map]
  constructor
  · rintro absent ⟨entry, member, same⟩
    exact absent entry member (decide_eq_true same)
  · intro absent entry member same
    exact absent ⟨entry, member, of_decide_eq_true same⟩

private theorem keys_subperm (pairs : List (κ × α)) :
    ((ofList pairs).entries.map Prod.fst).Subperm (pairs.map Prod.fst) :=
  List.subperm_of_subset (ofList pairs).distinct fun _ member => mem_keys_ofList.mp member

private theorem size_ofList_le (pairs : List (κ × α)) : (ofList pairs).size ≤ pairs.length := by
  have bound := (keys_subperm pairs).length_le
  rwa [List.length_map, List.length_map] at bound

/-- A table is as long as the list that it is made of if no key comes twice. -/
theorem size_ofList_eq_iff {pairs : List (κ × α)} :
    (ofList pairs).size = pairs.length ↔ (pairs.map Prod.fst).Nodup := by
  have lengths : (ofList pairs).size = pairs.length ↔
      ((ofList pairs).entries.map Prod.fst).length = (pairs.map Prod.fst).length := by
    rw [List.length_map, List.length_map]
    rfl
  rw [lengths]
  constructor
  · intro same
    have permutation := (keys_subperm pairs).perm_of_length_le (Nat.le_of_eq same.symm)
    exact permutation.nodup_iff.mp (ofList pairs).distinct
  · intro distinct
    apply List.Perm.length_eq
    rw [List.perm_ext_iff_of_nodup (ofList pairs).distinct distinct]
    intro key
    exact mem_keys_ofList

end Table

namespace Anchor

open TagFix.Json (Value Ascending)
open TagFix.Position (Point)

variable {members : List (String × Value)} {member : String × Value} {id : AnchorId}
  {place : Point Float}

/-! ## Taken or reported -/

section Cases

variable {placement : AnchorId × Point Float} {reason : Rejection}

private theorem placements_cons_of_ok (found : entry member.1 member.2 = .ok placement) :
    placements (member :: members) = placement :: placements members := by
  simp [placements, found, Except.toOption]

private theorem placements_cons_of_error (found : entry member.1 member.2 = .error reason) :
    placements (member :: members) = placements members := by
  simp [placements, found, Except.toOption]

private theorem refusals_cons_of_ok (found : entry member.1 member.2 = .ok placement) :
    refusals (member :: members) = refusals members := by
  simp [refusals, found]

private theorem refusals_cons_of_error (found : entry member.1 member.2 = .error reason) :
    refusals (member :: members) = (member.1, reason) :: refusals members := by
  simp [refusals, found]

private theorem placements_concat_of_ok (found : entry member.1 member.2 = .ok placement) :
    placements (members ++ [member]) = placements members ++ [placement] := by
  rw [placements, List.filterMap_append, ← placements, ← placements, placements_cons_of_ok found]
  rfl

private theorem placements_concat_of_error (found : entry member.1 member.2 = .error reason) :
    placements (members ++ [member]) = placements members := by
  rw [placements, List.filterMap_append, ← placements, ← placements,
    placements_cons_of_error found]
  exact List.append_nil _

end Cases

/-- Every member is either taken or reported. -/
theorem length_placements_add (members : List (String × Value)) :
    (placements members).length + (refusals members).length = members.length := by
  induction members with
  | nil => rfl
  | cons member members inductionHypothesis =>
      cases found : entry member.1 member.2 with
      | ok placement =>
          rw [placements_cons_of_ok found, refusals_cons_of_ok found, List.length_cons,
            List.length_cons, ← inductionHypothesis]
          omega
      | error reason =>
          rw [placements_cons_of_error found, refusals_cons_of_error found, List.length_cons,
            List.length_cons, ← inductionHypothesis]
          omega

private theorem keys_refusals_sublist (members : List (String × Value)) :
    List.Sublist ((refusals members).map Prod.fst) (members.map Prod.fst) := by
  induction members with
  | nil => exact List.Sublist.slnil
  | cons member members inductionHypothesis =>
      cases found : entry member.1 member.2 with
      | ok placement =>
          rw [refusals_cons_of_ok found]
          exact inductionHypothesis.cons member.1
      | error reason =>
          rw [refusals_cons_of_error found]
          exact inductionHypothesis.cons_cons member.1

private theorem mem_keys_refusals_iff {key : String} :
    key ∈ (refusals members).map Prod.fst ↔
      ∃ value, (key, value) ∈ members ∧ ¬∃ id place, Places (key, value) id place := by
  rw [refusals, List.map_filterMap, List.mem_filterMap]
  constructor
  · rintro ⟨member, listed, reported⟩
    cases found : entry member.1 member.2 with
    | ok placement =>
        rw [found] at reported
        cases reported
    | error reason =>
        rw [found] at reported
        cases reported
        refine ⟨member.2, listed, ?_⟩
        rintro ⟨id, place, places⟩
        rw [entry_eq_ok_iff.mpr places] at found
        cases found
  · rintro ⟨value, listed, unplaced⟩
    refine ⟨(key, value), listed, ?_⟩
    cases found : entry key value with
    | ok placement => exact absurd ⟨_, _, entry_eq_ok_iff.mp found⟩ unplaced
    | error reason => rfl

/-! ## Members of one anchor -/

/-- That a document places an anchor: the member with the greatest key among those that do so tells
where it stands. -/
def Governs (members : List (String × Value)) (id : AnchorId) (place : Point Float) : Prop :=
  ∃ member ∈ members, Places member id place ∧
    ∀ other ∈ members, ∀ elsewhere, Places other id elsewhere → other.1 ≤ member.1

theorem Places.unique {elsewhere : Point Float} {other : AnchorId} (first : Places member id place)
    (second : Places member other elsewhere) : id = other ∧ place = elsewhere := by
  have same := (entry_eq_ok_iff.mpr first).symm.trans (entry_eq_ok_iff.mpr second)
  rw [Except.ok.injEq, Prod.mk.injEq] at same
  exact same

theorem lt_of_ascending_concat (ascending : Ascending (members ++ [member]))
    {other : String × Value} (listed : other ∈ members) : other.1 < member.1 :=
  (List.pairwise_append.mp ascending).2.2 other listed member (List.mem_singleton_self member)

private theorem governs_concat_of_places (ascending : Ascending (members ++ [member]))
    (places : Places member id place) {found : Point Float} :
    Governs (members ++ [member]) id found ↔ place = found := by
  have last : member ∈ members ++ [member] := List.mem_append_right _ List.mem_cons_self
  constructor
  · rintro ⟨governing, listed, placed, greatest⟩
    have above := greatest member last place places
    rcases List.mem_append.mp listed with earlier | newest
    · exact absurd (lt_of_ascending_concat ascending earlier) (not_lt.mpr above)
    · rw [List.mem_singleton.mp newest] at placed
      exact (places.unique placed).2
  · rintro rfl
    refine ⟨member, last, places, ?_⟩
    intro other listed elsewhere placed
    rcases List.mem_append.mp listed with earlier | newest
    · exact le_of_lt (lt_of_ascending_concat ascending earlier)
    · rw [List.mem_singleton.mp newest]

private theorem governs_concat_of_not_places (unplaced : ∀ place, ¬Places member id place) :
    Governs (members ++ [member]) id place ↔ Governs members id place := by
  constructor
  · rintro ⟨governing, listed, placed, greatest⟩
    rcases List.mem_append.mp listed with earlier | newest
    · refine ⟨governing, earlier, placed, ?_⟩
      intro other otherListed
      exact greatest other (List.mem_append_left _ otherListed)
    · rw [List.mem_singleton.mp newest] at placed
      exact absurd placed (unplaced place)
  · rintro ⟨governing, listed, placed, greatest⟩
    refine ⟨governing, List.mem_append_left _ listed, placed, ?_⟩
    intro other otherListed elsewhere otherPlaced
    rcases List.mem_append.mp otherListed with earlier | newest
    · exact greatest other earlier elsewhere otherPlaced
    · rw [List.mem_singleton.mp newest] at otherPlaced
      exact absurd otherPlaced (unplaced elsewhere)

/-- A directory answers with what the greatest key of an anchor says. -/
theorem get?_placements_iff (ascending : Ascending members) :
    (Table.ofList (placements members)).get? id = some place ↔ Governs members id place := by
  induction members using List.reverseRecOn with
  | nil =>
      constructor
      · intro found
        cases found
      · rintro ⟨member, listed, -⟩
        cases listed
  | append_singleton members member inductionHypothesis =>
      have earlier := inductionHypothesis (List.pairwise_append.mp ascending).1
      cases found : entry member.1 member.2 with
      | error reason =>
          rw [placements_concat_of_error found, earlier, governs_concat_of_not_places]
          intro elsewhere places
          rw [entry_eq_ok_iff.mpr places] at found
          cases found
      | ok placement =>
          have places : Places member placement.1 placement.2 := entry_eq_ok_iff.mp found
          rw [placements_concat_of_ok found, Table.ofList_concat, Table.get?_insert]
          by_cases same : placement.1 = id
          · rw [same] at places
            rw [if_pos same, governs_concat_of_places ascending places, Option.some.injEq]
          · rw [if_neg same, earlier, governs_concat_of_not_places]
            intro elsewhere elsewherePlaces
            exact same (places.unique elsewherePlaces).1

/-- An anchor is not in the table just when no member tells where it stands. -/
theorem get?_placements_eq_none_iff :
    (Table.ofList (placements members)).get? id = none ↔
      ∀ member ∈ members, ∀ place, ¬Places member id place := by
  rw [Table.get?_eq_none_iff, Table.mem_keys_ofList, List.mem_map]
  constructor
  · intro absent member listed place places
    exact absent ⟨(id, place), mem_placements_iff.mpr ⟨member, listed, places⟩, rfl⟩
  · rintro absent ⟨⟨found, place⟩, listed, rfl⟩
    obtain ⟨member, memberListed, places⟩ := mem_placements_iff.mp listed
    exact absent member memberListed place places

def Distinct (members : List (String × Value)) : Prop :=
  ∀ member ∈ members, ∀ other ∈ members, ∀ id place elsewhere,
    Places member id place → Places other id elsewhere → member = other

private theorem nodup_keys_placements_iff (ascending : Ascending members) :
    ((placements members).map Prod.fst).Nodup ↔ Distinct members := by
  have once : members.Nodup := ascending.imp fun below same => ne_of_lt below (congrArg _ same)
  rw [List.Nodup, List.pairwise_map, placements, List.pairwise_filterMap]
  simp only [toOption_eq_some_iff]
  constructor
  · intro apart member listed other otherListed id place elsewhere places otherPlaces
    by_contra different
    have symmetric : Std.Symm fun first second : String × Value =>
        ∀ found, entry first.1 first.2 = .ok found →
          ∀ found', entry second.1 second.2 = .ok found' → found.1 ≠ found'.1 :=
      ⟨fun _ _ apart found taken found' taken' same => apart found' taken' found taken same.symm⟩
    exact apart.forall listed otherListed different (id, place) (entry_eq_ok_iff.mpr places)
      (id, elsewhere) (entry_eq_ok_iff.mpr otherPlaces) rfl
  · intro distinct
    apply List.Nodup.pairwise_of_forall_ne once
    intro member listed other otherListed different placement found placement' found' same
    have places : Places member placement.1 placement.2 := entry_eq_ok_iff.mp found
    have otherPlaces : Places other placement'.1 placement'.2 := entry_eq_ok_iff.mp found'
    rw [← same] at otherPlaces
    exact different (distinct member listed other otherListed _ _ _ places otherPlaces)

/-! ## Documents -/

/-- That what a document gave is made of its members: those that are of no use are reported once
each, in the order of their keys, and all others tell where the anchors stand. -/
structure Partitions (members : List (String × Value)) (ingested : Ingested) : Prop where
  reported : ∀ key, key ∈ ingested.rejected.map Prod.fst ↔
    ∃ value, (key, value) ∈ members ∧ ¬∃ id place, Places (key, value) id place
  ascending : Ascending ingested.rejected
  governed : ∀ id place, ingested.directory.get? id = some place ↔ Governs members id place
  unplaced : ∀ id, ingested.directory.get? id = none ↔
    ∀ member ∈ members, ∀ place, ¬Places member id place
  finite : ∀ anchor ∈ ingested.directory.entries, anchor.2.isFinite = true
  bounded : ingested.directory.size + ingested.rejected.length ≤ members.length
  exact : ingested.directory.size + ingested.rejected.length = members.length ↔ Distinct members

private theorem partitions_ofList (ascending : Ascending members) :
    Partitions members ⟨Table.ofList (placements members), refusals members⟩ := by
  have lengths := length_placements_add members
  have shorter := Table.size_ofList_le (placements members)
  have bounded : (Table.ofList (placements members)).size + (refusals members).length ≤
      members.length := by omega
  have full : (Table.ofList (placements members)).size + (refusals members).length =
      members.length ↔ (Table.ofList (placements members)).size = (placements members).length := by
    omega
  rw [Table.size_ofList_eq_iff, nodup_keys_placements_iff ascending] at full
  refine ⟨fun key => mem_keys_refusals_iff, ?_, fun id place => get?_placements_iff ascending,
    fun id => get?_placements_eq_none_iff, ?_, bounded, full⟩
  · have keys : (members.map Prod.fst).Pairwise (· < ·) := List.pairwise_map.mpr ascending
    exact List.pairwise_map.mp (keys.sublist (keys_refusals_sublist members))
  · intro anchor listed
    obtain ⟨member, -, places⟩ := mem_placements_iff.mp (Table.mem_of_mem_ofList listed)
    obtain ⟨x, y, z, -, same, finiteX, finiteY, finiteZ⟩ := places.coordinates
    rw [same, Point.isFinite, Bool.and_eq_true, Bool.and_eq_true]
    exact ⟨⟨finiteX, finiteY⟩, finiteZ⟩

/-- A document that is an object gives a directory, which tells of its members, in the order of
their keys, where they place an anchor, and a report on all others. -/
theorem ingest_partitions (members : List (String × Value)) :
    Ascending (Json.entries members) ∧
      (∀ key value, (key, value) ∈ Json.entries members ↔
        (Value.object members).member? key = some value) ∧
      ∃ ingested, ingest (.object members) = .ok (some ingested) ∧
        Partitions (Json.entries members) ingested := by
  have ascending : Ascending (Json.entries members) := Json.ascending_sortedEntries members
  refine ⟨ascending, fun key value => Json.mem_entries_iff, _, ingest_object members, ?_⟩
  exact partitions_ofList ascending

end Anchor

end TagFix
