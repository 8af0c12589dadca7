import TagFix.Json.Value
import Mathlib.Data.List.Induction
import Mathlib.Data.String.Basic

/-!
# Members of objects

The members of an object that count have ascending keys, and each of them is the last one that was
written under its key.
-/

namespace TagFix.Json

variable {α : Type}

/-- That the keys of pairs ascend, so that no key comes twice. -/
def Ascending (entries : List (String × α)) : Prop :=
  entries.Pairwise fun earlier later => earlier.1 < later.1

/-! ## One more pair -/

section Insertion

variable {key : String} {value : α} {entries : List (String × α)}

private theorem mem_insertSorted_iff (ascending : Ascending entries) {entry : String × α} :
    entry ∈ insertSorted key value entries ↔
      entry = (key, value) ∨ entry ∈ entries ∧ entry.1 ≠ key := by
  induction entries with
  | nil => simp [insertSorted]
  | cons head rest inductionHypothesis =>
      obtain ⟨below, ascendingRest⟩ := List.pairwise_cons.mp ascending
      rw [insertSorted]
      by_cases before : key < head.1
      · -- Every key of the list is above the new one.
        have different : entry ∈ head :: rest → entry.1 ≠ key := by
          intro member
          rcases List.mem_cons.mp member with rfl | later
          · exact ne_of_gt before
          · exact ne_of_gt (lt_trans before (below entry later))
        rw [if_pos before, List.mem_cons]
        exact or_congr_right ⟨fun member => ⟨member, different member⟩, And.left⟩
      · rw [if_neg before]
        by_cases same : key = head.1
        · have different : entry ∈ rest → entry.1 ≠ key := by
            intro later
            rw [same]
            exact ne_of_gt (below entry later)
          rw [if_pos same, List.mem_cons, List.mem_cons]
          apply or_congr_right
          constructor
          · intro later
            exact ⟨Or.inr later, different later⟩
          · rintro ⟨rfl | later, other⟩
            · exact absurd same.symm other
            · exact later
        · rw [if_neg same, List.mem_cons, List.mem_cons, inductionHypothesis ascendingRest]
          constructor
          · rintro (rfl | rfl | ⟨later, other⟩)
            · exact Or.inr ⟨Or.inl rfl, fun equal => same equal.symm⟩
            · exact Or.inl rfl
            · exact Or.inr ⟨Or.inr later, other⟩
          · rintro (rfl | ⟨rfl | later, other⟩)
            · exact Or.inr (Or.inl rfl)
            · exact Or.inl rfl
            · exact Or.inr (Or.inr ⟨later, other⟩)

private theorem ascending_insertSorted (ascending : Ascending entries) :
    Ascending (insertSorted key value entries) := by
  induction entries with
  | nil => exact List.pairwise_singleton _ _
  | cons head rest inductionHypothesis =>
      obtain ⟨below, ascendingRest⟩ := List.pairwise_cons.mp ascending
      rw [insertSorted]
      by_cases before : key < head.1
      · rw [if_pos before]
        refine List.pairwise_cons.mpr ⟨?_, ascending⟩
        intro entry member
        rcases List.mem_cons.mp member with rfl | later
        · exact before
        · exact lt_trans before (below entry later)
      · rw [if_neg before]
        by_cases same : key = head.1
        · rw [if_pos same]
          refine List.pairwise_cons.mpr ⟨?_, ascendingRest⟩
          intro entry later
          rw [same]
          exact below entry later
        · rw [if_neg same]
          refine List.pairwise_cons.mpr ⟨?_, inductionHypothesis ascendingRest⟩
          intro entry member
          rcases (mem_insertSorted_iff ascendingRest).mp member with rfl | ⟨later, -⟩
          · exact lt_of_le_of_ne (not_lt.mp before) (Ne.symm same)
          · exact below entry later

end Insertion

/-! ## All pairs -/

theorem sortedEntries_concat (pairs : List (String × α)) (pair : String × α) :
    sortedEntries (pairs ++ [pair]) = insertSorted pair.1 pair.2 (sortedEntries pairs) := by
  rw [sortedEntries, List.foldl_append]
  rfl

/-- After sorting, the keys ascend and each occurs once. -/
theorem ascending_sortedEntries (pairs : List (String × α)) :
    Ascending (sortedEntries pairs) := by
  induction pairs using List.reverseRecOn with
  | nil => exact List.Pairwise.nil
  | append_singleton pairs pair inductionHypothesis =>
      rw [sortedEntries_concat]
      exact ascending_insertSorted inductionHypothesis

/-- The pair that counts for a key is the last one. -/
theorem mem_sortedEntries_iff {pairs : List (String × α)} {key : String} {value : α} :
    (key, value) ∈ sortedEntries pairs ↔
      (pairs.reverse.find? fun pair => pair.1 == key).map Prod.snd = some value := by
  induction pairs using List.reverseRecOn with
  | nil => simp [sortedEntries]
  | append_singleton pairs pair inductionHypothesis =>
      rw [sortedEntries_concat, mem_insertSorted_iff (ascending_sortedEntries pairs),
        inductionHypothesis, List.reverse_append, List.reverse_singleton, List.singleton_append]
      by_cases same : pair.1 = key
      · have newest : (pair :: pairs.reverse).find? (fun pair => pair.1 == key) = some pair :=
          List.find?_cons_of_pos (beq_iff_eq.mpr same)
        rw [newest, ← same]
        constructor
        · rintro (equal | ⟨-, other⟩)
          · exact congrArg some (congrArg Prod.snd equal).symm
          · exact absurd rfl other
        · intro equal
          exact Or.inl (Prod.ext rfl (Option.some.inj equal).symm)
      · have older : (pair :: pairs.reverse).find? (fun pair => pair.1 == key) =
            pairs.reverse.find? fun pair => pair.1 == key :=
          List.find?_cons_of_neg (by simpa using same)
        rw [older]
        constructor
        · rintro (equal | ⟨found, -⟩)
          · exact absurd (congrArg Prod.fst equal).symm same
          · exact found
        · intro found
          exact Or.inr ⟨found, Ne.symm same⟩

/-- A member counts if its value is the one that the object has under its key. -/
theorem mem_entries_iff {members : List (String × Value)} {key : String} {value : Value} :
    (key, value) ∈ entries members ↔ (Value.object members).member? key = some value :=
  mem_sortedEntries_iff

end TagFix.Json
