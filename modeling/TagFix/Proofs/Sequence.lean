/-!
# Sequences of happenings

What held at some point of a sequence, and what has held since then.
-/

namespace TagFix.Sequence

variable {α : Type} {mark lasts : α → Prop}

/-- At some point of the sequence `mark` held, and `lasts` holds of everything after it. -/
def Since (mark lasts : α → Prop) (entries : List α) : Prop :=
  ∃ earlier entry later,
    entries = earlier ++ entry :: later ∧ mark entry ∧ ∀ other ∈ later, lasts other

@[simp]
theorem not_since_nil : ¬ Since mark lasts [] := by
  rintro ⟨earlier, entry, later, equality, _⟩
  simp at equality

private theorem since_cons_iff (entry : α) (entries : List α) :
    Since mark lasts (entry :: entries) ↔
      (mark entry ∧ ∀ other ∈ entries, lasts other) ∨ Since mark lasts entries := by
  constructor
  · rintro ⟨earlier, marked, later, equality, holds, lasting⟩
    cases earlier with
    | nil =>
        simp only [List.nil_append, List.cons.injEq] at equality
        obtain ⟨rfl, rfl⟩ := equality
        exact Or.inl ⟨holds, lasting⟩
    | cons first rest =>
        simp only [List.cons_append, List.cons.injEq] at equality
        exact Or.inr ⟨rest, marked, later, equality.2, holds, lasting⟩
  · rintro (⟨holds, lasting⟩ | ⟨earlier, marked, later, equality, holds, lasting⟩)
    · exact ⟨[], entry, entries, rfl, holds, lasting⟩
    · exact ⟨entry :: earlier, marked, later, by rw [equality, List.cons_append], holds, lasting⟩

/-- What has lasted was marked among the later entries, or before them and outlived them. -/
theorem since_append_iff (entries more : List α) :
    Since mark lasts (entries ++ more) ↔
      Since mark lasts more ∨ (Since mark lasts entries ∧ ∀ other ∈ more, lasts other) := by
  induction entries with
  | nil => simp
  | cons entry rest inductionHypothesis =>
      rw [List.cons_append, since_cons_iff, since_cons_iff, inductionHypothesis]
      simp only [List.mem_append, or_imp, forall_and]
      rw [or_left_comm, or_and_right, and_assoc]

/-- The law for one more entry. -/
theorem since_concat_iff (entries : List α) (entry : α) :
    Since mark lasts (entries ++ [entry]) ↔
      mark entry ∨ (Since mark lasts entries ∧ lasts entry) := by
  rw [since_append_iff, since_cons_iff]
  simp

end TagFix.Sequence
