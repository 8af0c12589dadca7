/-!
Tables: pairs with distinct keys, listed in the order in which the keys first arrived. Inserting a
pair under a known key replaces the value and keeps the place.
-/

namespace TagFix

/-- Pairs whose keys are all different, in the order in which the keys first arrived. -/
structure Table (κ : Type) (α : Type) where
  entries : List (κ × α)
  distinct : (entries.map Prod.fst).Nodup

namespace Table

variable {κ α : Type} [DecidableEq κ]

/-! ## One pair among others -/

/-- The list with `value` under `key`: in the place of the key's old pair, or else at the end. -/
def insertEntry (key : κ) (value : α) : List (κ × α) → List (κ × α)
  | [] => [(key, value)]
  | entry :: rest =>
      if entry.1 = key then (key, value) :: rest else entry :: insertEntry key value rest

/-- A key keeps the place where it first arrived. -/
theorem map_fst_insertEntry (key : κ) (value : α) (entries : List (κ × α)) :
    (insertEntry key value entries).map Prod.fst =
      if key ∈ entries.map Prod.fst then entries.map Prod.fst
      else entries.map Prod.fst ++ [key] := by
  induction entries with
  | nil => simp [insertEntry]
  | cons entry rest inductionHypothesis =>
      by_cases same : entry.1 = key
      · simp [insertEntry, same]
      · have different : ¬key = entry.1 := fun equality => same equality.symm
        by_cases later : key ∈ rest.map Prod.fst
        · simp only [insertEntry, if_neg same, List.map_cons, inductionHypothesis, if_pos later]
          rw [if_pos (List.mem_cons_of_mem _ later)]
        · simp only [insertEntry, if_neg same, List.map_cons, inductionHypothesis, if_neg later]
          rw [if_neg (by simpa [different] using later)]
          rfl

private theorem nodup_insertEntry {key : κ} {value : α} {entries : List (κ × α)}
    (distinct : (entries.map Prod.fst).Nodup) :
    ((insertEntry key value entries).map Prod.fst).Nodup := by
  rw [map_fst_insertEntry]
  by_cases known : key ∈ entries.map Prod.fst
  · rwa [if_pos known]
  · rw [if_neg known, List.nodup_append]
    refine ⟨distinct, by simp, ?_⟩
    intro left leftMember right rightMember equality
    rw [List.mem_singleton] at rightMember
    exact known (rightMember ▸ equality ▸ leftMember)

/-! ## Tables -/

def empty : Table κ α :=
  ⟨[], List.nodup_nil⟩

def insert (table : Table κ α) (key : κ) (value : α) : Table κ α :=
  ⟨insertEntry key value table.entries, nodup_insertEntry table.distinct⟩

def get? (table : Table κ α) (key : κ) : Option α :=
  (table.entries.find? fun entry => decide (entry.1 = key)).map Prod.snd

def contains (table : Table κ α) (key : κ) : Bool :=
  (table.get? key).isSome

def size (table : Table κ α) : Nat :=
  table.entries.length

def isEmpty (table : Table κ α) : Bool :=
  table.entries.isEmpty

/-- The table of a list of pairs, in which a later pair replaces an earlier one of its key. -/
def ofList (pairs : List (κ × α)) : Table κ α :=
  pairs.foldl (fun table pair => table.insert pair.1 pair.2) empty

private theorem find?_insertEntry (key other : κ) (value : α) (entries : List (κ × α)) :
    ((insertEntry key value entries).find? fun entry => decide (entry.1 = other)).map Prod.snd =
      if key = other then some value
      else (entries.find? fun entry => decide (entry.1 = other)).map Prod.snd := by
  induction entries with
  | nil => by_cases same : key = other <;> simp [insertEntry, same]
  | cons entry rest inductionHypothesis =>
      by_cases first : entry.1 = key
      · by_cases same : key = other
        · simp [insertEntry, first, same]
        · simp [insertEntry, first, same]
      · by_cases same : entry.1 = other
        · have different : ¬key = other := fun equality => first (same.trans equality.symm)
          rw [insertEntry, if_neg first, if_neg different]
          simp [same]
        · simp only [insertEntry, if_neg first, List.find?_cons, same, decide_false,
            inductionHypothesis]

/-- A table answers with what was inserted last. -/
theorem get?_insert (table : Table κ α) (key other : κ) (value : α) :
    (table.insert key value).get? other = if key = other then some value else table.get? other :=
  find?_insertEntry key other value table.entries

@[simp] theorem get?_empty (key : κ) : (empty : Table κ α).get? key = none := rfl

end Table

end TagFix
