import TagFix.Telemetry.Selection
import Mathlib.Data.List.Induction

/-!
# Selections

The selection from a list of ranges has every anchor once, where its first usable range stands, with
its last usable range and its coordinates.
-/

namespace TagFix

/-! ## Tables -/

namespace Table

variable {κ α : Type} [DecidableEq κ]

private theorem find?_of_mem {entries : List (κ × α)} (distinct : (entries.map Prod.fst).Nodup)
    {entry : κ × α} (member : entry ∈ entries) :
    (entries.find? fun other => decide (other.1 = entry.1)) = some entry := by
  induction entries with
  | nil => cases member
  | cons head rest inductionHypothesis =>
      rw [List.map_cons, List.nodup_cons] at distinct
      rcases List.mem_cons.mp member with first | later
      · rw [first]
        exact List.find?_cons_of_pos (decide_eq_true rfl)
      · have different : head.1 ≠ entry.1 := by
          intro same
          exact distinct.1 (List.mem_map.mpr ⟨entry, later, same.symm⟩)
        rw [List.find?_cons_of_neg (by simpa using different)]
        exact inductionHypothesis distinct.2 later

/-- A table answers with each of its pairs. -/
theorem get?_of_mem {table : Table κ α} {entry : κ × α} (member : entry ∈ table.entries) :
    table.get? entry.1 = some entry.2 := by
  rw [get?, find?_of_mem table.distinct member]
  rfl

theorem keys_insert (table : Table κ α) (key : κ) (value : α) :
    (table.insert key value).entries.map Prod.fst =
      if key ∈ table.entries.map Prod.fst then table.entries.map Prod.fst
      else table.entries.map Prod.fst ++ [key] :=
  map_fst_insertEntry key value table.entries

end Table

namespace Telemetry

open TagFix.Position (Point)

/-! ## What is selected -/

def Range.isUsable (directory : Directory) (range : Range) : Bool :=
  range.valid && directory.contains range.anchor

/-- The anchors of the usable ranges, each where it first comes. -/
def usableAnchors (directory : Directory) (ranges : List Range) : List AnchorId :=
  ((ranges.filter (Range.isUsable directory)).map Range.anchor).eraseDups

def lastUsable? (directory : Directory) (ranges : List Range) (anchor : AnchorId) : Option Range :=
  ((ranges.filter (Range.isUsable directory)).filter fun range => range.anchor = anchor).getLast?

/-- That a selection is the one of some ranges. -/
structure Selects (directory : Directory) (ranges : List Range) (selection : Selection) : Prop where
  anchors : selection.usable.entries.map Prod.fst = usableAnchors directory ranges
  chosen : ∀ anchor range place, selection.usable.get? anchor = some (range, place) ↔
    lastUsable? directory ranges anchor = some range ∧ directory.get? anchor = some place

section Steps

variable {directory : Directory} {ranges : List Range} {selection : Selection} {range : Range}

private theorem usableAnchors_of_usable (usable : range.isUsable directory = true) :
    usableAnchors directory (ranges ++ [range]) =
      if range.anchor ∈ usableAnchors directory ranges then usableAnchors directory ranges
      else usableAnchors directory ranges ++ [range.anchor] := by
  unfold usableAnchors
  rw [List.filter_append, List.filter_cons_of_pos usable, List.filter_nil, List.map_append,
    List.map_singleton, List.eraseDups_append, List.cons_removeAll]
  by_cases known : range.anchor ∈ (ranges.filter (Range.isUsable directory)).map Range.anchor
  · simp [known]
  · simp [known, List.eraseDups_cons]

private theorem filter_of_unusable (unusable : range.isUsable directory = false) :
    (ranges ++ [range]).filter (Range.isUsable directory) =
      ranges.filter (Range.isUsable directory) := by
  simp [unusable]

private theorem lastUsable?_of_usable (usable : range.isUsable directory = true)
    (anchor : AnchorId) :
    lastUsable? directory (ranges ++ [range]) anchor =
      if range.anchor = anchor then some range else lastUsable? directory ranges anchor := by
  unfold lastUsable?
  by_cases same : range.anchor = anchor
  · simp [usable, same]
  · simp [usable, same]

private theorem Selects.skipped (selects : Selects directory ranges selection)
    (unusable : range.isUsable directory = false) {after : Selection}
    (kept : after.usable = selection.usable) : Selects directory (ranges ++ [range]) after := by
  constructor
  · rw [kept, usableAnchors, filter_of_unusable unusable]
    exact selects.anchors
  · intro anchor other place
    rw [kept, lastUsable?, filter_of_unusable unusable]
    exact selects.chosen anchor other place

private theorem Selects.inserted (selects : Selects directory ranges selection)
    (valid : range.valid = true) {place : Point Float}
    (known : directory.get? range.anchor = some place) {after : Selection}
    (changed : after.usable = selection.usable.insert range.anchor (range, place)) :
    Selects directory (ranges ++ [range]) after := by
  have usable : range.isUsable directory = true := by
    simp [Range.isUsable, Table.contains, valid, known]
  constructor
  · rw [changed, Table.keys_insert, selects.anchors, usableAnchors_of_usable usable]
  · intro anchor other elsewhere
    rw [changed, Table.get?_insert, lastUsable?_of_usable usable]
    by_cases same : range.anchor = anchor
    · rw [if_pos same, if_pos same, ← same, known]
      simp
    · rw [if_neg same, if_neg same]
      exact selects.chosen anchor other elsewhere

private theorem Selects.take (selects : Selects directory ranges selection) (range : Range) :
    Selects directory (ranges ++ [range]) (selection.take directory range) := by
  unfold Selection.take
  cases valid : range.valid with
  | false => exact selects.skipped (by simp [Range.isUsable, valid]) rfl
  | true =>
      rw [if_pos rfl]
      cases known : directory.get? range.anchor with
      | none => exact selects.skipped (by simp [Range.isUsable, Table.contains, known]) rfl
      | some place => exact selects.inserted valid known rfl

end Steps

/-- The selection from ranges takes the last usable range to each anchor. -/
theorem selects_of (directory : Directory) (ranges : List Range) :
    Selects directory ranges (Selection.of directory ranges) := by
  induction ranges using List.reverseRecOn with
  | nil =>
      refine ⟨rfl, ?_⟩
      intro anchor range place
      simp [Selection.of, Selection.none, lastUsable?]
  | append_singleton ranges range inductionHypothesis =>
      rw [Selection.of, List.foldl_append, List.foldl_cons, List.foldl_nil]
      exact inductionHypothesis.take range

end Telemetry

end TagFix
