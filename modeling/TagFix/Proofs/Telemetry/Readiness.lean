import TagFix.Proofs.Telemetry.Selection
import Mathlib.Data.List.Forall2

/-!
# Readiness of reports

A report is judged by the anchors of its usable ranges alone. The range that counts for an anchor is
its last usable one; what the others say, and what the directory says about other anchors, makes no
difference.
-/

namespace TagFix

/-! ## Tables -/

namespace Table

variable {κ α : Type} [DecidableEq κ]

private theorem map_some_entries (table : Table κ α) :
    table.entries.map some =
      (table.entries.map Prod.fst).map fun key => (table.get? key).map (Prod.mk key) := by
  rw [List.map_map]
  apply List.map_congr_left
  intro entry member
  rw [Function.comp_apply, get?_of_mem member]
  rfl

/-- Tables with the same keys in the same order and the same values are the same. -/
theorem ext_of_get? {left right : Table κ α}
    (keys : left.entries.map Prod.fst = right.entries.map Prod.fst)
    (values : ∀ key, left.get? key = right.get? key) : left = right := by
  have entries : left.entries = right.entries := by
    apply (List.map_inj_right fun _ _ same => Option.some.inj same).mp
    rw [map_some_entries, map_some_entries, keys]
    apply List.map_congr_left
    intro key member
    rw [values key]
  cases left
  cases right
  cases entries
  rfl

end Table

namespace Telemetry

open TagFix.Position (Point)

variable {directory : Directory} {ranges others : List Range} {selection : Selection}

/-! ## Selections -/

private theorem Selects.unique {first second : Selection}
    (firstSelects : Selects directory ranges first)
    (secondSelects : Selects directory ranges second) : first.usable = second.usable := by
  apply Table.ext_of_get?
  · rw [firstSelects.anchors, secondSelects.anchors]
  · intro anchor
    apply Option.ext
    rintro ⟨range, place⟩
    rw [firstSelects.chosen, secondSelects.chosen]

def invalidCount (ranges : List Range) : Nat :=
  ranges.countP fun range => !range.valid

def unknownCount (directory : Directory) (ranges : List Range) : Nat :=
  ranges.countP fun range => range.valid && !directory.contains range.anchor

private theorem counts_of (directory : Directory) (ranges : List Range) :
    (Selection.of directory ranges).invalid = invalidCount ranges ∧
      (Selection.of directory ranges).unknown = unknownCount directory ranges := by
  induction ranges using List.reverseRecOn with
  | nil => exact ⟨rfl, rfl⟩
  | append_singleton ranges range inductionHypothesis =>
      obtain ⟨invalid, unknown⟩ := inductionHypothesis
      have taken : Selection.of directory (ranges ++ [range]) =
          (Selection.of directory ranges).take directory range := by
        rw [Selection.of, List.foldl_append]
        rfl
      rw [taken, Selection.take, invalidCount, unknownCount, List.countP_append,
        List.countP_append, ← invalidCount, ← unknownCount, ← invalid, ← unknown]
      cases valid : range.valid with
      | false => simp [valid]
      | true =>
          cases known : directory.get? range.anchor with
          | none => simp [Table.contains, valid, known]
          | some place => simp [Table.contains, valid, known]

/-- Every range is an error code, or unknown, or usable. -/
theorem invalidCount_add_unknownCount (directory : Directory) (ranges : List Range) :
    invalidCount ranges + unknownCount directory ranges +
      (ranges.filter (Range.isUsable directory)).length = ranges.length := by
  induction ranges with
  | nil => rfl
  | cons range rest inductionHypothesis =>
      rw [← List.countP_eq_length_filter, invalidCount, unknownCount] at inductionHypothesis ⊢
      rw [List.countP_cons, List.countP_cons, List.countP_cons, List.length_cons,
        ← inductionHypothesis, Range.isUsable]
      cases range.valid <;> cases directory.contains range.anchor <;> simp <;> omega

private theorem eq_selection_of (selects : Selects directory ranges selection)
    (invalid : selection.invalid = invalidCount ranges)
    (unknown : selection.unknown = unknownCount directory ranges) :
    Selection.of directory ranges = selection := by
  have usable := (selects_of directory ranges).unique selects
  have counts := counts_of directory ranges
  rw [← invalid, ← unknown] at counts
  cases selection
  exact congr (congrArg₂ Selection.mk usable counts.1) counts.2

/-! ## What makes no difference -/

/-- That ranges differ in no more than the metres of some that do not count: some that are not
usable, and some that come before another usable range to the same anchor. -/
inductive Altered (directory : Directory) : List Range → List Range → Prop
  | nil : Altered directory [] []
  | kept (range : Range) {rest others : List Range} :
      Altered directory rest others →
      Altered directory (range :: rest) (range :: others)
  | changed (range : Range) (metres : Float) {rest others : List Range} :
      (range.isUsable directory = true →
        ∃ later ∈ rest, later.isUsable directory = true ∧ later.anchor = range.anchor) →
      Altered directory rest others →
      Altered directory (range :: rest) ({ range with metres } :: others)

/-- The first range counts for an anchor only where no later one does. -/
theorem lastUsable?_cons (directory : Directory) (range : Range) (ranges : List Range)
    (anchor : AnchorId) :
    lastUsable? directory (range :: ranges) anchor =
      (lastUsable? directory ranges anchor).or
        (if range.isUsable directory = true ∧ range.anchor = anchor then some range else none) := by
  unfold lastUsable?
  by_cases usable : range.isUsable directory = true
  · rw [List.filter_cons_of_pos usable]
    by_cases same : range.anchor = anchor
    · rw [List.filter_cons_of_pos (by simpa using same), List.getLast?_cons,
        if_pos ⟨usable, same⟩]
      cases ((ranges.filter (Range.isUsable directory)).filter
        fun range => range.anchor = anchor).getLast? <;> rfl
    · rw [List.filter_cons_of_neg (by simpa using same), if_neg (fun both => same both.2),
        Option.or_none]
  · rw [List.filter_cons_of_neg usable, if_neg (fun both => usable both.1), Option.or_none]

private theorem exists_lastUsable? {later : Range} (member : later ∈ ranges)
    (usable : later.isUsable directory = true) :
    ∃ last, lastUsable? directory ranges later.anchor = some last := by
  have listed : later ∈ (ranges.filter (Range.isUsable directory)).filter
      fun range => range.anchor = later.anchor := by
    rw [List.mem_filter, List.mem_filter]
    exact ⟨⟨member, usable⟩, decide_eq_true rfl⟩
  exact ⟨_, List.getLast?_eq_some_getLast (List.ne_nil_of_mem listed)⟩

namespace Altered

private theorem map_anchor_eq (altered : Altered directory ranges others) :
    (others.filter (Range.isUsable directory)).map Range.anchor =
      (ranges.filter (Range.isUsable directory)).map Range.anchor := by
  induction altered with
  | nil => rfl
  | kept range _ inductionHypothesis =>
      by_cases usable : range.isUsable directory = true
      · rw [List.filter_cons_of_pos usable, List.filter_cons_of_pos usable, List.map_cons,
          List.map_cons, inductionHypothesis]
      · rw [List.filter_cons_of_neg usable, List.filter_cons_of_neg usable, inductionHypothesis]
  | changed range metres _ _ inductionHypothesis =>
      have same : Range.isUsable directory { range with metres } = range.isUsable directory := rfl
      by_cases usable : range.isUsable directory = true
      · rw [List.filter_cons_of_pos usable, List.filter_cons_of_pos (same.trans usable),
          List.map_cons, List.map_cons, inductionHypothesis]
      · rw [List.filter_cons_of_neg usable, List.filter_cons_of_neg (same ▸ usable),
          inductionHypothesis]

private theorem lastUsable?_eq (altered : Altered directory ranges others) (anchor : AnchorId) :
    lastUsable? directory others anchor = lastUsable? directory ranges anchor := by
  induction altered with
  | nil => rfl
  | kept range _ inductionHypothesis =>
      rw [lastUsable?_cons, lastUsable?_cons, inductionHypothesis]
  | @changed range metres rest _ superseded _ inductionHypothesis =>
      rw [lastUsable?_cons, lastUsable?_cons, inductionHypothesis]
      by_cases counted : range.isUsable directory = true ∧ range.anchor = anchor
      · obtain ⟨later, member, usable, same⟩ := superseded counted.1
        obtain ⟨last, found⟩ := exists_lastUsable? member usable
        rw [same, counted.2] at found
        rw [found]
        rfl
      · have uncounted : ¬(Range.isUsable directory { range with metres } = true ∧
            range.anchor = anchor) := counted
        rw [if_neg counted, if_neg uncounted]

private theorem counts_eq (altered : Altered directory ranges others) :
    invalidCount others = invalidCount ranges ∧
      unknownCount directory others = unknownCount directory ranges := by
  unfold invalidCount unknownCount
  induction altered with
  | nil => exact ⟨rfl, rfl⟩
  | kept range _ inductionHypothesis =>
      rw [List.countP_cons, List.countP_cons, List.countP_cons, List.countP_cons,
        inductionHypothesis.1, inductionHypothesis.2]
      exact ⟨rfl, rfl⟩
  | changed range metres _ _ inductionHypothesis =>
      rw [List.countP_cons, List.countP_cons, List.countP_cons, List.countP_cons,
        inductionHypothesis.1, inductionHypothesis.2]
      exact ⟨rfl, rfl⟩

/-- What does not count may be altered. -/
theorem selection_eq (altered : Altered directory ranges others) :
    Selection.of directory others = Selection.of directory ranges := by
  have counts := counts_of directory ranges
  rw [← altered.counts_eq.1, ← altered.counts_eq.2] at counts
  apply eq_selection_of _ counts.1 counts.2
  have selects := selects_of directory ranges
  constructor
  · rw [selects.anchors, usableAnchors, usableAnchors, altered.map_anchor_eq]
  · intro anchor range place
    rw [selects.chosen, altered.lastUsable?_eq]

end Altered

/-- That two directories place the anchors of all distances alike. -/
def PlacesAlike (ranges : List Range) (directory other : Directory) : Prop :=
  ∀ range ∈ ranges, range.valid = true →
    other.get? range.anchor = directory.get? range.anchor

namespace PlacesAlike

variable {other : Directory}

private theorem isUsable_eq (alike : PlacesAlike ranges directory other) {range : Range}
    (member : range ∈ ranges) : range.isUsable other = range.isUsable directory := by
  unfold Range.isUsable Table.contains
  cases valid : range.valid with
  | false => rfl
  | true => rw [alike range member valid]

private theorem filter_eq (alike : PlacesAlike ranges directory other) :
    ranges.filter (Range.isUsable other) = ranges.filter (Range.isUsable directory) :=
  List.filter_congr fun _ member => alike.isUsable_eq member

private theorem unknownCount_eq (alike : PlacesAlike ranges directory other) :
    unknownCount other ranges = unknownCount directory ranges := by
  have left := invalidCount_add_unknownCount other ranges
  have right := invalidCount_add_unknownCount directory ranges
  rw [alike.filter_eq] at left
  omega

/-- Where other anchors stand makes no difference. -/
theorem selection_eq (alike : PlacesAlike ranges directory other) :
    Selection.of other ranges = Selection.of directory ranges := by
  have counts := counts_of directory ranges
  rw [← alike.unknownCount_eq] at counts
  apply eq_selection_of _ counts.1 counts.2
  have selects := selects_of directory ranges
  constructor
  · rw [selects.anchors, usableAnchors, usableAnchors, alike.filter_eq]
  · intro anchor range place
    rw [selects.chosen, lastUsable?, lastUsable?, alike.filter_eq]
    constructor
    all_goals
      rintro ⟨last, placed⟩
      refine ⟨last, ?_⟩
      have listed := List.mem_of_getLast? last
      rw [List.mem_filter, List.mem_filter, Range.isUsable, Bool.and_eq_true] at listed
      have same := alike range listed.1.1 listed.1.2.1
      rw [of_decide_eq_true listed.2] at same
    · rwa [same]
    · rwa [← same]

end PlacesAlike

/-! ## Judgement -/

/-- That a selection holds the ranges that count: those of the usable anchors, each where its anchor
first comes, the last usable one to it, with the coordinates of the anchor; and that it tells how
many ranges were left out. -/
structure Keeps (directory : Directory) (ranges : List Range) (selection : Selection) : Prop where
  anchors : selection.ranges.map Range.anchor = usableAnchors directory ranges
  distinct : (selection.ranges.map Range.anchor).Nodup
  last : ∀ range ∈ selection.ranges, lastUsable? directory ranges range.anchor = some range
  placed : List.Forall₂ (fun range place => directory.get? range.anchor = some place)
    selection.ranges selection.places
  size : selection.usable.size = (usableAnchors directory ranges).length
  balance : selection.invalid + selection.unknown +
    (ranges.filter (Range.isUsable directory)).length = ranges.length
  invalid : selection.invalid = invalidCount ranges
  unknown : selection.unknown = unknownCount directory ranges

private theorem Selects.anchor_eq (selects : Selects directory ranges selection)
    {entry : AnchorId × Range × Point Float} (member : entry ∈ selection.usable.entries) :
    entry.2.1.anchor = entry.1 := by
  have last := ((selects.chosen _ _ _).mp (Table.get?_of_mem member)).1
  have listed := List.mem_of_getLast? last
  rw [List.mem_filter] at listed
  exact of_decide_eq_true listed.2

private theorem keeps_of (directory : Directory) (ranges : List Range) :
    Keeps directory ranges (Selection.of directory ranges) := by
  have selects := selects_of directory ranges
  have counts := counts_of directory ranges
  generalize Selection.of directory ranges = selection at selects counts
  have anchors : selection.ranges.map Range.anchor = selection.usable.entries.map Prod.fst := by
    rw [Selection.ranges, List.map_map]
    apply List.map_congr_left
    intro entry member
    exact selects.anchor_eq member
  refine ⟨anchors.trans selects.anchors, ?_, ?_, ?_, ?_, ?_, counts.1, counts.2⟩
  · rw [anchors]
    exact selection.usable.distinct
  · intro range member
    obtain ⟨entry, listed, rfl⟩ := List.mem_map.mp member
    rw [selects.anchor_eq listed]
    exact ((selects.chosen _ _ _).mp (Table.get?_of_mem listed)).1
  · rw [Selection.ranges, Selection.places, List.forall₂_map_left_iff, List.forall₂_map_right_iff,
      List.forall₂_same]
    intro entry listed
    rw [selects.anchor_eq listed]
    exact ((selects.chosen _ _ _).mp (Table.get?_of_mem listed)).2
  · rw [← selects.anchors, List.length_map]
    rfl
  · rw [counts.1, counts.2]
    exact invalidCount_add_unknownCount directory ranges

private theorem judge_of_known (known : directory.isEmpty = false) (minRanges : Nat)
    (ranges : List Range) :
    judge minRanges (some directory) ranges =
      if (usableAnchors directory ranges).length < max 3 minRanges then
        .insufficientRanges (Selection.of directory ranges) (max 3 minRanges)
      else .ready (Selection.of directory ranges) := by
  have required : requiredRanges minRanges = max 3 minRanges := Nat.max_comm _ _
  have size := (keeps_of directory ranges).size
  simp only [judge, known, required, size, Bool.false_eq_true, if_false]

/-- A report is ready if it has usable ranges to enough anchors. Its selection holds the last usable
range to each of them, and depends neither on the metres of any other range nor on where any other
anchor stands. -/
theorem judge_keeps (directory : Directory) (known : directory.isEmpty = false) (minRanges : Nat)
    (ranges : List Range) :
    (∃ selection, Keeps directory ranges selection ∧
      judge minRanges (some directory) ranges =
        if (usableAnchors directory ranges).length < max 3 minRanges then
          .insufficientRanges selection (max 3 minRanges)
        else .ready selection) ∧
    (∀ others, Altered directory ranges others →
      judge minRanges (some directory) others = judge minRanges (some directory) ranges) ∧
    ∀ other : Directory, other.isEmpty = false → PlacesAlike ranges directory other →
      judge minRanges (some other) ranges = judge minRanges (some directory) ranges := by
  refine ⟨⟨_, keeps_of directory ranges, judge_of_known known minRanges ranges⟩, ?_, ?_⟩
  · intro others altered
    rw [judge_of_known known, judge_of_known known, altered.selection_eq, usableAnchors,
      usableAnchors, altered.map_anchor_eq]
  · intro other otherKnown alike
    rw [judge_of_known known, judge_of_known otherKnown, alike.selection_eq, usableAnchors,
      usableAnchors, alike.filter_eq]

def numbered (number : UInt8) : AnchorId :=
  ⟨#v[0, 0, 0, 0, 0, 0, 0, number]⟩

def corners : Directory :=
  Table.ofList [(numbered 1, ⟨0, 0, 0⟩), (numbered 2, ⟨10, 0, 0⟩), (numbered 3, ⟨0, 10, 0⟩)]

def fourCorners : Directory :=
  Table.ofList [(numbered 4, ⟨10, 10, 0⟩), (numbered 1, ⟨0, 0, 0⟩), (numbered 2, ⟨10, 0, 0⟩),
    (numbered 3, ⟨0, 10, 0⟩)]

/-- Ranges to the three anchors, of which the first one is superseded and the fourth an error code
of the same anchor. -/
def superseded (metres : Float) : List Range :=
  [⟨numbered 1, metres, true⟩, ⟨numbered 2, 8, true⟩, ⟨numbered 1, 5.5, true⟩,
    ⟨numbered 1, -1000, false⟩, ⟨numbered 3, 6, true⟩]

theorem judge_keeps_superseded :
    corners.isEmpty = false ∧ fourCorners.isEmpty = false ∧
      Altered corners (superseded 5) (superseded 7) ∧
      PlacesAlike (superseded 5) corners fourCorners ∧
      (∃ selection, Keeps corners (superseded 5) selection ∧
        judge 0 (some corners) (superseded 5) = .ready selection) ∧
      judge 0 (some corners) (superseded 7) = judge 0 (some corners) (superseded 5) ∧
      judge 0 (some fourCorners) (superseded 5) = judge 0 (some corners) (superseded 5) := by
  have known : corners.isEmpty = false := rfl
  have otherKnown : fourCorners.isEmpty = false := rfl
  have altered : Altered corners (superseded 5) (superseded 7) := by
    apply Altered.changed ⟨numbered 1, 5, true⟩ 7
    · intro usable
      exact ⟨⟨numbered 1, 5.5, true⟩, List.mem_cons_of_mem _ List.mem_cons_self, rfl, rfl⟩
    · exact .kept _ (.kept _ (.kept _ (.kept _ .nil)))
  have alike : PlacesAlike (superseded 5) corners fourCorners := by
    intro range member valid
    simp only [superseded, List.mem_cons, List.not_mem_nil, or_false] at member
    rcases member with rfl | rfl | rfl | rfl | rfl <;> rfl
  have judged := judge_keeps corners known 0 (superseded 5)
  obtain ⟨selection, keeps, ready⟩ := judged.1
  have three : ¬(usableAnchors corners (superseded 5)).length < max 3 0 := by decide
  rw [if_neg three] at ready
  exact ⟨known, otherKnown, altered, alike, ⟨selection, keeps, ready⟩,
    judged.2.1 _ altered, judged.2.2 _ otherKnown alike⟩

end Telemetry

end TagFix
