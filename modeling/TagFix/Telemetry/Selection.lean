import TagFix.Anchor.Directory
import TagFix.Position.Solver
import TagFix.Telemetry.Range

/-!
The ranges of a report that the solver can use: valid ones to anchors of the directory, of which the
last one of each anchor counts, in the order in which the anchors first came.
-/

namespace TagFix.Telemetry

open TagFix.Position (Point fewestRanges)

/-- Ranges with the coordinates of their anchors, one for each anchor, and how many of a report were
left out. -/
structure Selection where
  usable : Table AnchorId (Range × Point Float)
  /-- Ranges that were error codes. -/
  invalid : Nat
  /-- Ranges to anchors that are not in the directory. -/
  unknown : Nat

def Selection.none : Selection :=
  ⟨Table.empty, 0, 0⟩

def Selection.take (directory : Directory) (selection : Selection) (range : Range) : Selection :=
  if range.valid then
    match directory.get? range.anchor with
    | some place => { selection with usable := selection.usable.insert range.anchor (range, place) }
    | .none => { selection with unknown := selection.unknown + 1 }
  else { selection with invalid := selection.invalid + 1 }

def Selection.of (directory : Directory) (ranges : List Range) : Selection :=
  ranges.foldl (Selection.take directory) Selection.none

def Selection.ranges (selection : Selection) : List Range :=
  selection.usable.entries.map fun entry => entry.2.1

def Selection.places (selection : Selection) : List (Point Float) :=
  selection.usable.entries.map fun entry => entry.2.2

inductive Readiness
  | ready (selection : Selection)
  | insufficientRanges (selection : Selection) (required : Nat)
  | directoryUnavailable

/-- The number of ranges that are asked for: at least as many as determine a point. -/
def requiredRanges (minRanges : Nat) : Nat :=
  max minRanges fewestRanges

/-- Judges the ranges of a report against the directory; without anchors nothing can be said. -/
def judge (minRanges : Nat) (directory : Option Directory) (ranges : List Range) : Readiness :=
  match directory with
  | .none => .directoryUnavailable
  | some directory =>
      if directory.isEmpty then .directoryUnavailable
      else
        let selection := Selection.of directory ranges
        let required := requiredRanges minRanges
        if selection.usable.size < required then .insufficientRanges selection required
        else .ready selection

end TagFix.Telemetry
