import TagFix.Anchor.Id
import TagFix.Position.Point
import TagFix.Table

/-!
The directory of anchors: where each known anchor stands, in metres.
-/

namespace TagFix

/-- The coordinates of the known anchors. -/
abbrev Directory := Table AnchorId (Position.Point Float)

namespace Directory

/-- The anchors and their coordinates in ascending order of their addresses. -/
def ascending (directory : Directory) : List (AnchorId × Position.Point Float) :=
  directory.entries.mergeSort fun left right => left.1.atMost right.1

end Directory

end TagFix
