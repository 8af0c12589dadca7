import TagFix.Anchor.Id

/-!
One measured distance between the tag and an anchor.
-/

namespace TagFix.Telemetry

/-- Distances at or below this many metres are error codes of the firmware. -/
def errorCode : Float := -1000

/-- A distance to an anchor in metres, and whether it is one and no error code. -/
structure Range where
  anchor : AnchorId
  metres : Float
  valid : Bool

def isDistance (metres : Float) : Bool :=
  metres.isFinite && errorCode < metres

def Range.of (anchor : AnchorId) (metres : Float) : Range :=
  ⟨anchor, metres, isDistance metres⟩

end TagFix.Telemetry
