import TagFix.Device
import TagFix.Json.Printer
import TagFix.Position.Fix

/-!
Position reports for a remote collector: who was where, as one line of JSON.
-/

namespace TagFix.Position

/-- The type of device that reports name. -/
def tagType : String := "totternary_tag"

/-- What a report says; the time of receipt is added when it is written. -/
structure Report where
  deviceId : String
  deviceType : String
  position : Point Float
  lowConfidence : Bool
deriving Repr

def Report.of (device : Device) (fix : Fix) : Report :=
  ⟨device.id, tagType, fix.position, fix.isLowConfidence⟩

open TagFix.Json (Value) in
/-- The report as a JSON document; low confidence is mentioned only where it holds. -/
def Report.document (report : Report) (receivedTime : String) : Value :=
  let number := fun x : Float => Value.number (.decimal x)
  .object <|
    [("_meta", .object [("received_time", .text receivedTime),
        ("device_id", .text report.deviceId), ("device_type", .text report.deviceType)]),
      ("x", number report.position.x), ("y", number report.position.y),
      ("z", number report.position.z)] ++
    (if report.lowConfidence then [("low_confidence", .boolean true)] else [])

def Report.json (report : Report) (receivedTime : String) : String :=
  (report.document receivedTime).compact

end TagFix.Position
