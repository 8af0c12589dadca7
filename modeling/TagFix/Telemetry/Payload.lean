import TagFix.Bytes.LittleEndian
import TagFix.Decimal.Layout
import TagFix.Telemetry.Range

/-!
Payloads of the location characteristic. The first byte is a reason code. Behind the code of a range
report come the number of records and the records, twelve bytes each: an address as sent over the
air, and a distance in millimetres as a signed 32-bit integer, least significant byte first. Payloads
with any other code are handed on as they are.
-/

namespace TagFix.Telemetry

def rangeReport : UInt8 := 1

inductive Content
  | ranges (ranges : List Range)
  | forwarded (reasonCode : UInt8) (payload : List UInt8)

inductive DecodeFault
  | emptyPayload
  | missingCount
  | insufficientData (records required available : Nat)
deriving DecidableEq, Repr

def DecodeFault.message : DecodeFault → String
  | .emptyPayload => "empty telemetry payload"
  | .missingCount => "range report missing record count"
  | .insufficientData records required available =>
      "insufficient data: " ++ toString records ++ " records need " ++ toString required ++
        " bytes, got " ++ toString available

/-! ## Reading -/

def headerLength : Nat := 2

def recordLength : Nat := 12

def metres (millimetres : Int) : Float :=
  Float.ofInt millimetres / 1000

def readRecords : Nat → List UInt8 → List Range
  | count + 1, a :: b :: c :: d :: e :: f :: g :: h :: w :: x :: y :: z :: rest =>
      Range.of (AnchorId.ofWire #v[a, b, c, d, e, f, g, h]) (metres (LittleEndian.decode w x y z)) ::
        readRecords count rest
  | _, _ => []

/-- Reads a payload. Bytes behind the records of a report do not count. -/
def decode : List UInt8 → Except DecodeFault Content
  | [] => .error .emptyPayload
  | code :: body =>
      if code ≠ rangeReport then .ok (.forwarded code (code :: body))
      else
        match body with
        | [] => .error .missingCount
        | count :: records =>
            let required := headerLength + count.toNat * recordLength
            let available := headerLength + records.length
            if available < required then
              .error (.insufficientData count.toNat required available)
            else .ok (.ranges (readRecords count.toNat records))

/-! ## Writing -/

/-- The millimetres of a distance: rounded, halves away from zero, and kept within 32 bits. What is
no number becomes zero. -/
def millimetres (metres : Float) : Int :=
  match Decimal.nearestInteger (metres * 1000) with
  | some n => LittleEndian.clamp n
  | none => if metres < 0 then LittleEndian.least else LittleEndian.greatest

def record (range : AnchorId × Float) : List UInt8 :=
  range.1.toWire.toList ++ LittleEndian.encode (millimetres range.2)

/-- The most records that a report has room for. -/
def mostRecords : Nat := 255

/-- The report of the first 255 of a list of distances. -/
def encode (ranges : List (AnchorId × Float)) : List UInt8 :=
  let kept := ranges.take mostRecords
  rangeReport :: UInt8.ofNat kept.length :: kept.flatMap record

end TagFix.Telemetry
