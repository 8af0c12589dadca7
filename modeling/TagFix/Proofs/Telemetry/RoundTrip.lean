import TagFix.Proofs.Telemetry.Millimetres
import TagFix.Proofs.Telemetry.Records

/-!
# Reports read back

A report that is written anew from its ranges is the report again, as far as it was read, and a list
of distances that is written and read comes back to the millimetre, as far as it fits.
-/

namespace TagFix.Telemetry

/-! ## One record -/

private theorem exists_wire (wire : Vector UInt8 8) :
    ∃ a b c d e f g h, wire = #v[a, b, c, d, e, f, g, h] := by
  obtain ⟨⟨bytes⟩, size⟩ := wire
  rcases bytes with
    _ | ⟨a, _ | ⟨b, _ | ⟨c, _ | ⟨d, _ | ⟨e, _ | ⟨f, _ | ⟨g, _ | ⟨h, _ | ⟨i, rest⟩⟩⟩⟩⟩⟩⟩⟩⟩ <;>
      simp at size
  exact ⟨a, b, c, d, e, f, g, h, rfl⟩

/-- A record that was read is written with the same bytes. -/
theorem record_of_bytes (a b c d e f g h w x y z : UInt8) :
    record (AnchorId.ofWire #v[a, b, c, d, e, f, g, h], metres (LittleEndian.decode w x y z)) =
      [a, b, c, d, e, f, g, h, w, x, y, z] := by
  have kept := millimetres_metres (LittleEndian.decode_bounds w x y z)
  rw [record, AnchorId.toWire_ofWire, kept, LittleEndian.encode_decode]
  rfl

private theorem millimetres_bounds (x : Float) :
    LittleEndian.least ≤ millimetres x ∧ millimetres x ≤ LittleEndian.greatest := by
  unfold millimetres
  split
  · exact LittleEndian.clamp_bounds _
  · split <;> decide

/-- The bytes of a record are those of a range in whole millimetres. -/
theorem exists_bytes_of_record (range : AnchorId × Float) :
    ∃ a b c d e f g h w x y z, record range = [a, b, c, d, e, f, g, h, w, x, y, z] ∧
      AnchorId.ofWire #v[a, b, c, d, e, f, g, h] = range.1 ∧
        LittleEndian.decode w x y z = millimetres range.2 := by
  obtain ⟨a, b, c, d, e, f, g, h, wire⟩ := exists_wire range.1.toWire
  obtain ⟨w, x, y, z, number, back⟩ := LittleEndian.decode_encode (millimetres_bounds range.2)
  refine ⟨a, b, c, d, e, f, g, h, w, x, y, z, ?_, ?_, back⟩
  · rw [record, wire, number]
    rfl
  · rw [← wire, AnchorId.ofWire_toWire]

/-! ## All records -/

private theorem length_readRecords {count : Nat} {bytes : List UInt8}
    (enough : 12 * count ≤ bytes.length) :
    (readRecords count bytes).length = count := by
  rw [readRecords_eq enough, List.length_map, List.length_range]

private theorem flatMap_record_readRecords {count : Nat} {bytes : List UInt8}
    (enough : 12 * count ≤ bytes.length) :
    ((readRecords count bytes).map fun range => (range.anchor, range.metres)).flatMap record =
      bytes.take (12 * count) := by
  induction count generalizing bytes with
  | zero => simp [readRecords]
  | succ count inductionHypothesis =>
      obtain ⟨a, b, c, d, e, f, g, h, w, x, y, z, rest, rfl⟩ :=
        exists_record (by omega : 12 ≤ bytes.length)
      simp only [List.length_cons] at enough
      have later := inductionHypothesis (by omega : 12 * count ≤ rest.length)
      rw [readRecords, List.map_cons, List.flatMap_cons, later, Range.of, record_of_bytes,
        Nat.mul_succ]
      simp [List.take_succ_cons]

private theorem readRecords_flatMap_record (ranges : List (AnchorId × Float)) :
    readRecords ranges.length (ranges.flatMap record) =
      ranges.map fun range => Range.of range.1 (metres (millimetres range.2)) := by
  induction ranges with
  | nil => rfl
  | cons range rest inductionHypothesis =>
      obtain ⟨a, b, c, d, e, f, g, h, w, x, y, z, bytes, anchor, number⟩ :=
        exists_bytes_of_record range
      rw [List.flatMap_cons, bytes, List.map_cons, ← anchor, ← number, ← inductionHypothesis]
      rfl

private theorem length_flatMap_record (ranges : List (AnchorId × Float)) :
    (ranges.flatMap record).length = 12 * ranges.length := by
  induction ranges with
  | nil => rfl
  | cons range rest inductionHypothesis =>
      obtain ⟨a, b, c, d, e, f, g, h, w, x, y, z, bytes, -, -⟩ := exists_bytes_of_record range
      rw [List.flatMap_cons, List.length_append, bytes, inductionHypothesis, List.length_cons]
      simp only [List.length_cons, List.length_nil]
      omega

/-! ## Reports -/

/-- Only a report that is long enough is read to ranges. -/
theorem exists_of_decode {payload : List UInt8} {ranges : List Range}
    (decoded : decode payload = .ok (.ranges ranges)) :
    ∃ count bytes, payload = 1 :: count :: bytes ∧ 12 * count.toNat ≤ bytes.length ∧
      ranges = readRecords count.toNat bytes := by
  cases payload with
  | nil => cases decoded
  | cons code body =>
      by_cases other : code ≠ 1
      · rw [decode_of_other other] at decoded
        cases decoded
      · obtain rfl : code = 1 := not_not.mp other
        cases body with
        | nil => cases decoded
        | cons count bytes =>
            obtain ⟨enough, same⟩ := enough_of_decode decoded
            cases same
            exact ⟨count, bytes, rfl, enough, rfl⟩

private theorem encode_of_decode {payload : List UInt8} {ranges : List Range}
    (decoded : decode payload = .ok (.ranges ranges)) :
    encode (ranges.map fun range => (range.anchor, range.metres)) =
      payload.take (2 + 12 * (payload.getD 1 0).toNat) := by
  obtain ⟨count, bytes, rfl, enough, rfl⟩ := exists_of_decode decoded
  have length := length_readRecords enough
  have fits : (readRecords count.toNat bytes).length ≤ mostRecords := by
    have bound := count.toNat_lt
    rw [length, mostRecords]
    omega
  have whole := List.take_of_length_le fits
  rw [encode, ← List.map_take, whole, List.length_map, length, UInt8.ofNat_toNat,
    flatMap_record_readRecords enough, Nat.add_comm]
  rfl

private theorem decode_encode (ranges : List (AnchorId × Float)) :
    decode (encode ranges) =
      .ok (.ranges ((ranges.take mostRecords).map fun range =>
        Range.of range.1 (metres (millimetres range.2)))) := by
  have kept : (ranges.take mostRecords).length < 256 := by
    rw [List.length_take, mostRecords]
    omega
  rw [encode]
  generalize ranges.take mostRecords = taken at kept ⊢
  have count : (UInt8.ofNat taken.length).toNat = taken.length := by
    rw [UInt8.toNat_ofNat']
    exact Nat.mod_eq_of_lt kept
  have enough := length_flatMap_record taken
  rw [rangeReport, decode_of_enough (by omega), count, readRecords_flatMap_record]

/-- A report whose ranges are written anew is the report again up to the end of its records. A list
of distances that is written and read comes back without what is more than 255 of them, each as a
whole number of millimetres within 32 bits. -/
theorem round_trip :
    (∀ payload ranges, decode payload = .ok (.ranges ranges) →
      encode (ranges.map fun range => (range.anchor, range.metres)) =
        payload.take (2 + 12 * (payload.getD 1 0).toNat)) ∧
      ∀ ranges : List (AnchorId × Float),
        decode (encode ranges) = .ok (.ranges ((ranges.take 255).map fun range =>
          Range.of range.1 (metres (saturated (Decimal.Binary.ofFloat (range.2 * 1000)))))) := by
  constructor
  · intro payload ranges decoded
    exact encode_of_decode decoded
  · intro ranges
    rw [decode_encode, mostRecords]
    simp only [millimetres_eq]

/-- A report of one metre, with a byte behind it that does not count. -/
def oneMetre : List UInt8 :=
  [1, 1, 8, 7, 6, 5, 4, 3, 2, 1, 232, 3, 0, 0, 9]

theorem round_trip_oneMetre :
    let ranges := [Range.of (AnchorId.ofWire #v[8, 7, 6, 5, 4, 3, 2, 1]) (metres 1000)]
    decode oneMetre = .ok (.ranges ranges) ∧
      encode (ranges.map fun range => (range.anchor, range.metres)) =
        oneMetre.take (2 + 12 * (oneMetre.getD 1 0).toNat) :=
  have decoded : decode oneMetre =
      .ok (.ranges [Range.of (AnchorId.ofWire #v[8, 7, 6, 5, 4, 3, 2, 1]) (metres 1000)]) := rfl
  ⟨decoded, round_trip.1 _ _ decoded⟩

end TagFix.Telemetry
