import TagFix.Proofs.Telemetry.Metres

/-!
# Records of a report

A report is read record by record. Here the records are told by where their bytes stand, and the
reader is shown to find just those.
-/

namespace TagFix.Telemetry

/-! ## Records by their place -/

/-- A record of a report: the address of an anchor, and a distance in millimetres. -/
structure Record where
  anchor : AnchorId
  millimetres : Int
deriving DecidableEq

/-- The record whose bytes begin at a place: eight of the address, the last one first, and four of a
number in two's complement, the least significant first. -/
def recordAt (bytes : List UInt8) (place : Nat) : Record :=
  let byte (index : Nat) := bytes.getD (place + index) 0
  { anchor := ⟨#v[byte 7, byte 6, byte 5, byte 4, byte 3, byte 2, byte 1, byte 0]⟩
    millimetres :=
      Int.bmod ((byte 8).toNat + 2 ^ 8 * (byte 9).toNat + 2 ^ 16 * (byte 10).toNat +
        2 ^ 24 * (byte 11).toNat) (2 ^ 32) }

/-- The records of a report: its second byte says how many there are. -/
def recordsOf (payload : List UInt8) : List Record :=
  (List.range (payload.getD 1 0).toNat).map fun index => recordAt payload (2 + 12 * index)

def Record.range (record : Record) : Range :=
  Range.of record.anchor (metres record.millimetres)

/-- What stands before the place of a record does not matter. -/
theorem recordAt_append (header bytes : List UInt8) (place : Nat) :
    recordAt (header ++ bytes) (header.length + place) = recordAt bytes place := by
  have moved : ∀ index, (header ++ bytes).getD (header.length + place + index) 0 =
      bytes.getD (place + index) 0 := by
    intro index
    rw [List.getD_append_right _ _ _ _ (by omega), Nat.add_assoc, Nat.add_sub_cancel_left]
  simp only [recordAt, moved]

private theorem decode_eq_bmod (b₀ b₁ b₂ b₃ : UInt8) :
    LittleEndian.decode b₀ b₁ b₂ b₃ =
      Int.bmod (b₀.toNat + 2 ^ 8 * b₁.toNat + 2 ^ 16 * b₂.toNat + 2 ^ 24 * b₃.toNat) (2 ^ 32) := by
  have bound := LittleEndian.word_lt b₀ b₁ b₂ b₃
  unfold LittleEndian.decode LittleEndian.signed
  unfold LittleEndian.word at bound ⊢
  rw [Int.bmod_def]
  split <;> omega

theorem range_recordAt_zero (a b c d e f g h w x y z : UInt8) (rest : List UInt8) :
    (recordAt (a :: b :: c :: d :: e :: f :: g :: h :: w :: x :: y :: z :: rest) 0).range =
      Range.of (AnchorId.ofWire #v[a, b, c, d, e, f, g, h])
        (metres (LittleEndian.decode w x y z)) := by
  have reversed : #v[a, b, c, d, e, f, g, h].reverse = #v[h, g, f, e, d, c, b, a] := by simp
  rw [decode_eq_bmod, AnchorId.ofWire, reversed]
  simp [recordAt, Record.range]

/-! ## Reading -/

theorem exists_record {bytes : List UInt8} (enough : 12 ≤ bytes.length) :
    ∃ a b c d e f g h w x y z rest,
      bytes = a :: b :: c :: d :: e :: f :: g :: h :: w :: x :: y :: z :: rest := by
  rcases bytes with _ | ⟨a, _ | ⟨b, _ | ⟨c, _ | ⟨d, _ | ⟨e, _ | ⟨f, _ | ⟨g, _ | ⟨h, _ | ⟨w, _ | ⟨x,
    _ | ⟨y, _ | ⟨z, rest⟩⟩⟩⟩⟩⟩⟩⟩⟩⟩⟩⟩ <;> simp at enough ⊢

/-- The reader finds the records at their places. -/
theorem readRecords_eq {count : Nat} {bytes : List UInt8} (enough : 12 * count ≤ bytes.length) :
    readRecords count bytes =
      (List.range count).map fun index => (recordAt bytes (12 * index)).range := by
  induction count generalizing bytes with
  | zero => simp [readRecords]
  | succ count inductionHypothesis =>
      obtain ⟨a, b, c, d, e, f, g, h, w, x, y, z, rest, rfl⟩ :=
        exists_record (by omega : 12 ≤ bytes.length)
      simp only [List.length_cons] at enough
      rw [readRecords, inductionHypothesis (by omega), List.range_succ_eq_map, List.map_cons,
        List.map_map, Nat.mul_zero, range_recordAt_zero]
      apply congrArg (List.cons _)
      apply List.map_congr_left
      intro index _
      have moved := recordAt_append [a, b, c, d, e, f, g, h, w, x, y, z] rest (12 * index)
      rw [Function.comp_apply, ← moved, Nat.succ_eq_add_one, Nat.mul_succ, Nat.add_comm]
      rfl

/-- The ranges of a report are those of its records. -/
theorem readRecords_eq_map (count : UInt8) {bytes : List UInt8}
    (enough : 12 * count.toNat ≤ bytes.length) :
    readRecords count.toNat bytes =
      (recordsOf (1 :: count :: bytes)).map Record.range := by
  rw [readRecords_eq enough, recordsOf, List.map_map]
  apply List.map_congr_left
  intro index _
  rw [Function.comp_apply, ← recordAt_append [1, count] bytes (12 * index)]
  rfl

theorem required_eq (count : Nat) : headerLength + count * recordLength = 2 + 12 * count := by
  rw [headerLength, recordLength]
  omega

private theorem available_eq (count : UInt8) (bytes : List UInt8) :
    headerLength + bytes.length = (1 :: count :: bytes).length := by
  rw [headerLength, List.length_cons, List.length_cons]
  omega

theorem decode_of_other {code : UInt8} (other : code ≠ 1) (body : List UInt8) :
    decode (code :: body) = .ok (.forwarded code (code :: body)) :=
  if_pos other

/-- A report that is too short for its records is refused. -/
theorem decode_of_short {count : UInt8} {bytes : List UInt8}
    (short : (1 :: count :: bytes).length < 2 + 12 * count.toNat) :
    decode (1 :: count :: bytes) =
      .error (.insufficientData count.toNat (2 + 12 * count.toNat)
        (1 :: count :: bytes).length) := by
  simp only [decode, required_eq, available_eq count]
  rw [if_neg (not_not_intro rfl : ¬(1 : UInt8) ≠ rangeReport), if_pos short]

/-- Any other report is read to its records. -/
theorem decode_of_enough {count : UInt8} {bytes : List UInt8}
    (enough : 12 * count.toNat ≤ bytes.length) :
    decode (1 :: count :: bytes) = .ok (.ranges (readRecords count.toNat bytes)) := by
  have long : ¬headerLength + bytes.length < 2 + 12 * count.toNat := by
    rw [headerLength]
    omega
  simp only [decode, required_eq]
  rw [if_neg (not_not_intro rfl : ¬(1 : UInt8) ≠ rangeReport), if_neg long]

/-- A report that is long enough for its count gives the ranges of its records. -/
theorem decode_of_long {count : UInt8} {bytes : List UInt8}
    (long : 2 + 12 * count.toNat ≤ (1 :: count :: bytes).length) :
    decode (1 :: count :: bytes) =
      .ok (.ranges ((recordsOf (1 :: count :: bytes)).map Record.range)) := by
  have enough : 12 * count.toNat ≤ bytes.length := by
    simp only [List.length_cons] at long
    omega
  rw [decode_of_enough enough, readRecords_eq_map count enough]

/-- A report that is read is long enough for its records. -/
theorem enough_of_decode {count : UInt8} {bytes : List UInt8} {content : Content}
    (decoded : decode (1 :: count :: bytes) = .ok content) :
    12 * count.toNat ≤ bytes.length ∧ content = .ranges (readRecords count.toNat bytes) := by
  by_cases enough : 12 * count.toNat ≤ bytes.length
  · rw [decode_of_enough enough] at decoded
    cases decoded
    exact ⟨enough, rfl⟩
  · have short : (1 :: count :: bytes).length < 2 + 12 * count.toNat := by
      rw [List.length_cons, List.length_cons]
      omega
    rw [decode_of_short short] at decoded
    cases decoded

private theorem natAbs_millimetres_lt (bytes : List UInt8) (place : Nat) :
    (recordAt bytes place).millimetres.natAbs < 2 ^ 53 := by
  simp only [recordAt]
  generalize (_ + _ : Int) = word
  have lower := Int.le_bmod (x := word) (by decide : 0 < 2 ^ 32)
  have upper := Int.bmod_lt (x := word) (by decide : 0 < 2 ^ 32)
  omega

/-- The millimetres of a record are exact as a double. -/
theorem natAbs_millimetres_of_mem {payload : List UInt8} :
    ∀ record ∈ recordsOf payload, record.millimetres.natAbs < 2 ^ 53 := by
  intro record member
  obtain ⟨index, _, rfl⟩ := List.mem_map.mp member
  exact natAbs_millimetres_lt payload _

end TagFix.Telemetry
