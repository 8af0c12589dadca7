import TagFix.Proofs.Telemetry.Records

/-!
# The format of a report

The reader takes a report apart where a program with arrays would index and cut it. Such a program
is given here, in which every access may fail, and shown to be the reader: none of its accesses
does. What is read of a report is then told by the places of its bytes. The main statement is
`decode_reads_format`.
-/

namespace TagFix.Telemetry

/-! ## Accesses that may fail -/

/-- The bytes from one place up to another, if all of them are there. -/
def slice? (bytes : List UInt8) (first last : Nat) : Option (List UInt8) :=
  if first ≤ last ∧ last ≤ bytes.length then some (bytes.extract first last) else none

/-- The bytes as a vector, if there are just as many. -/
def vector? (length : Nat) (bytes : List UInt8) : Option (Vector UInt8 length) :=
  if size : bytes.toArray.size = length then some ⟨bytes.toArray, size⟩ else none

/-- The pieces of a length into which bytes can be cut. What is left over is not among them. -/
def chunks (length : Nat) (bytes : List UInt8) : List (List UInt8) :=
  (List.range (bytes.length / length)).map fun index =>
    bytes.extract (length * index) (length * index + length)

def readRecord? (bytes : List UInt8) : Option Range := do
  let address ← slice? bytes 0 8
  let wire ← vector? 8 address
  let w ← bytes[8]?
  let x ← bytes[9]?
  let y ← bytes[10]?
  let z ← bytes[11]?
  return Range.of (AnchorId.ofWire wire) (metres (LittleEndian.decode w x y z))

/-- Reads a payload by the places of its bytes, if all bytes are there that are asked for. -/
def decodeInBounds? (payload : List UInt8) : Option (Except DecodeFault Content) :=
  match payload[0]? with
  | none => some (.error .emptyPayload)
  | some code =>
      if code ≠ rangeReport then some (.ok (.forwarded code payload))
      else
        match payload[1]? with
        | none => some (.error .missingCount)
        | some count =>
            let required := headerLength + count.toNat * recordLength
            if payload.length < required then
              some (.error (.insufficientData count.toNat required payload.length))
            else do
              let records ← slice? payload headerLength required
              let ranges ← (chunks recordLength records).mapM readRecord?
              return .ok (.ranges ranges)

/-! ## No access fails -/

section Accesses

variable {bytes : List UInt8}

private theorem slice?_of_le {first last : Nat} (ordered : first ≤ last)
    (inside : last ≤ bytes.length) :
    slice? bytes first last = some (bytes.extract first last) :=
  if_pos ⟨ordered, inside⟩

private theorem length_extract {first last : Nat} (inside : last ≤ bytes.length) :
    (bytes.extract first last).length = last - first := by
  rw [List.length_take, List.length_drop]
  omega

private theorem extract_extract (bytes : List UInt8) (place first : Nat) {last total : Nat}
    (inside : last ≤ total) :
    (bytes.extract place (place + total)).extract first last =
      bytes.extract (place + first) (place + last) := by
  simp only [List.extract_eq_take_drop, Nat.add_sub_cancel_left, Nat.add_sub_add_left,
    List.drop_take, List.take_take, List.drop_drop]
  rw [Nat.min_eq_left (by omega)]

private theorem recordAt_extract (bytes : List UInt8) (place : Nat) :
    recordAt (bytes.extract place (place + 12)) 0 = recordAt bytes place := by
  have moved : ∀ index < 12, (bytes.extract place (place + 12)).getD (0 + index) 0 =
      bytes.getD (place + index) 0 := by
    intro index inside
    simp [List.getD_eq_getElem?_getD, inside]
  simp only [recordAt, moved, Nat.reduceLT]

private theorem exists_extract {place : Nat} (inside : place + 12 ≤ bytes.length) :
    ∃ a b c d e f g h w x y z,
      bytes.extract place (place + 12) = [a, b, c, d, e, f, g, h, w, x, y, z] := by
  have length : (bytes.extract place (place + 12)).length = 12 := by
    rw [length_extract inside, Nat.add_sub_cancel_left]
  obtain ⟨a, b, c, d, e, f, g, h, w, x, y, z, rest, extracted⟩ :=
    exists_record (Nat.le_of_eq length.symm)
  rw [extracted] at length
  obtain rfl : rest = [] := by simpa using length
  exact ⟨a, b, c, d, e, f, g, h, w, x, y, z, extracted⟩

private theorem readRecord?_extract {place : Nat} (inside : place + 12 ≤ bytes.length) :
    readRecord? (bytes.extract place (place + 12)) = some (recordAt bytes place).range := by
  obtain ⟨a, b, c, d, e, f, g, h, w, x, y, z, extracted⟩ := exists_extract inside
  rw [← recordAt_extract, extracted, range_recordAt_zero]
  rfl

private theorem mapM_eq_some_map {α β : Type} {read : α → Option β} {value : α → β} {items : List α}
    (each : ∀ item ∈ items, read item = some (value item)) :
    items.mapM read = some (items.map value) := by
  induction items with
  | nil => rfl
  | cons item rest inductionHypothesis =>
      rw [List.forall_mem_cons] at each
      rw [List.mapM_cons, each.1, inductionHypothesis each.2]
      rfl

private theorem readRecord?_chunks {place count : Nat}
    (inside : place + 12 * count ≤ bytes.length) :
    (chunks 12 (bytes.extract place (place + 12 * count))).mapM readRecord? =
      some ((List.range count).map fun index => (recordAt bytes (place + 12 * index)).range) := by
  have pieces : (bytes.extract place (place + 12 * count)).length / 12 = count := by
    rw [length_extract inside]
    omega
  rw [chunks, pieces, List.mapM_map]
  apply mapM_eq_some_map
  intro index member
  have earlier := List.mem_range.mp member
  rw [Function.comp_apply, extract_extract _ _ _ (by omega)]
  exact readRecord?_extract (by omega)

/-- Whatever the payload, no access fails, and what comes of them is what the reader reads. -/
theorem decodeInBounds?_eq_decode (payload : List UInt8) :
    decodeInBounds? payload = some (decode payload) := by
  rcases payload with _ | ⟨code, body⟩
  · rfl
  by_cases other : code ≠ 1
  · rw [decode_of_other other]
    exact if_pos other
  obtain rfl : code = 1 := not_not.mp other
  rcases body with _ | ⟨count, body⟩
  · rfl
  have isReport : ¬(1 : UInt8) ≠ rangeReport := not_not_intro rfl
  simp only [decodeInBounds?, required_eq, List.getElem?_cons_zero, List.getElem?_cons_succ]
  by_cases short : (1 :: count :: body).length < 2 + 12 * count.toNat
  · rw [decode_of_short short, if_neg isReport, if_pos short]
  · -- A report that is not too short has all bytes of the slice, and so those of every piece of it.
    have long := Nat.le_of_not_lt short
    have records := slice?_of_le (Nat.le_add_right 2 (12 * count.toNat)) long
    have ranges := readRecord?_chunks long
    rw [decode_of_long long, if_neg isReport, if_neg short, headerLength, records,
      Option.bind_eq_bind, Option.bind_some, recordLength, ranges, recordsOf, List.map_map]
    rfl

/-! ## What is read -/

/-- The number whose bytes these are, least significant first, in two's complement of 32 bits. -/
def twosComplement (bytes : List UInt8) : Int :=
  Int.bmod (Nat.ofDigits (256 : Int) (bytes.map UInt8.toNat)) (2 ^ 32)

private theorem twosComplement_eq (w x y z : UInt8) :
    twosComplement [w, x, y, z] =
      Int.bmod (w.toNat + 2 ^ 8 * x.toNat + 2 ^ 16 * y.toNat + 2 ^ 24 * z.toNat) (2 ^ 32) := by
  have digits : Nat.ofDigits (256 : Int) ([w, x, y, z].map UInt8.toNat) =
      w.toNat + 2 ^ 8 * x.toNat + 2 ^ 16 * y.toNat + 2 ^ 24 * z.toNat := by
    simp only [List.map_cons, List.map_nil, Nat.ofDigits]
    ring
  rw [twosComplement, digits]

/-- The places of the bytes of a record. -/
theorem recordAt_eq_extract {place : Nat} (inside : place + 12 ≤ bytes.length) :
    (recordAt bytes place).anchor.bytes.toList = (bytes.extract place (place + 8)).reverse ∧
      (recordAt bytes place).millimetres =
        twosComplement (bytes.extract (place + 8) (place + 12)) := by
  obtain ⟨a, b, c, d, e, f, g, h, w, x, y, z, extracted⟩ := exists_extract inside
  have address := extract_extract bytes place 0 (by decide : 8 ≤ 12)
  have number := extract_extract bytes place 8 (Nat.le_refl 12)
  rw [extracted] at address number
  rw [← recordAt_extract, extracted, ← number, ← Nat.add_zero place, ← address]
  constructor
  · rfl
  · have word : [a, b, c, d, e, f, g, h, w, x, y, z].extract 8 12 = [w, x, y, z] := rfl
    rw [word, twosComplement_eq]
    simp [recordAt]

end Accesses

/-! ## Reports that are read -/

/-- What becomes of a report that says how many records it has. It is read just when it is long
enough for them, then with the bytes of each record where the format has them. Bytes behind the
records do not count, and no part of a report that is too short for them is read. -/
structure ReadsFormat (count : UInt8) (payload : List UInt8) : Prop where
  accepted : (∃ content, decode payload = .ok content) ↔ 2 + 12 * count.toNat ≤ payload.length
  measured : ∀ content, decode payload = .ok content →
    ∃ ranges, content = .ranges ranges ∧ ranges.length = count.toNat ∧
      ∀ index (_ : index < ranges.length),
        ranges[index].anchor.bytes.toList =
            (payload.extract (2 + 12 * index) (10 + 12 * index)).reverse ∧
          ranges[index].metres = Float.ofInt
              (twosComplement (payload.extract (10 + 12 * index) (14 + 12 * index))) / 1000 ∧
            ranges[index].valid = isDistance ranges[index].metres
  refused : payload.length < 2 + 12 * count.toNat →
    decode payload =
      .error (.insufficientData count.toNat (2 + 12 * count.toNat) payload.length)
  extended : ∀ content more, decode payload = .ok content → decode (payload ++ more) = .ok content
  cut : ∀ part, part <+: payload → 2 ≤ part.length → part.length < 2 + 12 * count.toNat →
    decode part = .error (.insufficientData count.toNat (2 + 12 * count.toNat) part.length)

private theorem recordAt_append_left {bytes : List UInt8} {place : Nat}
    (inside : place + 12 ≤ bytes.length)
    (more : List UInt8) : recordAt (bytes ++ more) place = recordAt bytes place := by
  have enough : 12 ≤ (bytes.drop place).length := by
    rw [List.length_drop]
    omega
  have kept : (bytes ++ more).extract place (place + 12) = bytes.extract place (place + 12) := by
    rw [List.extract_eq_take_drop, List.extract_eq_take_drop, Nat.add_sub_cancel_left,
      List.drop_append_of_le_length (by omega), List.take_append_of_le_length enough]
  rw [← recordAt_extract, kept, recordAt_extract]

section Reports

variable {count : UInt8} {body : List UInt8}

private theorem long_of_decode {content : Content}
    (decoded : decode (1 :: count :: body) = .ok content) :
    2 + 12 * count.toNat ≤ (1 :: count :: body).length ∧
      content = .ranges ((recordsOf (1 :: count :: body)).map Record.range) := by
  obtain ⟨enough, same⟩ := enough_of_decode decoded
  rw [readRecords_eq_map count enough] at same
  refine ⟨?_, same⟩
  rw [List.length_cons, List.length_cons]
  omega

theorem recordsOf_append (long : 2 + 12 * count.toNat ≤ (1 :: count :: body).length)
    (more : List UInt8) :
    recordsOf (1 :: count :: body ++ more) = recordsOf (1 :: count :: body) := by
  apply List.map_congr_left
  intro index member
  have earlier : index < count.toNat := List.mem_range.mp member
  exact recordAt_append_left (by omega) more

/-- Bytes behind the records change nothing. -/
theorem decode_append {content : Content} (decoded : decode (1 :: count :: body) = .ok content)
    (more : List UInt8) : decode (1 :: count :: body ++ more) = .ok content := by
  obtain ⟨long, rfl⟩ := long_of_decode decoded
  have longer : 2 + 12 * count.toNat ≤ (1 :: count :: body ++ more).length := by
    rw [List.length_append]
    omega
  rw [← recordsOf_append long more]
  exact decode_of_long longer

/-- A report is read by its format, whatever its count and its bytes. -/
theorem readsFormat (count : UInt8) (body : List UInt8) :
    ReadsFormat count (1 :: count :: body) where
  accepted := by
    constructor
    · rintro ⟨content, decoded⟩
      exact (long_of_decode decoded).1
    · intro long
      exact ⟨_, decode_of_long long⟩
  measured := by
    intro content decoded
    obtain ⟨long, rfl⟩ := long_of_decode decoded
    have counted : ((recordsOf (1 :: count :: body)).map Record.range).length = count.toNat := by
      rw [List.length_map, recordsOf, List.length_map, List.length_range]
      rfl
    refine ⟨_, rfl, counted, ?_⟩
    intro index inside
    rw [counted] at inside
    have found : ((recordsOf (1 :: count :: body)).map Record.range)[index] =
        (recordAt (1 :: count :: body) (2 + 12 * index)).range := by
      simp [recordsOf]
    obtain ⟨address, number⟩ := recordAt_eq_extract
      (show 2 + 12 * index + 12 ≤ (1 :: count :: body).length by omega)
    have eighth : 2 + 12 * index + 8 = 10 + 12 * index := by omega
    have twelfth : 2 + 12 * index + 12 = 14 + 12 * index := by omega
    rw [eighth] at address
    rw [eighth, twelfth] at number
    rw [found, ← number, ← address]
    exact ⟨rfl, rfl, rfl⟩
  refused := decode_of_short
  extended := fun _ more decoded => decode_append decoded more
  cut := by
    intro part isPart headed short
    obtain ⟨code, number, rest, rfl⟩ : ∃ code number rest, part = code :: number :: rest := by
      rcases part with _ | ⟨code, _ | ⟨number, rest⟩⟩ <;> simp at headed ⊢
    rw [List.cons_prefix_cons, List.cons_prefix_cons] at isPart
    obtain ⟨rfl, rfl, -⟩ := isPart
    exact decode_of_short short

end Reports

/-- Reports are read just as their format says, and however short or long a payload is, no access
beyond its bytes is made. -/
theorem decode_reads_format :
    (∀ count body, ReadsFormat count (rangeReport :: count :: body)) ∧
      ∀ payload, decodeInBounds? payload = some (decode payload) :=
  ⟨readsFormat, decodeInBounds?_eq_decode⟩

end TagFix.Telemetry
