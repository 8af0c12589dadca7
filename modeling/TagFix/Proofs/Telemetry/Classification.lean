import TagFix.Config.Settings
import TagFix.Proofs.Position.Inputs
import TagFix.Proofs.Telemetry.Records
import TagFix.Proofs.Telemetry.Selection
import TagFix.Telemetry.Outcome

/-!
# What payloads come to

Every payload comes to one of a few outcomes, and which one it is can be told from its bytes, the
directory and the settings alone. The main statement is `process_eq_iff`.
-/

namespace TagFix.Telemetry

open TagFix.Position (Fix Point Sample Search Solver fewestRanges)

/-! ## Outcomes told from the records -/

def Record.isUsable (directory : Directory) (record : Record) : Bool :=
  -1000000 < record.millimetres && directory.contains record.anchor

/-- The anchors of the usable records, each where it first comes. -/
def anchorsIn (directory : Directory) (records : List Record) : List AnchorId :=
  ((records.filter (Record.isUsable directory)).map Record.anchor).eraseDups

def lastRecord? (directory : Directory) (records : List Record) (anchor : AnchorId) :
    Option Record :=
  ((records.filter (Record.isUsable directory)).filter fun record =>
    record.anchor = anchor).getLast?

/-- That a sample has the coordinates of an anchor and the distance of its last usable record. -/
structure IsSample (directory : Directory) (records : List Record) (anchor : AnchorId)
    (sample : Sample Float) : Prop where
  range : ∃ record, lastRecord? directory records anchor = some record ∧
    sample.range = metres record.millimetres
  place : directory.get? anchor = some sample.anchor

/-- That a fix is what the search from the origin finds, in time or not. -/
def Finds (solver : Solver Float) (samples : List (Sample Float)) (fix : Fix) : Prop :=
  solver.solveFrom (samples.map Sample.range) (samples.map Sample.anchor) ⟨0, 0, 0⟩ =
    if fix.converged then .ok ⟨fix.position, fix.residual, fix.iterations⟩
    else .error (.nonConvergence ⟨fix.position, fix.residual, fix.iterations⟩)

/-- What the records of a report come to when there are anchors in the directory. -/
inductive Located (settings : Config.Settings) (directory : Directory) (records : List Record) :
    Outcome → Prop
  | insufficientRanges
      (few : (anchorsIn directory records).length < max 3 settings.minRanges.toNat) :
      Located settings directory records
        (.insufficientRanges (anchorsIn directory records).length (max 3 settings.minRanges.toNat))
  | solveFailed {samples : List (Sample Float)} {index : Nat}
      (enough : max 3 settings.minRanges.toNat ≤ (anchorsIn directory records).length)
      (chosen : List.Forall₂ (IsSample directory records) (anchorsIn directory records) samples)
      (misplaced : samples.findIdx? (fun sample => !sample.anchor.isFinite) = some index) :
      Located settings directory records (.solveFailed (.nonFiniteInput index))
  | position {samples : List (Sample Float)} {fix : Fix}
      (enough : max 3 settings.minRanges.toNat ≤ (anchorsIn directory records).length)
      (chosen : List.Forall₂ (IsSample directory records) (anchorsIn directory records) samples)
      (placed : ∀ sample ∈ samples, sample.anchor.isFinite = true)
      (counted : fix.anchorCount = (anchorsIn directory records).length)
      (found : Finds settings.solver.solver samples fix) :
      Located settings directory records (.position fix)

/-- What a payload comes to, by its bytes. -/
inductive Classified (settings : Config.Settings) (directory : Option Directory)
    (payload : List UInt8) : Except DecodeFault Outcome → Prop
  | emptyPayload (empty : payload = []) :
      Classified settings directory payload (.error .emptyPayload)
  | forwarded {code : UInt8} {body : List UInt8} (coded : payload = code :: body)
      (other : code ≠ 1) :
      Classified settings directory payload (.ok (.forwarded code payload))
  | missingCount (only : payload = [1]) :
      Classified settings directory payload (.error .missingCount)
  | insufficientData {count : UInt8} {body : List UInt8} (counted : payload = 1 :: count :: body)
      (short : payload.length < 2 + 12 * count.toNat) :
      Classified settings directory payload
        (.error (.insufficientData count.toNat (2 + 12 * count.toNat) payload.length))
  | noRanges {body : List UInt8} (counted : payload = 1 :: 0 :: body) :
      Classified settings directory payload (.ok .noRanges)
  | directoryUnavailable {count : UInt8} {body : List UInt8}
      (counted : payload = 1 :: count :: body) (some : count ≠ 0)
      (long : 2 + 12 * count.toNat ≤ payload.length)
      (without : ∀ known, directory = .some known → known.entries = []) :
      Classified settings directory payload (.ok .directoryUnavailable)
  | located {count : UInt8} {body : List UInt8} {known : Directory} {outcome : Outcome}
      (counted : payload = 1 :: count :: body) (some : count ≠ 0)
      (long : 2 + 12 * count.toNat ≤ payload.length) (given : directory = .some known)
      (anchors : known.entries ≠ [])
      (located : Located settings known (recordsOf payload) outcome) :
      Classified settings directory payload (.ok outcome)

/-! ## Records and ranges -/

section Records

variable {directory : Directory} {records : List Record}
  (bounded : ∀ record ∈ records, record.millimetres.natAbs < 2 ^ 53)

include bounded

/-- The usable ranges are those of the usable records. -/
theorem filter_map_range :
    (records.map Record.range).filter (Range.isUsable directory) =
      (records.filter (Record.isUsable directory)).map Record.range := by
  rw [List.filter_map]
  apply congrArg (List.map Record.range)
  apply List.filter_congr
  intro record member
  rw [Function.comp_apply, Range.isUsable, Record.isUsable, Record.range, Range.of,
    isDistance_metres (bounded record member)]

private theorem usableAnchors_map_range :
    usableAnchors directory (records.map Record.range) = anchorsIn directory records := by
  rw [usableAnchors, filter_map_range bounded, List.map_map]
  rfl

private theorem lastUsable?_map_range (anchor : AnchorId) :
    lastUsable? directory (records.map Record.range) anchor =
      (lastRecord? directory records anchor).map Record.range := by
  rw [lastUsable?, filter_map_range bounded, List.filter_map, List.getLast?_map]
  rfl

end Records

/-! ## Selected samples -/

def Selection.samples (selection : Selection) : List (Sample Float) :=
  selection.usable.entries.map fun entry => ⟨entry.2.2, entry.2.1.metres⟩

section Samples

variable {directory : Directory} {records : List Record} {selection : Selection}
  (bounded : ∀ record ∈ records, record.millimetres.natAbs < 2 ^ 53)
  (selects : Selects directory (records.map Record.range) selection)

include bounded selects

private theorem Selects.isSample {entry : AnchorId × Range × Point Float}
    (member : entry ∈ selection.usable.entries) :
    IsSample directory records entry.1 ⟨entry.2.2, entry.2.1.metres⟩ := by
  obtain ⟨last, place⟩ := (selects.chosen _ _ _).mp (Table.get?_of_mem member)
  rw [lastUsable?_map_range bounded, Option.map_eq_some_iff] at last
  obtain ⟨record, found, same⟩ := last
  refine ⟨⟨record, found, ?_⟩, place⟩
  rw [← same]
  rfl

private theorem Selects.forall₂_isSample :
    List.Forall₂ (IsSample directory records) (anchorsIn directory records) selection.samples := by
  rw [← usableAnchors_map_range bounded, ← selects.anchors, Selection.samples,
    List.forall₂_map_left_iff, List.forall₂_map_right_iff, List.forall₂_same]
  intro entry member
  exact selects.isSample bounded member

private theorem Selects.size_eq : selection.usable.size = (anchorsIn directory records).length := by
  rw [← usableAnchors_map_range bounded, ← selects.anchors, List.length_map]
  rfl

/-- The distances of samples are finite. -/
theorem Selects.isFinite_range : ∀ sample ∈ selection.samples, sample.range.isFinite = true := by
  intro sample member
  obtain ⟨entry, entryMember, rfl⟩ := List.mem_map.mp member
  obtain ⟨record, found, same⟩ := (selects.isSample bounded entryMember).range
  have usable := List.mem_of_getLast? found
  rw [List.mem_filter, List.mem_filter, Record.isUsable, Bool.and_eq_true] at usable
  have distance := isDistance_metres (bounded record usable.1.1)
  rw [usable.1.2.1, isDistance, Bool.and_eq_true] at distance
  rw [same]
  exact distance.1

end Samples

/-- There is only one sample of an anchor. -/
theorem IsSample.unique {directory : Directory} {records : List Record} :
    Relator.RightUnique (IsSample directory records) := by
  rintro anchor ⟨place, range⟩ ⟨place', range'⟩ first second
  obtain ⟨record, found, same⟩ := first.range
  obtain ⟨record', found', same'⟩ := second.range
  have places := first.place.symm.trans second.place
  have lasts := found.symm.trans found'
  simp only [Option.some.injEq] at places lasts
  simp only at same same'
  rw [places, same, same', lasts]

/-! ## Reports -/

private theorem isFinite_origin : (⟨0, 0, 0⟩ : Point Float).isFinite = true := rfl

section Reports

variable {settings : Config.Settings} {directory : Directory} {records : List Record}
  {outcome : Outcome}

/-- The outcome of a report when there are anchors in the directory. -/
def locate (settings : Config.Settings) (directory : Directory) (records : List Record) : Outcome :=
  let selection := Selection.of directory (records.map Record.range)
  if selection.usable.size < requiredRanges settings.minRanges.toNat then
    .insufficientRanges selection.usable.size (requiredRanges settings.minRanges.toNat)
  else selection.outcome settings.solver.solver

private theorem Selection.outcome_eq (solver : Solver Float) (selection : Selection) :
    selection.outcome solver =
      match Fix.ofSolve selection.usable.size
        (solver.solveFrom (selection.samples.map Sample.range) (selection.samples.map Sample.anchor)
          ⟨0, 0, 0⟩) with
      | .ok fix => .position fix
      | .error failure => .solveFailed failure := by
  simp only [Selection.outcome, Selection.ranges, Selection.places, Selection.samples, List.map_map]
  rfl

variable (bounded : ∀ record ∈ records, record.millimetres.natAbs < 2 ^ 53)

include bounded

/-- What a search from the origin needs, but for the places of the anchors. -/
theorem fewestRanges_le_length
    (enough : max 3 settings.minRanges.toNat ≤ (anchorsIn directory records).length) :
    fewestRanges ≤ (Selection.of directory (records.map Record.range)).samples.length := by
  have selects := selects_of directory (records.map Record.range)
  rw [← (selects.forall₂_isSample bounded).length_eq]
  exact Nat.le_trans (Nat.le_max_left _ _) enough

private theorem locate_eq_ite :
    locate settings directory records =
      if (anchorsIn directory records).length < max 3 settings.minRanges.toNat then
        .insufficientRanges (anchorsIn directory records).length (max 3 settings.minRanges.toNat)
      else
        (Selection.of directory (records.map Record.range)).outcome settings.solver.solver := by
  have size := (selects_of directory (records.map Record.range)).size_eq bounded
  have required : requiredRanges settings.minRanges.toNat = max 3 settings.minRanges.toNat :=
    Nat.max_comm _ _
  simp only [locate, size, required]

private theorem Located.locate_eq (located : Located settings directory records outcome) :
    locate settings directory records = outcome := by
  have selects := selects_of directory (records.map Record.range)
  have finite := selects.isFinite_range bounded
  cases located with
  | insufficientRanges few => rw [locate_eq_ite bounded, if_pos few]
  | @solveFailed samples index enough chosen misplaced =>
      obtain rfl := List.right_unique_forall₂' IsSample.unique chosen
        (selects.forall₂_isSample bounded)
      rw [locate_eq_ite bounded, if_neg (Nat.not_lt.mpr enough), Selection.outcome_eq,
        Position.solveFrom_of_misplaced _ (fewestRanges_le_length bounded enough) finite
          isFinite_origin misplaced]
      rfl
  | @position samples fix enough chosen placed counted found =>
      obtain rfl := List.right_unique_forall₂' IsSample.unique chosen
        (selects.forall₂_isSample bounded)
      rw [locate_eq_ite bounded, if_neg (Nat.not_lt.mpr enough), Selection.outcome_eq, found,
        selects.size_eq bounded, ← counted]
      obtain ⟨position, residual, iterations, converged, anchorCount⟩ := fix
      cases converged <;> rfl

private theorem located_locate :
    Located settings directory records (locate settings directory records) := by
  have selects := selects_of directory (records.map Record.range)
  have finite := selects.isFinite_range bounded
  have chosen := selects.forall₂_isSample bounded
  by_cases few : (anchorsIn directory records).length < max 3 settings.minRanges.toNat
  · rw [locate_eq_ite bounded, if_pos few]
    exact .insufficientRanges few
  · have enough := Nat.le_of_not_lt few
    have fewest := fewestRanges_le_length bounded enough
    rw [locate_eq_ite bounded, if_neg few, Selection.outcome_eq]
    generalize (Selection.of directory (records.map Record.range)) = selection at *
    cases misplaced : selection.samples.findIdx? fun sample => !sample.anchor.isFinite with
    | some index =>
        rw [Position.solveFrom_of_misplaced _ fewest finite isFinite_origin misplaced]
        exact .solveFailed enough chosen misplaced
    | none =>
        have placed : ∀ sample ∈ selection.samples, sample.anchor.isFinite = true := by
          rw [List.findIdx?_eq_none_iff] at misplaced
          intro sample member
          simpa using misplaced sample member
        have searched := Position.solveFrom_of_placed settings.solver.solver fewest finite
          isFinite_origin placed
        rcases Search.run_cases settings.solver.solver selection.samples _ 0 _ with
          ⟨solution, ended⟩ | ⟨last, stopped⟩
        · rw [ended] at searched
          rw [searched]
          exact .position enough chosen placed (selects.size_eq bounded) searched
        · rw [stopped] at searched
          rw [searched]
          exact .position enough chosen placed (selects.size_eq bounded) searched

end Reports

/-! ## Payloads -/

section Payloads

variable {settings : Config.Settings} {directory : Option Directory} {payload : List UInt8}
  {result : Except DecodeFault Outcome}

private theorem rangesOutcome_of_unavailable {minRanges : Nat} {solver : Solver Float}
    {ranges : List Range} (nonempty : ranges.isEmpty = false)
    (without : ∀ known, directory = some known → known.entries = []) :
    rangesOutcome minRanges solver directory ranges = .directoryUnavailable := by
  rw [rangesOutcome, nonempty, if_neg Bool.false_ne_true]
  cases directory with
  | none => rfl
  | some known =>
      have empty : known.isEmpty = true := by rw [Table.isEmpty, without known rfl]; rfl
      simp [judge, empty]

private theorem rangesOutcome_of_known {known : Directory} {records : List Record}
    (nonempty : (records.map Record.range).isEmpty = false) (anchors : known.entries ≠ []) :
    rangesOutcome settings.minRanges.toNat settings.solver.solver (some known)
      (records.map Record.range) = locate settings known records := by
  have listed : known.isEmpty = false := by simpa [Table.isEmpty] using anchors
  rw [rangesOutcome, nonempty, if_neg Bool.false_ne_true]
  by_cases few : (Selection.of known (records.map Record.range)).usable.size <
      requiredRanges settings.minRanges.toNat
  · simp [judge, listed, locate, few]
  · simp [judge, listed, locate, few]

/-- A report has records if its second byte says so. -/
theorem isEmpty_ranges_of_count {count : UInt8} (some : count ≠ 0) (body : List UInt8) :
    ((recordsOf (1 :: count :: body)).map Record.range).isEmpty = false := by
  have positive : count.toNat ≠ 0 := fun zero => some (UInt8.toNat_inj.mp zero)
  simpa [recordsOf] using positive

private theorem process_of_long {count : UInt8} {body : List UInt8}
    (long : 2 + 12 * count.toNat ≤ (1 :: count :: body).length) :
    process settings.minRanges.toNat settings.solver.solver directory (1 :: count :: body) =
      .ok (rangesOutcome settings.minRanges.toNat settings.solver.solver directory
        ((recordsOf (1 :: count :: body)).map Record.range)) := by
  rw [process, decode_of_long long]
  rfl

private theorem Classified.process_eq (classified : Classified settings directory payload result) :
    process settings.minRanges.toNat settings.solver.solver directory payload = result := by
  cases classified with
  | emptyPayload empty =>
      rw [empty]
      rfl
  | forwarded coded other =>
      rw [coded, process, decode_of_other other]
      rfl
  | missingCount only =>
      rw [only]
      rfl
  | insufficientData counted short =>
      rw [counted] at short ⊢
      rw [process, decode_of_short short]
      rfl
  | noRanges counted =>
      have long : 2 + 12 * (0 : UInt8).toNat ≤ payload.length := by
        rw [counted]
        exact Nat.le_add_left _ _
      rw [counted] at long ⊢
      rw [process_of_long long]
      rfl
  | directoryUnavailable counted some long without =>
      rw [counted] at long ⊢
      rw [process_of_long long,
        rangesOutcome_of_unavailable (isEmpty_ranges_of_count some _) without]
  | located counted some long given anchors located =>
      rw [counted] at long located ⊢
      rw [process_of_long long, given,
        rangesOutcome_of_known (isEmpty_ranges_of_count some _) anchors,
        located.locate_eq natAbs_millimetres_of_mem]

private theorem classified_report {count : UInt8} {body : List UInt8} (some : count ≠ 0)
    (long : 2 + 12 * count.toNat ≤ (1 :: count :: body).length) :
    Classified settings directory (1 :: count :: body)
      (process settings.minRanges.toNat settings.solver.solver directory (1 :: count :: body)) := by
  have nonempty := isEmpty_ranges_of_count some body
  rw [process_of_long long]
  by_cases without : ∀ known, directory = .some known → known.entries = []
  · rw [rangesOutcome_of_unavailable nonempty without]
    exact .directoryUnavailable rfl some long without
  · push Not at without
    obtain ⟨known, given, anchors⟩ := without
    rw [given, rangesOutcome_of_known nonempty anchors]
    exact .located rfl some long rfl anchors (located_locate natAbs_millimetres_of_mem)

private theorem classified_process : Classified settings directory payload
    (process settings.minRanges.toNat settings.solver.solver directory payload) := by
  rcases payload with _ | ⟨code, body⟩
  · exact .emptyPayload rfl
  by_cases report : code = 1
  · subst report
    rcases body with _ | ⟨count, body⟩
    · exact .missingCount rfl
    by_cases short : (1 :: count :: body).length < 2 + 12 * count.toNat
    · rw [process, decode_of_short short]
      exact .insufficientData rfl short
    · have long := Nat.le_of_not_lt short
      by_cases recordless : count = 0
      · subst recordless
        rw [process_of_long long]
        exact .noRanges rfl
      · exact classified_report recordless long
  · rw [process, decode_of_other report]
    exact .forwarded rfl report

/-- What a payload comes to is told by its bytes, the directory and the settings. -/
theorem process_eq_iff (settings : Config.Settings) (directory : Option Directory)
    (payload : List UInt8) (result : Except DecodeFault Outcome) :
    process settings.minRanges.toNat settings.solver.solver directory payload = result ↔
      Classified settings directory payload result := by
  constructor
  · rintro rfl
    exact classified_process
  · exact Classified.process_eq

end Payloads

/-- Two records of one anchor: a metre, and then the error code. -/
def repeatedAnchor : List UInt8 :=
  [1, 2, 8, 7, 6, 5, 4, 3, 2, 1, 232, 3, 0, 0, 8, 7, 6, 5, 4, 3, 2, 1, 192, 189, 240, 255]

example : lastRecord? (Table.ofList [(⟨#v[1, 2, 3, 4, 5, 6, 7, 8]⟩, ⟨0, 0, 0⟩)])
    (recordsOf repeatedAnchor) ⟨#v[1, 2, 3, 4, 5, 6, 7, 8]⟩ =
      some ⟨⟨#v[1, 2, 3, 4, 5, 6, 7, 8]⟩, 1000⟩ := by decide

end TagFix.Telemetry
