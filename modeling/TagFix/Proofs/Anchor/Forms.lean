import TagFix.Proofs.Anchor.Partition
import TagFix.Proofs.Anchor.Spelling
import TagFix.Proofs.Telemetry.Format
import TagFix.Proofs.Telemetry.RoundTrip

/-!
# The forms of an address

An address comes as bytes over the air, is rendered as text, and stands as a key in documents, there
in letters of either case and between blanks. In each form it names one anchor, so what a document
lists under an address is found for the records that carry its bytes, and for no others. The main
statement is `found_as_listed`.
-/

namespace TagFix

/-! ## Letters and blanks -/

namespace Text

private theorem toUpper_of_wide {c : Char} (wide : 128 ≤ c.toNat) : c.toUpper = c := by
  unfold Char.toUpper
  rw [dif_neg]
  rintro ⟨-, lower⟩
  have small : c.toNat ≤ 122 := UInt32.le_iff_toNat_le.mp lower
  omega

private theorem eq_or_eq_toUpper (c : Char) : c = c.toLower ∨ c = c.toLower.toUpper := by
  by_cases narrow : c.toNat < 128
  · exact of_ascii (by decide +kernel) c narrow
  · exact Or.inl (toLower_of_wide (Nat.le_of_not_lt narrow)).symm

private theorem toLower_toUpper (c : Char) : c.toUpper.toLower = c.toLower := by
  by_cases narrow : c.toNat < 128
  · exact of_ascii (by decide +kernel) c narrow
  · rw [toUpper_of_wide (Nat.le_of_not_lt narrow)]

private theorem isBlank_toLower (c : Char) : isBlank c.toLower = isBlank c := by
  by_cases narrow : c.toNat < 128
  · exact of_ascii (by decide +kernel) c narrow
  · rw [toLower_of_wide (Nat.le_of_not_lt narrow)]

/-- The characters with a given lower case are that one and its upper case. -/
theorem toLower_eq_iff {c lower : Char} (fixed : lower.toLower = lower) :
    c.toLower = lower ↔ c = lower ∨ c = lower.toUpper := by
  constructor
  · rintro rfl
    exact eq_or_eq_toUpper c
  · rintro (rfl | rfl)
    · exact fixed
    · rw [toLower_toUpper, fixed]

/-- That letters are other ones, of which any may be in upper case. -/
def Capitalizes (letters lowers : List Char) : Prop :=
  List.Forall₂ (fun c lower => c = lower ∨ c = lower.toUpper) letters lowers

private theorem capitalizes_iff {letters lowers : List Char}
    (fixed : ∀ lower ∈ lowers, lower.toLower = lower) :
    Capitalizes letters lowers ↔ letters.map Char.toLower = lowers := by
  induction lowers generalizing letters with
  | nil => rw [Capitalizes, List.forall₂_nil_right_iff, List.map_eq_nil_iff]
  | cons lower lowers inductionHypothesis =>
      rw [List.forall_mem_cons] at fixed
      cases letters with
      | nil => simp [Capitalizes]
      | cons c letters =>
          rw [Capitalizes, List.forall₂_cons, ← Capitalizes, inductionHypothesis fixed.2,
            List.map_cons, List.cons.injEq, toLower_eq_iff fixed.1]

def Surrounds (text middle : List Char) : Prop :=
  ∃ before behind, text = before ++ middle ++ behind ∧
    (∀ c ∈ before, isBlank c = true) ∧ ∀ c ∈ behind, isBlank c = true

private theorem surrounds_trimmed (text : List Char) : Surrounds text (trimmed text) := by
  let inner := text.dropWhile isBlank
  refine ⟨text.takeWhile isBlank, (inner.reverse.takeWhile isBlank).reverse, ?_, ?_, ?_⟩
  · have right := List.takeWhile_append_dropWhile (p := isBlank) (l := inner.reverse)
    have left := List.takeWhile_append_dropWhile (p := isBlank) (l := text)
    rw [trimmed, List.append_assoc, ← List.reverse_append, right, List.reverse_reverse, left]
  · intro c member
    exact List.mem_takeWhile_imp member
  · intro c member
    exact List.mem_takeWhile_imp (List.mem_reverse.mp member)

private theorem dropWhile_solid {blanks middle : List Char} (blank : ∀ c ∈ blanks, isBlank c = true)
    (solid : ∀ c ∈ middle, isBlank c = false) (some : middle ≠ []) (rest : List Char) :
    (blanks ++ middle ++ rest).dropWhile isBlank = middle ++ rest := by
  obtain ⟨first, others, rfl⟩ := List.exists_cons_of_ne_nil some
  rw [List.append_assoc, List.dropWhile_append_of_pos blank]
  have stop := solid first List.mem_cons_self
  exact List.dropWhile_cons_of_neg (by simp [stop])

/-- What is between the blanks is told by the text. -/
theorem Surrounds.trimmed_eq {text middle : List Char} (surrounds : Surrounds text middle)
    (solid : ∀ c ∈ middle, isBlank c = false) (some : middle ≠ []) : trimmed text = middle := by
  obtain ⟨before, behind, rfl, blankBefore, blankBehind⟩ := surrounds
  have left := dropWhile_solid blankBefore solid some behind
  have right : (behind.reverse ++ middle.reverse ++ []).dropWhile isBlank = middle.reverse ++ [] :=
    dropWhile_solid (by simpa using blankBehind) (by simpa using solid) (by simpa using some) []
  rw [List.append_nil, ← List.reverse_append, List.append_nil] at right
  rw [trimmed, left, right, List.reverse_reverse]

end Text

namespace AnchorId

/-! ## Text -/

private theorem plain_digit : ∀ value < 16, (Hex.digit value).toLower = Hex.digit value ∧
    Text.isBlank (Hex.digit value) = false ∧ Hex.digit value ≠ '+' := by
  decide

private theorem plain_of_mem_byte {b : UInt8} {c : Char} (member : c ∈ Hex.byte b) :
    c.toLower = c ∧ Text.isBlank c = false ∧ c ≠ '+' := by
  have bound := b.toNat_lt
  rw [Hex.byte, List.mem_pair] at member
  rcases member with rfl | rfl
  · exact plain_digit _ (by omega)
  · exact plain_digit _ (by omega)

private theorem mem_of_mem_intercalate {separator c : Char} {parts : List (List Char)}
    (member : c ∈ [separator].intercalate parts) : c = separator ∨ ∃ part ∈ parts, c ∈ part := by
  induction parts with
  | nil => cases member
  | cons first others inductionHypothesis =>
      cases others with
      | nil =>
          rw [List.intercalate_singleton] at member
          exact Or.inr ⟨first, List.mem_cons_self, member⟩
      | cons second rest =>
          rw [List.intercalate_cons_cons, List.mem_append, List.mem_append,
            List.mem_singleton] at member
          rcases member with (inside | between) | later
          · exact Or.inr ⟨first, List.mem_cons_self, inside⟩
          · exact Or.inl between
          · refine (inductionHypothesis later).imp_right ?_
            rintro ⟨part, listed, inside⟩
            exact ⟨part, List.mem_cons_of_mem _ listed, inside⟩

/-- A rendering has neither capitals nor blanks nor plus signs. -/
theorem plain_of_mem_render {id : AnchorId} {c : Char} (member : c ∈ (render id).toList) :
    c.toLower = c ∧ Text.isBlank c = false ∧ c ≠ '+' := by
  rw [toList_render] at member
  rcases mem_of_mem_intercalate member with rfl | ⟨octet, listed, inside⟩
  · decide
  · obtain ⟨b, -, rfl⟩ := List.mem_map.mp listed
    exact plain_of_mem_byte inside

theorem render_ne_nil (id : AnchorId) : (render id).toList ≠ [] := by
  intro empty
  have split := splitOn_render id
  rw [empty, List.splitOn_nil] at split
  have length := congrArg List.length split
  rw [List.length_map, id.bytes.length_toList] at length
  cases length

/-- That a text shows an address: it is the rendering of the address, with any of the letters in
upper case and any blanks around them. -/
def Shows (text : String) (id : AnchorId) : Prop :=
  ∃ letters, Text.Surrounds text.toList letters ∧ Text.Capitalizes letters (render id).toList

/-- The texts that show an address are those without plus signs that are read as it. -/
theorem shows_iff {text : String} {id : AnchorId} :
    Shows text id ↔ '+' ∉ text.toList ∧ parse text = .ok id := by
  have fixed : ∀ lower ∈ (render id).toList, lower.toLower = lower :=
    fun lower member => (plain_of_mem_render member).1
  constructor
  · rintro ⟨letters, surrounds, capitalizes⟩
    have lowers := (Text.capitalizes_iff fixed).mp capitalizes
    have plain : ∀ c ∈ letters, Text.isBlank c = false ∧ c ≠ '+' := by
      intro c member
      have lowered : c.toLower ∈ (render id).toList := lowers ▸ List.mem_map_of_mem member
      obtain ⟨-, solid, unsigned⟩ := plain_of_mem_render lowered
      rw [Text.isBlank_toLower] at solid
      refine ⟨solid, ?_⟩
      rintro rfl
      exact unsigned rfl
    have some : letters ≠ [] := by
      rintro rfl
      exact render_ne_nil id lowers.symm
    have unsigned : '+' ∉ text.toList := by
      obtain ⟨before, behind, same, blankBefore, blankBehind⟩ := surrounds
      rw [same, List.mem_append, List.mem_append]
      rintro ((inside | inside) | inside)
      · cases blankBefore _ inside
      · exact (plain _ inside).2 rfl
      · cases blankBehind _ inside
    have trimmed := surrounds.trimmed_eq (fun c member => (plain c member).1) some
    refine ⟨unsigned, (parse_eq_ok_iff_render unsigned).mpr ?_⟩
    rw [lowered, trimmed, lowers]
  · rintro ⟨unsigned, read⟩
    have lowers := (parse_eq_ok_iff_render unsigned).mp read
    exact ⟨_, Text.surrounds_trimmed _, (Text.capitalizes_iff fixed).mpr lowers⟩

private theorem shows_render (id : AnchorId) : Shows (render id) id := by
  refine ⟨_, ⟨[], [], (List.append_nil _).symm, nofun, nofun⟩, ?_⟩
  exact List.forall₂_same.mpr fun _ _ => Or.inl rfl

/-- No two addresses are rendered alike. -/
theorem render_inj {id other : AnchorId} (same : render other = render id) : other = id := by
  have read := (shows_iff.mp (shows_render id)).2
  have otherRead := (shows_iff.mp (shows_render other)).2
  rw [same, read] at otherRead
  exact (Except.ok.inj otherRead).symm

end AnchorId

namespace Anchor

open TagFix.Json (Value)
open TagFix.Position (Point)

variable {members : List (String × Value)} {key : String} {id other : AnchorId}
  {place : Point Float}

/-! ## Documents without one key -/

def without (key : String) (members : List (String × Value)) : List (String × Value) :=
  members.filter fun member => member.1 ≠ key

private theorem member?_without (found : String) :
    (Value.object (without key members)).member? found =
      if found = key then none else (Value.object members).member? found := by
  rw [Value.member?, Value.member?, without, ← List.filter_reverse, List.find?_filter]
  split
  · next same =>
      rw [same, Option.map_eq_none_iff, List.find?_eq_none]
      simp
  · next different =>
      congr 2
      funext member
      by_cases here : member.1 = found
      · simp [here, different]
      · simp [here]

private theorem mem_entries_without_iff {member : String × Value} :
    member ∈ Json.entries (without key members) ↔
      member ∈ Json.entries members ∧ member.1 ≠ key := by
  obtain ⟨found, value⟩ := member
  rw [Json.mem_entries_iff, Json.mem_entries_iff, member?_without]
  by_cases same : found = key <;> simp [same]

/-- Whether an anchor is placed, and where, is told by the members that place it. -/
theorem Governs.of_mem_iff {others : List (String × Value)} (governs : Governs members id place)
    (same : ∀ member stands, Places member id stands → (member ∈ members ↔ member ∈ others)) :
    Governs others id place := by
  obtain ⟨member, listed, places, greatest⟩ := governs
  refine ⟨member, (same member place places).mp listed, places, ?_⟩
  intro rival rivalListed stands rivalPlaces
  exact greatest rival ((same rival stands rivalPlaces).mpr rivalListed) stands rivalPlaces

def directoryOf (members : List (String × Value)) : Directory :=
  Table.ofList (placements (Json.entries members))

private theorem get?_directoryOf_iff :
    (directoryOf members).get? id = some place ↔ Governs (Json.entries members) id place :=
  get?_placements_iff (Json.ascending_sortedEntries members)

/-! ## Documents that list an anchor -/

/-- That a document lists an anchor: it has a member under a key that shows the address, and the
value of that member is the point where the anchor stands. -/
structure Lists (members : List (String × Value)) (key : String) (id : AnchorId)
    (place : Point Float) : Prop where
  shown : AnchorId.Shows key id
  listed : ∃ value, (Value.object members).member? key = some value ∧ point value = .ok place

private theorem Lists.exists_places (lists : Lists members key id place) :
    ∃ value, (key, value) ∈ Json.entries members ∧ Places (key, value) id place := by
  obtain ⟨value, listed, located⟩ := lists.listed
  have address := (AnchorId.shows_iff.mp lists.shown).2
  exact ⟨value, Json.mem_entries_iff.mpr listed, address, point_eq_ok_iff.mp located⟩

/-- A member has no part in where other anchors stand. -/
theorem Lists.get?_of_ne (lists : Lists members key id place) (different : other ≠ id) :
    (directoryOf members).get? other = (directoryOf (without key members)).get? other := by
  have same : ∀ member stands, Places member other stands →
      (member ∈ Json.entries members ↔ member ∈ Json.entries (without key members)) := by
    intro member stands places
    rw [mem_entries_without_iff]
    refine (and_iff_left ?_).symm
    rintro rfl
    have address := (AnchorId.shows_iff.mp lists.shown).2
    rw [places.address] at address
    exact different (Except.ok.inj address)
  ext stands
  rw [get?_directoryOf_iff, get?_directoryOf_iff]
  exact ⟨fun governs => governs.of_mem_iff same,
    fun governs => governs.of_mem_iff fun member found places => (same member found places).symm⟩

/-- An anchor that is listed is found, and where no other member places it, it is found there. -/
theorem Lists.exists_get? (lists : Lists members key id place) :
    ∃ stands, (directoryOf members).get? id = some stands ∧
      ((directoryOf (without key members)).get? id = none → stands = place) := by
  obtain ⟨value, listed, places⟩ := lists.exists_places
  cases found : (directoryOf members).get? id with
  | none => exact absurd places (get?_placements_eq_none_iff.mp found _ listed place)
  | some stands =>
      refine ⟨stands, rfl, ?_⟩
      intro unrivalled
      obtain ⟨⟨found, other⟩, governing, governs, -⟩ := get?_directoryOf_iff.mp found
      have here : found = key := by
        by_contra elsewhere
        exact get?_placements_eq_none_iff.mp unrivalled _
          (mem_entries_without_iff.mpr ⟨governing, elsewhere⟩) stands governs
      subst here
      rw [Json.mem_entries_iff] at governing listed
      obtain rfl := Option.some.inj (governing.symm.trans listed)
      exact (governs.unique places).2

/-! ## Records that carry an address -/

/-- The bytes of a payload where a record has the address. -/
def addressBytes (payload : List UInt8) (index : Nat) : List UInt8 :=
  payload.extract (2 + 12 * index) (10 + 12 * index)

private theorem anchor_eq_iff {payload : List UInt8} {ranges : List Telemetry.Range}
    (decoded : Telemetry.decode payload = .ok (.ranges ranges)) {index : Nat}
    (inside : index < ranges.length) :
    ranges[index].anchor = id ↔ addressBytes payload index = id.toWire.toList := by
  obtain ⟨count, bytes, rfl, -, -⟩ := Telemetry.exists_of_decode decoded
  obtain ⟨found, same, -, each⟩ := (Telemetry.readsFormat count bytes).measured _ decoded
  cases same
  obtain ⟨address, -, -⟩ := each index inside
  rw [AnchorId.toWire, Vector.toList_reverse, addressBytes, ← List.reverse_eq_iff, ← address,
    Vector.toList_inj]
  exact ⟨congrArg AnchorId.bytes, congrArg AnchorId.mk⟩

/-- That one directory tells of an anchor where it stands, and of all others what another directory
tells: also by the bytes that the records of reports carry. -/
structure Finds (known rest : Directory) (id : AnchorId) (stands : Point Float) : Prop where
  found : known.get? id = some stands
  elsewhere : ∀ other, other ≠ id → known.get? other = rest.get? other
  carried : ∀ payload ranges, Telemetry.decode payload = .ok (.ranges ranges) →
    ∀ index (_ : index < ranges.length), known.get? ranges[index].anchor =
      if addressBytes payload index = id.toWire.toList then some stands
      else rest.get? ranges[index].anchor

private theorem finds_of_get? {known rest : Directory} {stands : Point Float}
    (found : known.get? id = some stands)
    (elsewhere : ∀ other, other ≠ id → known.get? other = rest.get? other) :
    Finds known rest id stands where
  found := found
  elsewhere := elsewhere
  carried := by
    intro payload ranges decoded index inside
    split
    · next carries =>
        rw [(anchor_eq_iff decoded inside).mpr carries]
        exact found
    · next carries =>
        apply elsewhere
        exact fun same => carries ((anchor_eq_iff decoded inside).mp same)

/-! ## All forms -/

/-- That an address is told by each of its forms. A document that lists its anchor gives a directory
that finds it, and without that member a directory that differs in nothing else. -/
structure Told (id : AnchorId) : Prop where
  aired : AnchorId.ofWire id.toWire = id
  shown : ∀ text, AnchorId.Shows text id ↔ '+' ∉ text.toList ∧ AnchorId.parse text = .ok id
  rendered : ∀ other, AnchorId.render other = AnchorId.render id → other = id
  listed : ∀ members key place, Lists members key id place →
    ∃ ingested rest stands, ingest (.object members) = .ok (some ingested) ∧
      ingest (.object (without key members)) = .ok (some rest) ∧
      Finds ingested.directory rest.directory id stands ∧
        Governs (Json.entries members) id stands ∧
          (rest.directory.get? id = none → stands = place)

/-- Bytes from the air are those that are sent again, and every address is told by each of its
forms: by its bytes on the air, by every text that shows it, and by its rendering. So an anchor that
a document lists under such a text is found for the records that carry its bytes, and the document
gives no other anchor a place by it. -/
theorem found_as_listed :
    (∀ wire, (AnchorId.ofWire wire).toWire = wire) ∧ ∀ id, Told id := by
  refine ⟨AnchorId.toWire_ofWire, ?_⟩
  intro id
  refine ⟨AnchorId.ofWire_toWire id, fun text => AnchorId.shows_iff,
    fun other => AnchorId.render_inj, ?_⟩
  intro members key place lists
  obtain ⟨stands, found, unrivalled⟩ := lists.exists_get?
  exact ⟨_, _, stands, ingest_object members, ingest_object (without key members),
    finds_of_get? found fun other different => lists.get?_of_ne different,
    get?_directoryOf_iff.mp found, unrivalled⟩

/-- An anchor, and a document that lists it in capitals and between blanks. -/
def shouted : AnchorId :=
  ⟨#v[192, 152, 229, 80, 80, 68, 80, 29]⟩

def shoutedDocument : List (String × Value) :=
  [("c0:98:e5:50:50:44:50:02", .array [.number (.whole 4), .number (.whole 0), .number (.whole 0)]),
    (" C0:98:E5:50:50:44:50:1D\n", .array [.number (.whole 1), .number (.whole 2),
      .number (.whole 3)])]

private theorem lists_shouted :
    Lists shoutedDocument " C0:98:E5:50:50:44:50:1D\n" shouted ⟨1, 2, 3⟩ where
  shown := AnchorId.shows_iff.mpr ⟨by decide, by decide⟩
  listed := ⟨_, rfl, rfl⟩

def shoutedReport : List UInt8 :=
  [1, 1, 29, 80, 68, 80, 80, 229, 152, 192, 232, 3, 0, 0]

theorem found_as_listed_shouted :
    Lists shoutedDocument " C0:98:E5:50:50:44:50:1D\n" shouted ⟨1, 2, 3⟩ ∧
      ∃ ingested range, ingest (.object shoutedDocument) = .ok (some ingested) ∧
        Telemetry.decode shoutedReport = .ok (.ranges [range]) ∧
          ingested.directory.get? range.anchor = some ⟨1, 2, 3⟩ := by
  refine ⟨lists_shouted, ?_⟩
  obtain ⟨ingested, rest, stands, given, others, finds, -, unrivalled⟩ :=
    (found_as_listed.2 shouted).listed _ _ _ lists_shouted
  rw [ingest_object] at others
  cases others
  obtain rfl := unrivalled rfl
  have carried := finds.carried shoutedReport _ rfl 0 Nat.one_pos
  have carries : addressBytes shoutedReport 0 = shouted.toWire.toList := by
    rw [AnchorId.toWire, Vector.toList_reverse]
    rfl
  rw [if_pos carries] at carried
  exact ⟨ingested, _, given, rfl, carried⟩

end Anchor

end TagFix
