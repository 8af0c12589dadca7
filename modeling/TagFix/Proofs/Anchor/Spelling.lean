import TagFix.Anchor.Id
import Mathlib.Data.List.Forall2

/-!
# Spellings of addresses

An address is read from its rendering, in letters of either case and with blanks around it, and from
little else: an octet below sixteen may have a plus sign in the place of its leading zero.
-/

namespace TagFix

/-! ## Letter case -/

namespace Text

/-- A fact about all characters of ASCII is checked code by code. -/
@[elab_as_elim]
theorem of_ascii {motive : Char → Prop} (ascii : ∀ code < 128, motive (Char.ofNat code)) (c : Char)
    (narrow : c.toNat < 128) : motive c := by
  have found := ascii c.toNat narrow
  rwa [Char.ofNat_toNat] at found

/-- Beyond ASCII no letter is changed. -/
theorem toLower_of_wide {c : Char} (wide : 128 ≤ c.toNat) : c.toLower = c := by
  unfold Char.toLower
  rw [dif_neg]
  rintro ⟨-, upper⟩
  have small : c.toNat ≤ 90 := UInt32.le_iff_toNat_le.mp upper
  omega

private theorem toLower_eq_colon_iff (c : Char) : c.toLower = ':' ↔ c = ':' := by
  by_cases narrow : c.toNat < 128
  · exact of_ascii (by decide +kernel) c narrow
  · rw [toLower_of_wide (Nat.le_of_not_lt narrow)]

end Text

/-! ## Hexadecimal digits -/

namespace Hex

private theorem value?_of_narrow {c : Char} (narrow : c.toNat < 128) :
    ∀ value < 16, value? c = some value ↔ c.toLower = digit value :=
  Text.of_ascii (by decide +kernel) c narrow

private theorem digit_lt_ascii : ∀ value < 16, (digit value).toNat < 128 := by
  decide

private theorem value?_eq_ite (c : Char) :
    value? c =
      if 48 ≤ c.toNat ∧ c.toNat ≤ 57 then some (c.toNat - 48)
      else if 97 ≤ c.toNat ∧ c.toNat ≤ 102 then some (c.toNat - 87)
      else if 65 ≤ c.toNat ∧ c.toNat ≤ 70 then some (c.toNat - 55)
      else none := by
  simp only [value?, Char.le_def, UInt32.le_iff_toNat_le]
  rfl

private theorem value?_lt {c : Char} {value : Nat} (read : value? c = some value) : value < 16 := by
  rw [value?_eq_ite] at read
  split at read
  · cases read
    omega
  · split at read
    · cases read
      omega
    · split at read
      · cases read
        omega
      · cases read

/-- A character is read as the value that has it, in lower case, as its digit. -/
theorem value?_eq_some_iff {c : Char} {value : Nat} :
    value? c = some value ↔ value < 16 ∧ c.toLower = digit value := by
  by_cases wide : 128 ≤ c.toNat
  · rw [Text.toLower_of_wide wide, value?_eq_ite, if_neg (by omega), if_neg (by omega),
      if_neg (by omega)]
    constructor
    · intro read
      cases read
    · rintro ⟨small, rfl⟩
      have narrow := digit_lt_ascii value small
      omega
  · have ascii := value?_of_narrow (Nat.lt_of_not_le wide)
    constructor
    · intro read
      have small := value?_lt read
      exact ⟨small, (ascii value small).mp read⟩
    · rintro ⟨small, lower⟩
      exact (ascii value small).mpr lower

private theorem colon_ne_digit : ∀ value < 16, ':' ≠ digit value := by
  decide

private theorem toLower_plus_ne_digit : ∀ value < 16, '+'.toLower ≠ digit value := by
  decide

end Hex

/-! ## Text between separators -/

namespace Text

private theorem splitAtChar_eq_splitOn (separator : Char) (text : List Char) :
    splitAtChar separator text = text.splitOn separator := by
  induction text with
  | nil => rfl
  | cons c rest inductionHypothesis =>
      rw [splitAtChar, inductionHypothesis, List.splitOn_cons_eq_if_modifyHead]
      by_cases same : c = separator
      · rw [if_pos same, if_pos (beq_iff_eq.mpr same)]
      · rw [if_neg same, if_neg (fun equal => same (beq_iff_eq.mp equal))]
        cases parts : rest.splitOn separator with
        | nil => exact absurd parts (List.splitOn_ne_nil separator rest)
        | cons first others => rfl

/-- A change of characters that neither makes nor removes separators commutes with splitting. -/
theorem splitOn_map {change : Char → Char} {separator : Char}
    (kept : ∀ c, change c = separator ↔ c = separator) (text : List Char) :
    (text.map change).splitOn separator = (text.splitOn separator).map (List.map change) := by
  induction text with
  | nil => rfl
  | cons c rest inductionHypothesis =>
      rw [List.map_cons, List.splitOn_cons_eq_if_modifyHead, List.splitOn_cons_eq_if_modifyHead,
        inductionHypothesis]
      by_cases same : c = separator
      · rw [if_pos (beq_iff_eq.mpr ((kept c).mpr same)), if_pos (beq_iff_eq.mpr same)]
        rfl
      · have different : change c ≠ separator := fun equal => same ((kept c).mp equal)
        rw [if_neg (by simpa using different), if_neg (by simpa using same)]
        cases rest.splitOn separator with
        | nil => rfl
        | cons first others => rfl

private theorem mem_of_mem_splitOn {separator c : Char} {text part : List Char}
    (listed : part ∈ text.splitOn separator) (member : c ∈ part) : c ∈ text := by
  induction text generalizing part with
  | nil =>
      rw [List.splitOn_nil, List.mem_singleton] at listed
      rwa [listed] at member
  | cons first rest inductionHypothesis =>
      rw [List.splitOn_cons_eq_if_modifyHead] at listed
      split at listed
      · rcases List.mem_cons.mp listed with rfl | later
        · cases member
        · exact List.mem_cons_of_mem _ (inductionHypothesis later member)
      · cases parts : rest.splitOn separator with
        | nil =>
            rw [parts] at listed
            cases listed
        | cons head others =>
            rw [parts] at listed inductionHypothesis
            rcases List.mem_cons.mp listed with rfl | later
            · rcases List.mem_cons.mp member with rfl | inside
              · exact List.mem_cons_self
              · exact List.mem_cons_of_mem _ (inductionHypothesis List.mem_cons_self inside)
            · exact List.mem_cons_of_mem _
                (inductionHypothesis (List.mem_cons_of_mem _ later) member)

private theorem mem_of_mem_trimmed {c : Char} {text : List Char} (member : c ∈ trimmed text) :
    c ∈ text := by
  rw [trimmed, List.mem_reverse] at member
  have inner := (List.dropWhile_sublist _).mem member
  rw [List.mem_reverse] at inner
  exact (List.dropWhile_sublist _).mem inner

end Text

namespace AnchorId

/-! ## Octets -/

/-- How an octet may be written: by its digits in either case, or by a plus sign and the last digit
if the first one is zero. -/
def Spells (octet : List Char) (b : UInt8) : Prop :=
  octet.map Char.toLower = Hex.byte b ∨
    ∃ low, octet = ['+', low] ∧ ['0', low.toLower] = Hex.byte b

private theorem toNat_ofNat_digits {high low : Nat} (highSmall : high < 16) (lowSmall : low < 16) :
    (UInt8.ofNat (16 * high + low)).toNat = 16 * high + low := by
  rw [UInt8.toNat_ofNat']
  omega

private theorem byte_ofNat {high low : Nat} (highSmall : high < 16) (lowSmall : low < 16) :
    Hex.byte (UInt8.ofNat (16 * high + low)) = [Hex.digit high, Hex.digit low] := by
  have first : (16 * high + low) / 16 = high := by omega
  have second : (16 * high + low) % 16 = low := by omega
  rw [Hex.byte, toNat_ofNat_digits highSmall lowSmall, first, second]

/-- Two digits spell the byte that they are read as. -/
theorem pair_eq_some_iff {first second : Char} {b : UInt8} :
    (do
      let high ← Hex.value? first
      let low ← Hex.value? second
      pure (UInt8.ofNat (16 * high + low))) = some b ↔
        [first.toLower, second.toLower] = Hex.byte b := by
  simp only [Option.bind_eq_bind, Option.bind_eq_some_iff, Option.pure_def, Option.some.injEq,
    Hex.value?_eq_some_iff]
  constructor
  · rintro ⟨high, ⟨highSmall, highLower⟩, low, ⟨lowSmall, lowLower⟩, rfl⟩
    rw [byte_ofNat highSmall lowSmall, highLower, lowLower]
  · intro spelled
    have bound := b.toNat_lt
    rw [Hex.byte, List.cons.injEq, List.cons.injEq] at spelled
    refine ⟨b.toNat / 16, ⟨by omega, spelled.1⟩, b.toNat % 16, ⟨by omega, spelled.2.1⟩, ?_⟩
    rw [Nat.div_add_mod, UInt8.ofNat_toNat]

private theorem plus_not_mem_byte (b : UInt8) (low : Char) :
    [Char.toLower '+', low] ≠ Hex.byte b := by
  have bound := b.toNat_lt
  intro spelled
  rw [Hex.byte, List.cons.injEq] at spelled
  exact Hex.toLower_plus_ne_digit _ (by omega) spelled.1

private theorem octet?_plus (low : Char) :
    octet? ['+', low] = (do
      let high ← Hex.value? '0'
      let low ← Hex.value? low
      pure (UInt8.ofNat (16 * high + low))) := by
  have zero : Hex.value? '0' = some 0 := rfl
  rw [octet?, if_pos rfl, zero]
  cases Hex.value? low with
  | none => rfl
  | some value => simp

/-- An octet is read as the byte that it spells. -/
theorem octet?_eq_some_iff {octet : List Char} {b : UInt8} :
    octet? octet = some b ↔ Spells octet b := by
  rcases octet with _ | ⟨first, _ | ⟨second, _ | ⟨third, rest⟩⟩⟩
  · simp [octet?, Spells, Hex.byte]
  · simp [octet?, Spells, Hex.byte]
  · by_cases plus : first = '+'
    · subst plus
      rw [octet?_plus, pair_eq_some_iff]
      constructor
      · intro spelled
        exact Or.inr ⟨second, rfl, spelled⟩
      · rintro (spelled | ⟨low, same, spelled⟩)
        · exact absurd spelled (plus_not_mem_byte b second.toLower)
        · cases same
          exact spelled
    · rw [octet?, if_neg plus, pair_eq_some_iff]
      constructor
      · exact Or.inl
      · rintro (spelled | ⟨low, same, -⟩)
        · exact spelled
        · cases same
          exact absurd rfl plus
  · simp [octet?, Spells, Hex.byte]

private theorem octets_eq_ok_iff {parts : List (List Char)} {bytes : List UInt8} :
    octets parts = .ok bytes ↔ List.Forall₂ Spells parts bytes := by
  induction parts generalizing bytes with
  | nil =>
      rw [List.forall₂_nil_left_iff, octets, Except.ok.injEq]
      exact eq_comm
  | cons octet rest inductionHypothesis =>
      rw [octets, List.forall₂_cons_left_iff]
      cases read : octet? octet with
      | none =>
          constructor
          · intro made
            cases made
          · rintro ⟨b, others, spelled, -, -⟩
            rw [← octet?_eq_some_iff, read] at spelled
            cases spelled
      | some b =>
          have spelled := octet?_eq_some_iff.mp read
          constructor
          · intro made
            cases tail : octets rest with
            | error fault =>
                rw [tail] at made
                cases made
            | ok others =>
                rw [tail] at made
                cases made
                exact ⟨b, others, spelled, inductionHypothesis.mp tail, rfl⟩
          · rintro ⟨b', others, spelled', tail, rfl⟩
            rw [← octet?_eq_some_iff, read, Option.some.injEq] at spelled'
            rw [inductionHypothesis.mpr tail, spelled']
            rfl

/-! ## Addresses -/

def parts (text : String) : List (List Char) :=
  (Text.trimmed text.toList).splitOn ':'

private theorem parse_eq (text : String) :
    parse text =
      if (parts text).length ≠ 8 then .error (.wrongLength (parts text).length)
      else (octets (parts text)).bind fun bytes =>
        if size : bytes.toArray.size = 8 then .ok ⟨⟨bytes.toArray, size⟩⟩
        else .error (.wrongLength bytes.length) := by
  rw [parse, Text.splitAtChar_eq_splitOn]
  rfl

/-- A text is read as the address whose bytes its parts spell. -/
theorem parse_eq_ok_iff_parts {text : String} {id : AnchorId} :
    parse text = .ok id ↔ List.Forall₂ Spells (parts text) id.bytes.toList := by
  rw [← octets_eq_ok_iff, parse_eq]
  constructor
  · intro made
    split at made
    · cases made
    · cases read : octets (parts text) with
      | error fault =>
          rw [read] at made
          cases made
      | ok bytes =>
          rw [read, Except.bind] at made
          split at made
          · cases made
            rfl
          · cases made
  · intro read
    have eight : id.bytes.toList.length = 8 := id.bytes.length_toList
    have length := (octets_eq_ok_iff.mp read).length_eq
    rw [eight] at length
    have size : id.bytes.toList.toArray.size = 8 := eight
    rw [if_neg (not_not.mpr length), read, Except.bind, dif_pos size]
    rfl

theorem toList_render (id : AnchorId) :
    (render id).toList = [':'].intercalate (id.bytes.toList.map Hex.byte) := by
  rw [render, String.toList_intercalate, List.map_map]
  congr 1
  apply List.map_congr_left
  intro b member
  exact String.toList_ofList

/-! ## Renderings -/

/-- A text in lower case, without the blanks around it. -/
def lowered (text : String) : List Char :=
  (Text.trimmed text.toList).map Char.toLower

private theorem colon_not_mem_byte (b : UInt8) : ':' ∉ Hex.byte b := by
  have bound := b.toNat_lt
  rw [Hex.byte, List.mem_pair]
  rintro (first | second)
  · exact Hex.colon_ne_digit _ (by omega) first
  · exact Hex.colon_ne_digit _ (by omega) second

private theorem splitOn_lowered (text : String) :
    (lowered text).splitOn ':' = (parts text).map (List.map Char.toLower) :=
  Text.splitOn_map Text.toLower_eq_colon_iff _

/-- The colons of a rendered address stand between the digits of its bytes and nowhere else. -/
theorem splitOn_render (id : AnchorId) :
    (render id).toList.splitOn ':' = id.bytes.toList.map Hex.byte := by
  rw [toList_render]
  apply List.splitOn_intercalate
  · intro octet member
    obtain ⟨b, -, rfl⟩ := List.mem_map.mp member
    exact colon_not_mem_byte b
  · intro empty
    have none := congrArg List.length empty
    rw [List.length_map, id.bytes.length_toList] at none
    cases none

private theorem lowered_eq_render_iff {text : String} {id : AnchorId} :
    lowered text = (render id).toList ↔
      (parts text).map (List.map Char.toLower) = id.bytes.toList.map Hex.byte := by
  rw [← splitOn_lowered, ← splitOn_render]
  constructor
  · intro same
    rw [same]
  · intro same
    have joined := congrArg [':'].intercalate same
    rwa [List.intercalate_splitOn, List.intercalate_splitOn] at joined

/-- Without a plus sign only the digits of a byte spell it. -/
theorem spells_iff_of_unsigned {octet : List Char} {b : UInt8} (unsigned : '+' ∉ octet) :
    Spells octet b ↔ octet.map Char.toLower = Hex.byte b := by
  constructor
  · rintro (spelled | ⟨low, rfl, -⟩)
    · exact spelled
    · exact absurd List.mem_cons_self unsigned
  · exact Or.inl

/-- Without a plus sign a text is read as an address if and only if it is the rendering of that
address, but for the case of its letters and the blanks around it. -/
theorem parse_eq_ok_iff_render {text : String} {id : AnchorId} (unsigned : '+' ∉ text.toList) :
    parse text = .ok id ↔ lowered text = (render id).toList := by
  have plain : ∀ octet ∈ parts text, '+' ∉ octet := by
    intro octet listed member
    exact unsigned (Text.mem_of_mem_trimmed (Text.mem_of_mem_splitOn listed member))
  rw [parse_eq_ok_iff_parts, lowered_eq_render_iff, ← List.forall₂_eq_eq_eq,
    List.forall₂_map_left_iff, List.forall₂_map_right_iff]
  constructor
  · intro spelled
    have both := (List.forall₂_and_left _ _).mpr ⟨plain, spelled⟩
    exact both.imp fun octet b ⟨free, spells⟩ => (spells_iff_of_unsigned free).mp spells
  · intro lowered
    exact lowered.imp fun octet b spelled => Or.inl spelled

/-- Texts are read as addresses if their octets spell the bytes. Without plus signs such a text is
the rendering of its address in some letter case and with some blanks around it, and so are two
texts that are read as the same address. -/
theorem read_as_rendered (text : String) (id : AnchorId) :
    (parse text = .ok id ↔ List.Forall₂ Spells (parts text) id.bytes.toList) ∧
      ('+' ∉ text.toList →
        (parse text = .ok id ↔ lowered text = (render id).toList) ∧
          ∀ other : String, '+' ∉ other.toList → parse text = .ok id → parse other = .ok id →
            lowered text = lowered other) := by
  refine ⟨parse_eq_ok_iff_parts, ?_⟩
  intro unsigned
  refine ⟨parse_eq_ok_iff_render unsigned, ?_⟩
  intro other otherUnsigned read otherRead
  rw [(parse_eq_ok_iff_render unsigned).mp read,
    (parse_eq_ok_iff_render otherUnsigned).mp otherRead]

def fifteen : AnchorId :=
  ⟨#v[15, 0, 0, 0, 0, 0, 0, 0]⟩

theorem read_as_rendered_shouted :
    '+' ∉ " 0F:00:00:00:00:00:00:00\n".toList ∧ '+' ∉ "0f:00:00:00:00:00:00:00".toList ∧
      parse " 0F:00:00:00:00:00:00:00\n" = .ok fifteen ∧
      parse "0f:00:00:00:00:00:00:00" = .ok fifteen ∧
      lowered " 0F:00:00:00:00:00:00:00\n" = lowered "0f:00:00:00:00:00:00:00" := by
  have unsigned : '+' ∉ " 0F:00:00:00:00:00:00:00\n".toList := by decide
  have otherUnsigned : '+' ∉ "0f:00:00:00:00:00:00:00".toList := by decide
  have read : parse " 0F:00:00:00:00:00:00:00\n" = .ok fifteen := by decide
  have otherRead : parse "0f:00:00:00:00:00:00:00" = .ok fifteen := by decide
  have plain := (read_as_rendered " 0F:00:00:00:00:00:00:00\n" fifteen).2 unsigned
  exact ⟨unsigned, otherUnsigned, read, otherRead, plain.2 _ otherUnsigned read otherRead⟩

/-- A plus sign is taken for a leading zero, although no rendering has one. -/
theorem read_of_plus :
    parse "+f:00:00:00:00:00:00:00" = .ok fifteen ∧
      lowered "+f:00:00:00:00:00:00:00" ≠ (render fifteen).toList ∧
      parse "0f:00:00:00:00:00:00:00" = .ok fifteen ∧
      lowered "+f:00:00:00:00:00:00:00" ≠ lowered "0f:00:00:00:00:00:00:00" := by
  decide

end AnchorId

end TagFix
