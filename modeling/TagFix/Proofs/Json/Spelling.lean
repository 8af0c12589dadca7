import TagFix.Json.Skip
import TagFix.Proofs.Json.Numeral

/-!
# Spellings of JSON values

A value has many texts: blanks may stand between its parts, characters may be escaped, and numbers
may be spelled in several ways. Whichever is taken, a reader of strings or numbers finds what is
spelled, and a reader that passes over a value ends behind it.
-/

namespace TagFix.Json

/-! ## Strings -/

inductive SpellsUnit : Nat → List Char → Prop
  | digits {a b d e : Char} {p q r s : Nat} (first : Hex.value? a = some p)
      (second : Hex.value? b = some q) (third : Hex.value? d = some r)
      (fourth : Hex.value? e = some s) :
      SpellsUnit (4096 * p + 256 * q + 16 * r + s) [a, b, d, e]

/-- That a text stands for a character between quotes: the character itself, or one of its
escapes. -/
inductive SpellsChar : Char → List Char → Prop
  | plain {c : Char} (quote : c ≠ '"') (backslash : c ≠ '\\') (printable : 32 ≤ c.toNat) :
      SpellsChar c [c]
  | letter {letter c : Char} (escape : Cursor.letterEscape? letter = some c) :
      SpellsChar c ['\\', letter]
  | unit {n : Nat} {digits : List Char} (hex : SpellsUnit n digits)
      (whole : n < 0xd800 ∨ 0xdfff < n) : SpellsChar (Char.ofNat n) ('\\' :: 'u' :: digits)
  | pair {high low : Nat} {upper lower : List Char} (first : SpellsUnit high upper)
      (second : SpellsUnit low lower) (isHigh : 0xd800 ≤ high ∧ high ≤ 0xdbff)
      (isLow : 0xdc00 ≤ low ∧ low ≤ 0xdfff) :
      SpellsChar (Char.ofNat (0x10000 + 1024 * (high - 0xd800) + (low - 0xdc00)))
        ('\\' :: 'u' :: (upper ++ '\\' :: 'u' :: lower))

inductive SpellsText : List Char → List Char → Prop
  | done : SpellsText [] []
  | char {c : Char} {characters piece text : List Char} (first : SpellsChar c piece)
      (later : SpellsText characters text) : SpellsText (c :: characters) (piece ++ text)

section Text

variable {c : Char} {characters piece text : List Char}

private theorem hexEscape_unit {n : Nat} {digits : List Char} (hex : SpellsUnit n digits)
    (rest : List Char) (offset : Nat) :
    Cursor.hexEscape ⟨digits ++ rest, offset⟩ = .ok (n, ⟨rest, offset + 4⟩) := by
  cases hex with
  | digits first second third fourth =>
      simp only [List.cons_append, List.nil_append, Cursor.hexEscape, first, second, third, fourth]
      rfl

private theorem textLoop_char (first : SpellsChar c piece) (fuel : Nat) (read rest : List Char)
    (offset : Nat) :
    ∃ after, Cursor.textLoop (fuel + 1) read ⟨piece ++ rest, offset⟩ =
      Cursor.textLoop fuel (c :: read) ⟨rest, after⟩ := by
  cases first with
  | plain quote backslash printable =>
      have control : ¬c.toNat < 32 := Nat.not_lt.mpr printable
      exact ⟨_, by
        simp only [List.singleton_append, Cursor.textLoop, if_neg quote, if_neg backslash,
          if_neg control]
        rfl⟩
  | @letter letter _ escape =>
      have other : letter ≠ 'u' := by
        rintro rfl
        cases escape
      refine ⟨offset + 1 + 1, ?_⟩
      simp [Cursor.textLoop, Cursor.escape, Cursor.past, other, escape]
  | @unit n digits hex whole =>
      have digits := hexEscape_unit hex rest (offset + 2)
      have unpaired : ¬(0xdc00 ≤ n ∧ n ≤ 0xdfff) := by omega
      have plain : n < 0xd800 ∨ 0xdbff < n := by omega
      refine ⟨offset + 6, ?_⟩
      simp [Cursor.textLoop, Cursor.escape, Cursor.past, Cursor.unicodeEscape, digits, bind,
        Except.bind, unpaired, plain]
  | @pair high low upper lower hexHigh hexLow isHigh isLow =>
      have first := hexEscape_unit hexHigh ('\\' :: 'u' :: (lower ++ rest)) (offset + 2)
      have second := hexEscape_unit hexLow rest (offset + 8)
      have paired : ¬(0xdc00 ≤ high ∧ high ≤ 0xdfff) := by omega
      have surrogate : ¬(high < 0xd800 ∨ 0xdbff < high) := by omega
      have other : ¬(low < 0xdc00 ∨ 0xdfff < low) := by omega
      refine ⟨offset + 12, ?_⟩
      simp [Cursor.textLoop, Cursor.escape, Cursor.past, Cursor.unicodeEscape, Cursor.pairMark,
        first, second, bind, Except.bind, paired, surrogate, other]

/-- The halves of a pair are passed one after the other. -/
theorem passTextLoop_char (first : SpellsChar c piece) (rest : List Char) (offset : Nat) :
    ∃ spent after, spent ≤ piece.length ∧ ∀ fuel,
      Cursor.passTextLoop (fuel + spent) ⟨piece ++ rest, offset⟩ =
        Cursor.passTextLoop fuel ⟨rest, after⟩ := by
  cases first with
  | plain quote backslash printable =>
      have control : ¬c.toNat < 32 := Nat.not_lt.mpr printable
      refine ⟨1, offset + c.utf8Size, Nat.le_refl 1, fun fuel => ?_⟩
      simp only [List.singleton_append, Cursor.passTextLoop, if_neg quote, if_neg backslash,
        if_neg control]
      rfl
  | @letter letter _ escape =>
      have other : letter ≠ 'u' := by
        rintro rfl
        cases escape
      refine ⟨1, offset + 1 + 1, by simp, fun fuel => ?_⟩
      simp [Cursor.passTextLoop, Cursor.passEscape, Cursor.past, other, escape]
  | @unit n digits hex whole =>
      have digits := hexEscape_unit hex rest (offset + 2)
      refine ⟨1, offset + 6, by simp, fun fuel => ?_⟩
      simp [Cursor.passTextLoop, Cursor.passEscape, Cursor.past, digits, Except.map]
  | @pair high low upper lower hexHigh hexLow isHigh isLow =>
      have first := hexEscape_unit hexHigh ('\\' :: 'u' :: (lower ++ rest)) (offset + 2)
      have second := hexEscape_unit hexLow rest (offset + 8)
      refine ⟨2, offset + 12, by simp, fun fuel => ?_⟩
      simp [Cursor.passTextLoop, Cursor.passEscape, Cursor.past, first, second, Except.map]

private theorem SpellsChar.length_pos (spells : SpellsChar c piece) : 0 < piece.length := by
  cases spells <;> exact Nat.succ_pos _

private theorem SpellsText.length_le (spells : SpellsText characters text) :
    characters.length ≤ text.length := by
  induction spells with
  | done => exact Nat.le_refl 0
  | char first later inductionHypothesis =>
      have some := first.length_pos
      rw [List.length_append, List.length_cons]
      omega

/-- Characters that need no escape stand for themselves. -/
theorem spellsText_plain {text : List Char}
    (plain : (text.all fun c => c != '"' && c != '\\' && decide (32 ≤ c.toNat)) = true) :
    SpellsText text text := by
  induction text with
  | nil => exact .done
  | cons c text inductionHypothesis =>
      simp only [List.all_cons, Bool.and_eq_true, bne_iff_ne, decide_eq_true_eq] at plain
      obtain ⟨⟨⟨quote, backslash⟩, printable⟩, others⟩ := plain
      exact .char (.plain quote backslash printable) (inductionHypothesis others)

private theorem SpellsText.textLoop (spells : SpellsText characters text) {fuel : Nat}
    (enough : characters.length < fuel) (read rest : List Char) (offset : Nat) :
    ∃ after, Cursor.textLoop fuel read ⟨text ++ '"' :: rest, offset⟩ =
      .ok (String.ofList (read.reverse ++ characters), ⟨rest, after⟩) := by
  induction spells generalizing fuel read offset with
  | done =>
      obtain ⟨fuel, rfl⟩ := Nat.exists_eq_succ_of_ne_zero (Nat.ne_of_gt enough)
      exact ⟨offset + 1, by simp [Cursor.textLoop, Cursor.past]⟩
  | @char c characters piece text first later inductionHypothesis =>
      obtain ⟨fuel, rfl⟩ := Nat.exists_eq_succ_of_ne_zero (Nat.ne_of_gt (Nat.zero_lt_of_lt enough))
      obtain ⟨next, one⟩ := textLoop_char first fuel read (text ++ '"' :: rest) offset
      obtain ⟨after, others⟩ := inductionHypothesis (Nat.lt_of_succ_lt_succ enough) (c :: read) next
      refine ⟨after, ?_⟩
      rw [List.append_assoc, Nat.succ_eq_add_one, one, others, List.reverse_cons, List.append_assoc]
      rfl

private theorem SpellsText.passTextLoop (spells : SpellsText characters text) {fuel : Nat}
    (enough : text.length < fuel) (rest : List Char) (offset : Nat) :
    ∃ after, Cursor.passTextLoop fuel ⟨text ++ '"' :: rest, offset⟩ = .ok ⟨rest, after⟩ := by
  induction spells generalizing fuel offset with
  | done =>
      obtain ⟨fuel, rfl⟩ := Nat.exists_eq_succ_of_ne_zero (Nat.ne_of_gt enough)
      exact ⟨offset + 1, by simp [Cursor.passTextLoop, Cursor.past]⟩
  | @char c characters piece text first later inductionHypothesis =>
      obtain ⟨spent, next, few, one⟩ := passTextLoop_char first (text ++ '"' :: rest) offset
      rw [List.length_append] at enough
      obtain ⟨left, rfl⟩ : ∃ left, fuel = left + spent := ⟨fuel - spent, by omega⟩
      obtain ⟨after, others⟩ := inductionHypothesis (by omega : text.length < left) next
      exact ⟨after, by rw [List.append_assoc, one, others]⟩

/-- A spelled string is read from behind its opening quote. -/
theorem SpellsText.read (spells : SpellsText characters text) (rest : List Char) (offset : Nat) :
    ∃ after, Cursor.text ⟨text ++ '"' :: rest, offset⟩ =
      .ok (String.ofList characters, ⟨rest, after⟩) := by
  have few := spells.length_le
  exact spells.textLoop (by simp; omega) [] rest offset

private theorem SpellsText.passed (spells : SpellsText characters text) (rest : List Char)
    (offset : Nat) :
    ∃ after, Cursor.passText ⟨text ++ '"' :: rest, offset⟩ = .ok ⟨rest, after⟩ :=
  spells.passTextLoop (by simp) rest offset

end Text

/-! ## Numbers -/

inductive SpellsDigits : List Nat → List Char → Prop
  | digits {first : Char} {text : List Char} (all : ∀ c ∈ first :: text, isDigit c = true) :
      SpellsDigits ((first :: text).map digitValue) (first :: text)

inductive SpellsFraction : Option (List Nat) → List Char → Prop
  | none : SpellsFraction none []
  | some {digits : List Nat} {text : List Char} (spells : SpellsDigits digits text) :
      SpellsFraction (some digits) ('.' :: text)

/-- That a text is the sign of an exponent, which may be left out if it is not negative. -/
inductive SpellsSign : Bool → List Char → Prop
  | none : SpellsSign false []
  | plus : SpellsSign false ['+']
  | minus : SpellsSign true ['-']

inductive SpellsExponent : Option (Bool × List Nat) → List Char → Prop
  | none : SpellsExponent none []
  | some {mark : Char} {negative : Bool} {digits : List Nat} {sign text : List Char}
      (marked : mark = 'e' ∨ mark = 'E') (signed : SpellsSign negative sign)
      (spells : SpellsDigits digits text) :
      SpellsExponent (some (negative, digits)) (mark :: (sign ++ text))

/-- That a text is the spelling of a number; a zero has no digit of the whole part behind it. -/
inductive SpellsNumeral : Numeral → List Char → Prop
  | parts {negative : Bool} {whole : List Nat} {fraction : Option (List Nat)}
      {exponent : Option (Bool × List Nat)} {digits point power : List Char}
      (before : SpellsDigits whole digits) (leading : digits.head? = some '0' → digits = ['0'])
      (behind : SpellsFraction fraction point) (scaled : SpellsExponent exponent power) :
      SpellsNumeral ⟨negative, whole, fraction, exponent⟩
        ((if negative then ['-'] else []) ++ (digits ++ (point ++ power)))

/-- That a text is a number in the range of doubles. -/
inductive SpellsNumber : Number → List Char → Prop
  | numeral {numeral : Numeral} {number : Number} {text : List Char}
      (spells : SpellsNumeral numeral text) (value : numeral.value = .ok number) :
      SpellsNumber number text

section Numbers

def EndsDigits (rest : List Char) : Prop :=
  ∀ next ∈ rest.head?, isDigit next = false

variable {digits : List Nat} {text rest : List Char}

private theorem EndsNumber.endsDigits (ends : EndsNumber rest) : EndsDigits rest :=
  fun next head => (ends next head).1

private theorem SpellsDigits.read (spells : SpellsDigits digits text) (ends : EndsDigits rest)
    (offset : Nat) :
    Cursor.digits ⟨text ++ rest, offset⟩ = (digits, ⟨rest, offset + text.length⟩) := by
  cases spells with
  | @digits first text all =>
      have none : rest.takeWhile isDigit = [] := by
        cases rest with
        | nil => rfl
        | cons next rest => simp [ends next rfl]
      have same : rest.dropWhile isDigit = rest := by
        cases rest with
        | nil => rfl
        | cons next rest => simp [ends next rfl]
      rw [Cursor.digits, List.takeWhile_append_of_pos all, List.dropWhile_append_of_pos all, none,
        same, List.append_nil]
      rfl

private theorem SpellsDigits.wholeDigits (atEnd : Cause) (spells : SpellsDigits digits text)
    (leading : text.head? = some '0' → text = ['0']) (ends : EndsDigits rest) (offset : Nat) :
    ∃ after, Cursor.wholeDigits atEnd ⟨text ++ rest, offset⟩ = .ok (digits, ⟨rest, after⟩) := by
  have read := spells.read ends offset
  cases spells with
  | @digits first text all =>
      by_cases zero : first = '0'
      · subst zero
        obtain rfl := List.cons.inj (leading rfl) |>.2
        refine ⟨offset + 1, ?_⟩
        cases rest with
        | nil => rfl
        | cons next rest =>
            have other : isDigit next = false := ends next rfl
            simp [Cursor.wholeDigits, other, Cursor.past, digitValue]
      · have digit := all first List.mem_cons_self
        refine ⟨offset + (first :: text).length, ?_⟩
        rw [List.cons_append] at read ⊢
        simp only [Cursor.wholeDigits, digit, if_true, read]

variable {fraction : Option (List Nat)} {exponent : Option (Bool × List Nat)}

private theorem SpellsFraction.read (atEnd : Cause) (spells : SpellsFraction fraction text)
    (ends : EndsDigits rest) (point : ∀ next ∈ rest.head?, next ≠ '.') (offset : Nat) :
    ∃ after, Cursor.fractionDigits atEnd ⟨text ++ rest, offset⟩ =
      .ok (fraction, ⟨rest, after⟩) := by
  cases spells with
  | none =>
      cases rest with
      | nil => exact ⟨offset, rfl⟩
      | cons next rest =>
          have other := point next rfl
          exact ⟨offset, by simp [Cursor.fractionDigits, other]⟩
  | some spells =>
      have read := spells.read ends (offset + 1)
      cases spells with
      | @digits first text all =>
          refine ⟨offset + 1 + (first :: text).length, ?_⟩
          simp only [List.cons_append, Cursor.fractionDigits, Cursor.past] at read ⊢
          rw [read]
          rfl

private theorem SpellsSign.read {negative : Bool} {sign : List Char}
    (signed : SpellsSign negative sign)
    (spells : SpellsDigits digits text) (rest : List Char) (offset : Nat) :
    ∃ after, Cursor.exponentSign ⟨sign ++ (text ++ rest), offset⟩ =
      (negative, ⟨text ++ rest, after⟩) := by
  cases signed with
  | plus => exact ⟨offset + 1, rfl⟩
  | minus => exact ⟨offset + 1, rfl⟩
  | none =>
      cases spells with
      | @digits first text all =>
          have digit := all first List.mem_cons_self
          have plus : first ≠ '+' := by
            rintro rfl
            cases digit
          have minus : first ≠ '-' := by
            rintro rfl
            cases digit
          exact ⟨offset, by simp [Cursor.exponentSign, plus, minus]⟩

private theorem SpellsExponent.read (atEnd : Cause) (spells : SpellsExponent exponent text)
    (ends : EndsNumber rest) (offset : Nat) :
    ∃ after, Cursor.exponentDigits atEnd ⟨text ++ rest, offset⟩ =
      .ok (exponent, ⟨rest, after⟩) := by
  cases spells with
  | none =>
      cases rest with
      | nil => exact ⟨offset, rfl⟩
      | cons next rest =>
          have other := (ends next rfl).2.2
          exact ⟨offset, by simp [Cursor.exponentDigits, other]⟩
  | @some mark negative digits sign text marked signed spells =>
      obtain ⟨between, sign⟩ := signed.read spells rest (offset + 1)
      have read := spells.read ends.endsDigits between
      refine ⟨between + text.length, ?_⟩
      simp only [List.cons_append, List.append_assoc, Cursor.exponentDigits, if_pos marked,
        Cursor.past, sign, read]
      cases spells with
      | digits all => rfl

/-- What follows the whole part and the fraction of a number is not taken for one of them. -/
theorem SpellsExponent.ends (spells : SpellsExponent exponent text) (ends : EndsNumber rest) :
    ∀ next ∈ (text ++ rest).head?, isDigit next = false ∧ next ≠ '.' := by
  cases spells with
  | none => exact fun next head => ⟨(ends next head).1, (ends next head).2.1⟩
  | some marked signed spells =>
      intro next head
      obtain rfl := Option.some.inj head
      rcases marked with rfl | rfl <;> decide

private theorem SpellsNumeral.read {numeral : Numeral} (atEnd : Cause)
    (spells : SpellsNumeral numeral text) (ends : EndsNumber rest) (offset : Nat) :
    ∃ after, Cursor.numeral atEnd ⟨text ++ rest, offset⟩ = .ok (numeral, ⟨rest, after⟩) := by
  cases spells with
  | @parts negative whole fraction exponent digits point power before leading behind scaled =>
      have endsPower := scaled.ends ends
      have endsDigits : EndsDigits (point ++ (power ++ rest)) := by
        cases behind with
        | none => exact fun next head => (endsPower next head).1
        | some spells =>
            intro next head
            obtain rfl := Option.some.inj head
            rfl
      have parts (offset : Nat) : ∃ one two after,
          Cursor.wholeDigits atEnd ⟨digits ++ (point ++ (power ++ rest)), offset⟩ =
              .ok (whole, one) ∧ one.fractionDigits atEnd = .ok (fraction, two) ∧
            two.exponentDigits atEnd = .ok (exponent, ⟨rest, after⟩) := by
        obtain ⟨first, one⟩ := before.wholeDigits atEnd leading endsDigits offset
        obtain ⟨second, two⟩ := behind.read atEnd (fun next head => (endsPower next head).1)
          (fun next head => (endsPower next head).2) first
        obtain ⟨third, three⟩ := scaled.read atEnd ends second
        exact ⟨_, _, third, one, two, three⟩
      cases negative with
      | true =>
          obtain ⟨one, two, after, whole, fraction, exponent⟩ := parts (offset + 1)
          refine ⟨after, ?_⟩
          rw [if_pos rfl, List.append_assoc, List.append_assoc, List.append_assoc]
          simp [Cursor.numeral, Cursor.step, Cursor.past, bind, Except.bind, whole, fraction,
            exponent]
      | false =>
          obtain ⟨one, two, after, whole, fraction, exponent⟩ := parts offset
          refine ⟨after, ?_⟩
          rw [if_neg Bool.false_ne_true, List.nil_append, List.append_assoc, List.append_assoc]
          have minus : (digits ++ (point ++ (power ++ rest))).head? ≠ some '-' := by
            cases before with
            | digits all =>
                intro minus
                obtain rfl := Option.some.inj minus
                cases all '-' List.mem_cons_self
          simp only [Cursor.numeral, minus, if_false, decide_false, bind, Except.bind, whole,
            fraction, exponent]

private theorem SpellsNumeral.starts {numeral : Numeral} (spells : SpellsNumeral numeral text) :
    ∃ next tail, text = next :: tail ∧ (next = '-' ∨ isDigit next = true) := by
  cases spells with
  | @parts negative whole fraction exponent digits point power before leading behind scaled =>
      cases negative with
      | true => exact ⟨'-', _, rfl, Or.inl rfl⟩
      | false =>
          cases before with
          | digits all => exact ⟨_, _, rfl, Or.inr (all _ List.mem_cons_self)⟩

private theorem SpellsNumber.passed {number : Number} (spells : SpellsNumber number text)
    (ends : EndsNumber rest) (offset : Nat) :
    ∃ after, Cursor.passNumber ⟨text ++ rest, offset⟩ = .ok ⟨rest, after⟩ := by
  cases spells with
  | numeral spells value =>
      obtain ⟨after, read⟩ := spells.read .invalidNumber ends offset
      exact ⟨after, by rw [Cursor.passNumber, read]; rfl⟩

/-- A number that is spelled is read if it is accepted. -/
theorem SpellsNumber.gives {number : Number} {α : Type} {wanted : String}
    {accept : Number → Except Cause α} {value : α} (spells : SpellsNumber number text)
    (accepted : accept number = .ok value) :
    Gives (readNumber wanted accept) text (some value) := by
  cases spells with
  | @numeral numeral number text spells meaning =>
      apply gives_of_skipBlank (readNumber_skipBlank wanted accept)
      intro rest offset ends
      obtain ⟨after, read⟩ := spells.read .endInValue ends offset
      obtain ⟨next, tail, rfl, starts⟩ := spells.starts
      have number : Cursor.number ⟨next :: tail ++ rest, offset⟩ = .ok (number, ⟨rest, after⟩) := by
        rw [Cursor.number, read]
        simp only [bind, Except.bind, meaning]
      exact ⟨after, readNumber_of_number starts number accepted⟩

end Numbers

/-! ## Values -/

def Blanks (text : List Char) : Prop :=
  text.all Cursor.isBlank = true

/-- That a text may stand before an item: blanks, and between two items a comma among them. -/
inductive Gap : Bool → List Char → Prop
  | first {blanks : List Char} (blank : Blanks blanks) : Gap true blanks
  | comma {before after : List Char} (blankBefore : Blanks before) (blankAfter : Blanks after) :
      Gap false (before ++ ',' :: after)

mutual

/-- That a text stands for a value. -/
inductive Spells : Value → List Char → Prop
  | null : Spells .null "null".toList
  | yes : Spells (.boolean true) "true".toList
  | no : Spells (.boolean false) "false".toList
  | number {number : Number} {text : List Char} (spells : SpellsNumber number text) :
      Spells (.number number) text
  | text {characters : String} {text : List Char} (spells : SpellsText characters.toList text) :
      Spells (.text characters) ('"' :: (text ++ ['"']))
  | array {items : List Value} {text : List Char} (spells : SpellsItems true items text) :
      Spells (.array items) ('[' :: (text ++ [']']))
  | object {members : List (String × Value)} {text : List Char}
      (spells : SpellsMembers true members text) :
      Spells (.object members) ('{' :: (text ++ ['}']))

inductive SpellsItems : Bool → List Value → List Char → Prop
  | done {first : Bool} {blanks : List Char} (blank : Blanks blanks) : SpellsItems first [] blanks
  | item {first : Bool} {item : Value} {items : List Value} {gap text others : List Char}
      (apart : Gap first gap) (spells : Spells item text)
      (later : SpellsItems false items others) :
      SpellsItems first (item :: items) (gap ++ (text ++ others))

inductive SpellsMembers : Bool → List (String × Value) → List Char → Prop
  | done {first : Bool} {blanks : List Char} (blank : Blanks blanks) :
      SpellsMembers first [] blanks
  | member {first : Bool} {key : String} {value : Value} {members : List (String × Value)}
      {gap name before after text others : List Char} (apart : Gap first gap)
      (named : SpellsText key.toList name) (blankBefore : Blanks before)
      (blankAfter : Blanks after) (spells : Spells value text)
      (later : SpellsMembers false members others) :
      SpellsMembers first ((key, value) :: members)
        (gap ++ '"' :: (name ++ '"' :: (before ++ ':' :: (after ++ (text ++ others)))))

end

section Values

variable {value : Value} {items : List Value} {members : List (String × Value)}
  {text rest gap : List Char} {first : Bool}

/-- A value does not begin with a blank or with the end of an array. -/
theorem Spells.starts (spells : Spells value text) :
    ∃ next tail, text = next :: tail ∧ Cursor.isBlank next = false ∧ next ≠ ']' := by
  cases spells with
  | number spells =>
      cases spells with
      | numeral spells =>
          obtain ⟨next, tail, same, starts⟩ := spells.starts
          refine ⟨next, tail, same, isBlank_of_numeral starts, ?_⟩
          rintro rfl
          rcases starts with starts | starts <;> cases starts
  | _ => exact ⟨_, _, rfl, by decide, by decide⟩

theorem endsNumber_cons {next : Char}
    (other : isDigit next = false ∧ next ≠ '.' ∧ next ≠ 'e' ∧ next ≠ 'E') (rest : List Char) :
    EndsNumber (next :: rest) := by
  intro found head
  obtain rfl := Option.some.inj head
  exact other

theorem Blanks.endsNumber (blank : Blanks text) (ends : EndsNumber rest) :
    EndsNumber (text ++ rest) := by
  cases text with
  | nil => exact ends
  | cons next text =>
      have isBlank := (Bool.and_eq_true_iff.mp blank).1
      simp only [Cursor.isBlank, Bool.or_eq_true, decide_eq_true_eq] at isBlank
      apply endsNumber_cons
      rcases isBlank with ((rfl | rfl) | rfl) | rfl <;> decide

private theorem Gap.endsNumber (apart : Gap false gap) (rest : List Char) :
    EndsNumber (gap ++ rest) := by
  cases apart with
  | comma blankBefore blankAfter =>
      rw [List.append_assoc]
      exact blankBefore.endsNumber (endsNumber_cons (by decide) _)

private theorem SpellsItems.endsNumber (spells : SpellsItems false items text) (rest : List Char) :
    EndsNumber (text ++ ']' :: rest) := by
  cases spells with
  | done blank => exact blank.endsNumber (endsNumber_cons (by decide) rest)
  | item apart spells later =>
      rw [List.append_assoc]
      exact apart.endsNumber _

theorem SpellsMembers.endsNumber (spells : SpellsMembers false members text) (rest : List Char) :
    EndsNumber (text ++ '}' :: rest) := by
  cases spells with
  | done blank => exact blank.endsNumber (endsNumber_cons (by decide) rest)
  | member apart named blankBefore blankAfter spells later =>
      rw [List.append_assoc]
      exact apart.endsNumber _

theorem colon_spelled (blank : Blanks text) (rest : List Char) (offset : Nat) :
    ∃ after, Cursor.colon ⟨text ++ ':' :: rest, offset⟩ = .ok ⟨rest, after⟩ := by
  refine ⟨offset + text.length + 1, ?_⟩
  rw [Cursor.colon, skipBlank_solid blank rfl]
  rfl

end Values

/-! ## Passing over a value -/

/-- That so much fuel is enough to pass over the texts that are not longer. -/
structure Passes (fuel : Nat) : Prop where
  value {value : Value} {text : List Char} (spells : Spells value text)
    (enough : text.length ≤ fuel) {blanks rest : List Char} (blank : Blanks blanks)
    (ends : EndsNumber rest) (offset : Nat) :
    ∃ after, skipValue fuel ⟨blanks ++ (text ++ rest), offset⟩ = .ok ⟨rest, after⟩
  items {first : Bool} {items : List Value} {text : List Char}
    (spells : SpellsItems first items text) (enough : text.length < fuel) (rest : List Char)
    (offset : Nat) :
    ∃ after, skipItems fuel first ⟨text ++ ']' :: rest, offset⟩ = .ok ⟨rest, after⟩
  members {first : Bool} {members : List (String × Value)} {text : List Char}
    (spells : SpellsMembers first members text) (enough : text.length < fuel) (rest : List Char)
    (offset : Nat) :
    ∃ after, skipMembers fuel first ⟨text ++ '}' :: rest, offset⟩ = .ok ⟨rest, after⟩

section Passing

variable {fuel : Nat} {value : Value} {items : List Value} {members : List (String × Value)}
  {text blanks rest : List Char} {first : Bool}

private theorem skipValue_number {next : Char} {tail : List Char}
    (starts : next = '-' ∨ isDigit next = true) (fuel offset : Nat) :
    skipValue (fuel + 1) ⟨next :: tail, offset⟩ = Cursor.passNumber ⟨next :: tail, offset⟩ := by
  have other : ∀ c ∈ ['n', 't', 'f', '"', '[', '{'], next ≠ c := by
    rintro c member rfl
    simp only [List.mem_cons, List.not_mem_nil, or_false] at member
    rcases starts with rfl | digit
    · revert member
      decide
    · rcases member with rfl | rfl | rfl | rfl | rfl | rfl <;> cases digit
  simp only [List.forall_mem_cons] at other
  obtain ⟨null, yes, no, quote, bracket, brace, -⟩ := other
  rw [skipValue, skipBlank_cons (isBlank_of_numeral starts)]
  simp [starts]

private theorem skipValue_blanks (blank : Blanks blanks) (fuel : Nat) (rest : List Char)
    (offset : Nat) :
    skipValue (fuel + 1) ⟨blanks ++ rest, offset⟩ =
      skipValue (fuel + 1) ⟨rest, offset + blanks.length⟩ := by
  rw [skipValue, skipValue, skipBlank_append blank]

private theorem Passes.value_succ (passes : Passes fuel) (spells : Spells value text)
    (enough : text.length ≤ fuel + 1) (blank : Blanks blanks) (ends : EndsNumber rest)
    (offset : Nat) :
    ∃ after, skipValue (fuel + 1) ⟨blanks ++ (text ++ rest), offset⟩ = .ok ⟨rest, after⟩ := by
  rw [skipValue_blanks blank]
  generalize offset + blanks.length = offset
  cases spells with
  | null => exact ⟨_, word_append "null".toList rest offset⟩
  | yes => exact ⟨_, word_append "true".toList rest offset⟩
  | no => exact ⟨_, word_append "false".toList rest offset⟩
  | number spells =>
      have passed := spells.passed ends offset
      cases spells with
      | numeral spells =>
          obtain ⟨next, tail, rfl, starts⟩ := spells.starts
          rwa [List.cons_append, skipValue_number starts]
  | text spells =>
      obtain ⟨after, passed⟩ := spells.passed rest (offset + 1)
      refine ⟨after, ?_⟩
      rw [List.cons_append, List.append_assoc, skipValue, skipBlank_cons rfl]
      exact passed
  | @array items text spells =>
      have few : text.length < fuel := by simp at enough; omega
      obtain ⟨after, passed⟩ := passes.items spells few rest (offset + 1)
      refine ⟨after, ?_⟩
      rw [List.cons_append, List.append_assoc, skipValue, skipBlank_cons rfl]
      exact passed
  | @object members text spells =>
      have few : text.length < fuel := by simp at enough; omega
      obtain ⟨after, passed⟩ := passes.members spells few rest (offset + 1)
      refine ⟨after, ?_⟩
      rw [List.cons_append, List.append_assoc, skipValue, skipBlank_cons rfl]
      exact passed

private theorem Passes.items_succ (passes : Passes fuel) (spells : SpellsItems first items text)
    (enough : text.length < fuel + 1) (rest : List Char) (offset : Nat) :
    ∃ after, skipItems (fuel + 1) first ⟨text ++ ']' :: rest, offset⟩ = .ok ⟨rest, after⟩ := by
  cases spells with
  | done blank =>
      refine ⟨offset + text.length + 1, ?_⟩
      rw [skipItems, skipBlank_solid blank rfl]
      rfl
  | @item _ item items gap text others apart spells later =>
      have ends := later.endsNumber rest
      obtain ⟨next, tail, begins, solid, bracket⟩ := spells.starts
      have some : 0 < text.length := by simp [begins]
      rw [List.length_append, List.length_append] at enough
      rw [List.append_assoc, List.append_assoc]
      cases apart with
      | first blank =>
          obtain ⟨between, passed⟩ := passes.value spells (by omega) (rfl : Blanks []) ends
            (offset + gap.length)
          obtain ⟨after, others⟩ := passes.items later (by omega) rest between
          refine ⟨after, ?_⟩
          subst begins
          rw [List.cons_append, skipItems, skipBlank_solid blank solid]
          simp only [List.nil_append, List.cons_append] at passed
          simp [passed, Except.bind, others]
      | @comma before blanks blankBefore blank =>
          rw [List.length_append, List.length_cons] at enough
          obtain ⟨between, passed⟩ := passes.value spells (by omega) blank ends
            (offset + before.length + 1)
          obtain ⟨after, others⟩ := passes.items later (by omega) rest between
          refine ⟨after, ?_⟩
          rw [List.append_assoc, List.cons_append, skipItems, skipBlank_solid blankBefore rfl]
          simp [Cursor.past, passed, Except.bind, others]

private theorem Passes.members_succ (passes : Passes fuel)
    (spells : SpellsMembers first members text)
    (enough : text.length < fuel + 1) (rest : List Char) (offset : Nat) :
    ∃ after, skipMembers (fuel + 1) first ⟨text ++ '}' :: rest, offset⟩ = .ok ⟨rest, after⟩ := by
  cases spells with
  | done blank =>
      refine ⟨offset + text.length + 1, ?_⟩
      rw [skipMembers, skipBlank_solid blank rfl]
      rfl
  | @member _ key value members gap name before blanks text others apart named blankBefore blank
      spells later =>
      have ends := later.endsNumber rest
      simp only [List.length_append, List.length_cons] at enough
      have member (offset : Nat) : ∃ after,
          ((Cursor.passText ⟨name ++ '"' :: (before ++ ':' :: (blanks ++ (text ++ (others ++
            '}' :: rest)))), offset⟩).bind Cursor.colon).bind
              (fun c => (skipValue fuel c).bind (skipMembers fuel false)) = .ok ⟨rest, after⟩ := by
        obtain ⟨one, passed⟩ := named.passed
          (before ++ ':' :: (blanks ++ (text ++ (others ++ '}' :: rest)))) offset
        obtain ⟨two, colon⟩ := colon_spelled blankBefore
          (blanks ++ (text ++ (others ++ '}' :: rest))) one
        obtain ⟨three, value⟩ := passes.value spells (by omega) blank ends two
        obtain ⟨after, others⟩ := passes.members later (by omega) rest three
        exact ⟨after, by simp only [passed, Except.bind, colon, value, others]⟩
      simp only [List.append_assoc, List.cons_append]
      cases apart with
      | first blank =>
          obtain ⟨after, passed⟩ := member (offset + gap.length + 1)
          refine ⟨after, ?_⟩
          rw [skipMembers, skipBlank_solid blank rfl]
          exact passed
      | @comma before blanks blankBefore blank =>
          obtain ⟨after, passed⟩ := member (offset + before.length + 1 + blanks.length + 1)
          refine ⟨after, ?_⟩
          have quote : Cursor.isBlank '"' = false := rfl
          rw [List.append_assoc, List.cons_append, skipMembers, skipBlank_solid blankBefore rfl]
          simpa [Cursor.past, skipBlank_solid blank quote] using passed

private theorem passes (fuel : Nat) : Passes fuel := by
  induction fuel with
  | zero =>
      refine ⟨?value, ?items, ?members⟩
      case value =>
        intro value text spells enough
        obtain ⟨next, tail, rfl, -⟩ := spells.starts
        cases enough
      case items =>
        intro first items text spells enough
        cases enough
      case members =>
        intro first members text spells enough
        cases enough
  | succ fuel inductionHypothesis =>
      refine ⟨?value, inductionHypothesis.items_succ, inductionHypothesis.members_succ⟩
      intro value text spells enough blanks rest blank ends offset
      exact inductionHypothesis.value_succ spells enough blank ends offset

/-- A spelled value is passed over, whatever it is. -/
theorem Spells.skip (spells : Spells value text) (blank : Blanks blanks) (ends : EndsNumber rest)
    (offset : Nat) :
    ∃ after, Cursor.skip ⟨blanks ++ (text ++ rest), offset⟩ = .ok ⟨rest, after⟩ := by
  apply (passes _).value spells _ blank ends
  simp only [List.length_append]
  omega

end Passing

end TagFix.Json
