import TagFix.Proofs.Json.Reading

/-!
# Numbers are read from their text alone

A number that was read to the end of a text is read from the text in any place. Integers are read
from their digits.
-/

namespace TagFix.Json

/-! ## Scanners -/

/-- That what is read does not depend on what stands behind, unless that goes on with a number. -/
def Local {α : Type} (scan : Cursor → Except Fault (α × Cursor)) : Prop :=
  ∀ ⦃text tail offset after value⦄, scan ⟨text, offset⟩ = .ok (value, ⟨tail, after⟩) →
    ∀ rest place, EndsNumber rest →
      ∃ later, scan ⟨text ++ rest, place⟩ = .ok (value, ⟨tail ++ rest, later⟩)

private theorem Local.bind {α β : Type} {first : Cursor → Except Fault (α × Cursor)}
    {next : α → Cursor → Except Fault (β × Cursor)} (one : Local first)
    (two : ∀ value, Local (next value)) :
    Local fun c => (first c).bind fun (value, c) => next value c := by
  intro text tail offset after value read rest place ends
  dsimp only at read ⊢
  cases begun : first ⟨text, offset⟩ with
  | error fault =>
      rw [begun] at read
      cases read
  | ok found =>
      obtain ⟨middle, ⟨between, behind⟩⟩ := found
      rw [begun] at read
      obtain ⟨there, begunThere⟩ := one begun rest place ends
      obtain ⟨later, readThere⟩ := two middle read rest there ends
      refine ⟨later, ?_⟩
      rw [begunThere]
      exact readThere

private theorem takeWhile_isDigit {rest : List Char} (ends : EndsNumber rest) :
    rest.takeWhile isDigit = [] := by
  cases rest with
  | nil => rfl
  | cons next rest => simp [(ends next rfl).1]

private theorem dropWhile_isDigit {rest : List Char} (ends : EndsNumber rest) :
    rest.dropWhile isDigit = rest := by
  cases rest with
  | nil => rfl
  | cons next rest => simp [(ends next rfl).1]

/-- Digits end where they ended without what stands behind. -/
theorem digits_append {rest : List Char} (ends : EndsNumber rest) (text : List Char)
    (offset place : Nat) :
    ∃ later, Cursor.digits ⟨text ++ rest, place⟩ =
      ((Cursor.digits ⟨text, offset⟩).1,
        ⟨(Cursor.digits ⟨text, offset⟩).2.rest ++ rest, later⟩) := by
  have run : (text ++ rest).takeWhile isDigit = text.takeWhile isDigit := by
    rw [List.takeWhile_append, takeWhile_isDigit ends, List.append_nil]
    split
    · next whole =>
      exact ((List.takeWhile_prefix isDigit).eq_of_length whole).symm
    · rfl
  have left : (text ++ rest).dropWhile isDigit = text.dropWhile isDigit ++ rest := by
    rw [List.dropWhile_append, dropWhile_isDigit ends]
    split
    · next none =>
      rw [List.isEmpty_iff.mp none, List.nil_append]
    · rfl
  refine ⟨place + (text.takeWhile isDigit).length, ?_⟩
  simp only [Cursor.digits, Cursor.past, run, left]

private theorem local_wholeDigits (atEnd : Cause) : Local (Cursor.wholeDigits atEnd) := by
  intro text tail offset after value read rest place ends
  cases text with
  | nil => cases read
  | cons first text =>
      by_cases zero : first = '0'
      · subst zero
        cases text with
        | nil =>
            cases read
            cases rest with
            | nil => exact ⟨_, rfl⟩
            | cons next rest =>
                have other := (ends next rfl).1
                exact ⟨place + 1, by simp [Cursor.wholeDigits, other, Cursor.past]⟩
        | cons next text =>
            cases other : isDigit next with
            | true => simp [Cursor.wholeDigits, other] at read
            | false =>
                simp only [Cursor.wholeDigits, other] at read
                cases read
                exact ⟨place + 1, by simp [Cursor.wholeDigits, other, Cursor.past]⟩
      · cases digit : isDigit first with
        | false => simp [Cursor.wholeDigits, digit] at read
        | true =>
            obtain ⟨later, same⟩ := digits_append ends (first :: text) offset place
            simp only [Cursor.wholeDigits, digit, if_true, Except.ok.injEq] at read
            refine ⟨later, ?_⟩
            simp only [List.cons_append] at same ⊢
            simp only [Cursor.wholeDigits, digit, if_true, same, read]

private theorem local_fractionDigits (atEnd : Cause) : Local (Cursor.fractionDigits atEnd) := by
  intro text tail offset after value read rest place ends
  cases text with
  | nil =>
      cases read
      cases rest with
      | nil => exact ⟨_, rfl⟩
      | cons next rest =>
          have other := (ends next rfl).2.1
          exact ⟨place, by simp [Cursor.fractionDigits, other]⟩
  | cons first text =>
      by_cases point : first = '.'
      · subst point
        obtain ⟨later, same⟩ := digits_append ends text (offset + 1) (place + 1)
        simp only [Cursor.fractionDigits, Cursor.past, List.cons_append] at read ⊢
        rw [same]
        rcases found : Cursor.digits ⟨text, offset + 1⟩ with ⟨digits, left⟩
        rw [found] at read
        cases digits with
        | nil => cases read
        | cons digit digits =>
            cases read
            exact ⟨later, rfl⟩
      · simp [Cursor.fractionDigits, point] at read
        obtain ⟨rfl, rfl, rfl⟩ := read
        exact ⟨place, by simp [Cursor.fractionDigits, point]⟩

theorem exponentSign_append (first : Char) (text rest : List Char) (offset place : Nat) :
    ∃ later, Cursor.exponentSign ⟨first :: text ++ rest, place⟩ =
      ((Cursor.exponentSign ⟨first :: text, offset⟩).1,
        ⟨(Cursor.exponentSign ⟨first :: text, offset⟩).2.rest ++ rest, later⟩) := by
  by_cases plus : first = '+'
  · subst plus
    exact ⟨_, rfl⟩
  · by_cases minus : first = '-'
    · subst minus
      exact ⟨_, rfl⟩
    · exact ⟨place, by simp [Cursor.exponentSign, plus, minus]⟩

private theorem local_exponentDigits (atEnd : Cause) : Local (Cursor.exponentDigits atEnd) := by
  intro text tail offset after value read rest place ends
  cases text with
  | nil =>
      cases read
      cases rest with
      | nil => exact ⟨_, rfl⟩
      | cons next rest =>
          have other := (ends next rfl).2.2
          exact ⟨place, by simp [Cursor.exponentDigits, other]⟩
  | cons mark text =>
      by_cases marked : mark = 'e' ∨ mark = 'E'
      · cases text with
        | nil =>
            simp only [Cursor.exponentDigits, if_pos marked] at read
            cases read
        | cons first text =>
            obtain ⟨between, signed⟩ :=
              exponentSign_append first text rest (offset + 1) (place + 1)
            simp only [Cursor.exponentDigits, if_pos marked, Cursor.past, List.cons_append]
              at read signed ⊢
            rcases sign : Cursor.exponentSign ⟨first :: text, offset + 1⟩ with ⟨negative, c⟩
            obtain ⟨left, there⟩ := c
            rw [sign] at read signed
            obtain ⟨later, same⟩ := digits_append ends left there between
            rw [signed]
            dsimp only at read signed ⊢
            rw [same]
            rcases found : Cursor.digits ⟨left, there⟩ with ⟨digits, behind⟩
            rw [found] at read
            cases digits with
            | nil => cases left <;> cases read
            | cons digit digits =>
                cases read
                exact ⟨later, rfl⟩
      · simp only [Cursor.exponentDigits, if_neg marked] at read
        cases read
        exact ⟨place, by simp only [Cursor.exponentDigits, List.cons_append, if_neg marked]⟩

private theorem local_ok {α : Type} (value : α) : Local fun c => .ok (value, c) := by
  intro text tail offset after found read rest place ends
  cases read
  exact ⟨place, rfl⟩

private theorem local_numeral (atEnd : Cause) : Local (Cursor.numeral atEnd) := by
  have parts (negative : Bool) := (local_wholeDigits atEnd).bind fun whole =>
    (local_fractionDigits atEnd).bind fun fraction =>
      (local_exponentDigits atEnd).bind fun exponent =>
        local_ok (⟨negative, whole, fraction, exponent⟩ : Numeral)
  intro text tail offset after value read rest place ends
  cases text with
  | nil => cases read
  | cons first text =>
      by_cases minus : first = '-'
      · subst minus
        exact @parts true text tail (offset + 1) after value read rest (place + 1) ends
      -- A text that is not empty keeps its first character, so the sign is the same with a rest.
      · simp only [Cursor.numeral, List.head?_cons, List.cons_append, Option.some.injEq, minus,
          if_false, decide_false] at read ⊢
        exact @parts false (first :: text) tail offset after value read rest place ends

private theorem local_number : Local Cursor.number := by
  intro text tail offset after value read rest place ends
  unfold Cursor.number at read ⊢
  rcases spelled : Cursor.numeral .endInValue ⟨text, offset⟩ with fault | ⟨numeral, left, behind⟩
  · rw [spelled] at read
    cases read
  · obtain ⟨later, there⟩ := local_numeral .endInValue spelled rest place ends
    rw [spelled] at read
    rw [there]
    dsimp only [bind, Except.bind] at read ⊢
    cases number : numeral.value with
    | ok value =>
        rw [number] at read
        cases read
        exact ⟨later, rfl⟩
    | error unread =>
        rw [number] at read
        cases read

/-! ## Numbers of a wanted type -/

/-- A value of another type is never read. -/
theorem mismatch_ne_ok {α : Type} (wanted : String) (c : Cursor) (found : α × Cursor) :
    mismatch wanted c ≠ .ok found := by
  have wrong : ∀ {β : Type} (made : Except Fault β) (fault : β → Fault),
      (made.bind fun value => (.error (fault value) : Except Fault (α × Cursor))) ≠ .ok found := by
    intro β made fault same
    cases made <;> cases same
  unfold mismatch
  split
  · exact wrong _ _
  · exact wrong _ _
  · exact wrong _ _
  · exact wrong _ _
  · nofun
  · nofun
  · split
    · intro same
      rcases made : c.number with fault | ⟨number, after⟩
      · rw [made] at same
        cases same
      · rw [made] at same
        cases number <;> cases same
    · nofun
  · nofun

private theorem isBlank_of_isDigit {c : Char} (digit : isDigit c = true) :
    Cursor.isBlank c = false := by
  cases blank : Cursor.isBlank c with
  | false => rfl
  | true =>
      simp only [Cursor.isBlank, Bool.or_eq_true, decide_eq_true_eq] at blank
      rcases blank with ((rfl | rfl) | rfl) | rfl <;> revert digit <;> decide

theorem isBlank_of_numeral {c : Char} (starts : c = '-' ∨ isDigit c = true) :
    Cursor.isBlank c = false := by
  rcases starts with rfl | digit
  · rfl
  · exact isBlank_of_isDigit digit

section Accepted

variable {α : Type} {wanted : String} {accept : Number → Except Cause α} {value : α}

/-- A number that is wanted is read with its spelling and no more. -/
theorem readNumber_of_number {next : Char} {text : List Char} {offset : Nat} {number : Number}
    {after : Cursor} (starts : next = '-' ∨ isDigit next = true)
    (made : Cursor.number ⟨next :: text, offset⟩ = .ok (number, after))
    (accepted : accept number = .ok value) :
    readNumber wanted accept ⟨next :: text, offset⟩ = .ok (value, after) := by
  rw [readNumber, skipBlank_cons (isBlank_of_numeral starts)]
  simp only [if_pos starts, made, Except.bind, accepted]

/-- What is accepted stands behind blanks, and is a number. -/
theorem exists_number {text : List Char} {offset : Nat} {after : Cursor}
    (read : readNumber wanted accept ⟨text, offset⟩ = .ok (value, after)) :
    ∃ blanks next tail place number, text = blanks ++ next :: tail ∧
      blanks.all Cursor.isBlank = true ∧ (next = '-' ∨ isDigit next = true) ∧
        Cursor.number ⟨next :: tail, place⟩ = .ok (number, after) ∧
          accept number = .ok value := by
  have whole := List.takeWhile_append_dropWhile (p := Cursor.isBlank) (l := text)
  have blank : (text.takeWhile Cursor.isBlank).all Cursor.isBlank = true := List.all_takeWhile
  simp only [readNumber, Cursor.skipBlank, Cursor.past] at read
  generalize offset + _ = place at read
  cases solid : text.dropWhile Cursor.isBlank with
  | nil =>
      rw [solid] at read
      cases read
  | cons next tail =>
      rw [solid] at read whole
      dsimp only at read
      split at read
      · next starts =>
        rcases made : Cursor.number ⟨next :: tail, place⟩ with fault | ⟨number, behind⟩
        · rw [made] at read
          cases read
        · rw [made] at read
          dsimp only [Except.bind] at read
          cases accepted : accept number with
          | error cause =>
              rw [accepted] at read
              cases read
          | ok value =>
              rw [accepted] at read
              cases read
              exact ⟨_, next, tail, place, number, whole.symm, blank, starts, made, accepted⟩
      · exact absurd read (mismatch_ne_ok _ _ _)

/-- What is read as a number to the end of a text is read so in any place. -/
theorem gives_of_readNumber {text : List Char} {after : Nat}
    (read : readNumber wanted accept (Cursor.start text) = .ok (value, ⟨[], after⟩)) :
    Gives (readNumber wanted accept) text (some value) := by
  obtain ⟨blanks, next, tail, place, number, rfl, blank, starts, made, accepted⟩ :=
    exists_number read
  apply gives_of_skipBlank (readNumber_skipBlank wanted accept)
  intro rest offset ends
  obtain ⟨later, there⟩ := local_number made rest (offset + blanks.length) ends
  refine ⟨later, ?_⟩
  rw [← readNumber_skipBlank, List.append_assoc, List.cons_append,
    skipBlank_solid blank (isBlank_of_numeral starts)]
  exact readNumber_of_number starts there accepted

end Accepted

/-! ## Integers -/

private theorem isDigit_of_mem_toDigits {n : Nat} {c : Char} (member : c ∈ Nat.toDigits 10 n) :
    isDigit c = true := by
  have digit := Nat.isDigit_of_mem_toDigits (by decide) (by decide) member
  simpa [Char.isDigit, isDigit, Char.le_def] using digit

/-- The digits of a positive number do not begin with a zero. -/
theorem exists_toDigits {n : Nat} (positive : 0 < n) :
    ∃ first rest, Nat.toDigits 10 n = first :: rest ∧ first ≠ '0' := by
  induction n using Nat.strongRecOn with
  | ind n inductionHypothesis =>
      by_cases small : n < 10
      · refine ⟨n.digitChar, [], Nat.toDigits_of_lt_base small, ?_⟩
        interval_cases n <;> decide
      · obtain ⟨first, rest, digits, leading⟩ :=
          inductionHypothesis (n / 10) (by omega) (by omega)
        refine ⟨first, rest ++ [(n % 10).digitChar], ?_, leading⟩
        rw [Nat.toDigits_of_base_le (by decide) (by omega), digits, List.cons_append]

private theorem digits_of_all {digits : List Char} (all : ∀ c ∈ digits, isDigit c = true)
    (offset : Nat) :
    Cursor.digits ⟨digits, offset⟩ = (digits.map digitValue, ⟨[], offset + digits.length⟩) := by
  have run : digits.takeWhile isDigit = digits := List.takeWhile_eq_self_iff.mpr all
  have left : digits.dropWhile isDigit = [] := List.dropWhile_eq_nil_iff.mpr all
  simp only [Cursor.digits, Cursor.past, run, left]

private theorem wholeDigits_toDigits (atEnd : Cause) (n offset : Nat) :
    ∃ after, Cursor.wholeDigits atEnd ⟨Nat.toDigits 10 n, offset⟩ =
      .ok ((Nat.toDigits 10 n).map digitValue, ⟨[], after⟩) := by
  have all : ∀ c ∈ Nat.toDigits 10 n, isDigit c = true := fun c => isDigit_of_mem_toDigits
  by_cases zero : n = 0
  · subst zero
    exact ⟨_, rfl⟩
  · obtain ⟨first, rest, digits, leading⟩ := exists_toDigits (Nat.pos_of_ne_zero zero)
    have found := digits_of_all all offset
    rw [digits] at all found ⊢
    have digit := all first List.mem_cons_self
    refine ⟨offset + (first :: rest).length, ?_⟩
    simp only [Cursor.wholeDigits, digit, if_true, found]

private theorem le_foldl_digits (digits : List Nat) (n : Nat) :
    n ≤ digits.foldl (fun n digit => 10 * n + digit) n := by
  induction digits generalizing n with
  | nil => exact Nat.le_refl n
  | cons digit digits inductionHypothesis =>
      have later := inductionHypothesis (10 * n + digit)
      rw [List.foldl_cons]
      omega

private theorem appendDigits_of_lt {bound : Nat} {digits : List Nat} {n : Nat}
    (small : digits.foldl (fun n digit => 10 * n + digit) n < bound) :
    appendDigits bound n digits = (digits.foldl (fun n digit => 10 * n + digit) n, []) := by
  induction digits generalizing n with
  | nil => rfl
  | cons digit digits inductionHypothesis =>
      have least := le_foldl_digits digits (10 * n + digit)
      rw [List.foldl_cons] at small ⊢
      rw [appendDigits, if_pos (by omega), inductionHypothesis small]

private theorem foldl_digitValue (n : Nat) :
    ((Nat.toDigits 10 n).map digitValue).foldl (fun n digit => 10 * n + digit) 0 = n := by
  have value := Nat.ofDigitChars_ten_toDigits (n := n)
  rw [Nat.ofDigitChars_eq_foldl] at value
  rw [List.foldl_map]
  exact value

private theorem value_of_digits {n : Nat} (small : n < UInt64.size) :
    Numeral.value ⟨false, (Nat.toDigits 10 n).map digitValue, none, none⟩ = .ok (.whole n) := by
  have appended : appendDigits UInt64.size 0 ((Nat.toDigits 10 n).map digitValue) = (n, []) := by
    rw [appendDigits_of_lt (by rwa [foldl_digitValue]), foldl_digitValue]
  simp [Numeral.value, appended]

private theorem head?_toDigits_ne_minus (n : Nat) : (Nat.toDigits 10 n).head? ≠ some '-' := by
  intro minus
  have digit := isDigit_of_mem_toDigits (List.mem_of_mem_head? minus)
  revert digit
  decide

private theorem number_toDigits {n : Nat} (small : n < UInt64.size) (offset : Nat) :
    ∃ after, Cursor.number ⟨Nat.toDigits 10 n, offset⟩ = .ok (.whole n, ⟨[], after⟩) := by
  obtain ⟨after, whole⟩ := wholeDigits_toDigits .endInValue n offset
  have unsigned := head?_toDigits_ne_minus n
  have spelled : Cursor.numeral .endInValue ⟨Nat.toDigits 10 n, offset⟩ =
      .ok (⟨false, (Nat.toDigits 10 n).map digitValue, none, none⟩, ⟨[], after⟩) := by
    simp only [Cursor.numeral, unsigned, if_false, decide_false, whole]
    rfl
  refine ⟨after, ?_⟩
  rw [Cursor.number, spelled]
  simp only [bind, Except.bind, value_of_digits small]

private theorem toList_print_whole (n : Nat) :
    (Number.print (.whole n)).toList = Nat.toDigits 10 n := by
  change (Nat.repr n).toList = _
  exact Nat.toList_repr

/-- A number that is accepted is read where its digits stand. -/
theorem gives_toDigits {α : Type} (wanted : String) {accept : Number → Except Cause α} {n : Nat}
    {value : α} (small : n < UInt64.size) (accepted : accept (.whole n) = .ok value) :
    Gives (readNumber wanted accept) (Nat.toDigits 10 n) (some value) := by
  obtain ⟨after, made⟩ := number_toDigits small 0
  have all : ∀ c ∈ Nat.toDigits 10 n, isDigit c = true := fun c => isDigit_of_mem_toDigits
  apply gives_of_readNumber
  rw [Cursor.start]
  cases digits : Nat.toDigits 10 n with
  | nil => cases Nat.toDigits_ne_nil digits
  | cons first rest =>
      rw [digits] at made all
      exact readNumber_of_number (Or.inr (all first List.mem_cons_self)) made accepted

/-- An integer is read where it is in range. -/
theorem gives_natural (wanted : String) {bound n : Nat} (inside : n < bound)
    (small : n < UInt64.size) :
    Gives (readNatural wanted bound) (Number.print (.whole n)).toList (some n) := by
  have accepted : (0 : Int) ≤ n ∧ (n : Int) < bound := by omega
  rw [toList_print_whole]
  change Gives (readNumber wanted _) _ _
  exact gives_toDigits wanted small (if_pos accepted)

end TagFix.Json
