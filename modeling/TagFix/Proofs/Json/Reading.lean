import TagFix.Json.Printer
import TagFix.Json.Record
import Mathlib

/-!
# Printed text is read back

What a reader makes of a text is told for the text wherever it stands: with blanks before it, and
with anything behind it that cannot be taken for a part of a number. From what is made of the values
follows what is made of an object, member by member.
-/

namespace TagFix.Json

/-! ## Readings -/

/-- That a text does not begin with what could be a part of a number before it. -/
def EndsNumber (rest : List Char) : Prop :=
  ∀ next ∈ rest.head?, isDigit next = false ∧ next ≠ '.' ∧ next ≠ 'e' ∧ next ≠ 'E'

/-- How a reading ends: with a value in front of the rest, or, for `none`, with a fault. -/
def Ended {α : Type} (made : Except Fault (α × Cursor)) (rest : List Char) : Option α → Prop
  | some value => ∃ after, made = .ok (value, ⟨rest, after⟩)
  | none => ∃ fault, made = .error fault

/-- What a reader makes of a text wherever it stands: a value, or, for `none`, a fault. -/
def Gives {α : Type} (read : Cursor → Except Fault (α × Cursor)) (text : List Char)
    (result : Option α) : Prop :=
  ∀ blanks rest offset, blanks.all Cursor.isBlank = true → EndsNumber rest →
    Ended (read ⟨blanks ++ (text ++ rest), offset⟩) rest result

/-- Blanks in front of a text are skipped and counted. -/
theorem skipBlank_append {blanks rest : List Char} {offset : Nat}
    (blank : blanks.all Cursor.isBlank = true) :
    Cursor.skipBlank ⟨blanks ++ rest, offset⟩ =
      Cursor.skipBlank ⟨rest, offset + blanks.length⟩ := by
  have all : ∀ c ∈ blanks, Cursor.isBlank c = true := List.all_eq_true.mp blank
  simp only [Cursor.skipBlank, Cursor.past, List.takeWhile_append_of_pos all,
    List.dropWhile_append_of_pos all, List.length_append, Nat.add_assoc]

theorem skipBlank_cons {next : Char} {rest : List Char} {offset : Nat}
    (solid : Cursor.isBlank next = false) :
    Cursor.skipBlank ⟨next :: rest, offset⟩ = ⟨next :: rest, offset⟩ := by
  simp [Cursor.skipBlank, Cursor.past, solid]

/-- The next character that is not blank is found behind the blanks. -/
theorem skipBlank_solid {blanks rest : List Char} {next : Char} {offset : Nat}
    (blank : blanks.all Cursor.isBlank = true) (solid : Cursor.isBlank next = false) :
    Cursor.skipBlank ⟨blanks ++ next :: rest, offset⟩ =
      ⟨next :: rest, offset + blanks.length⟩ := by
  rw [skipBlank_append blank, skipBlank_cons solid]

theorem skipBlank_skipBlank (c : Cursor) : c.skipBlank.skipBlank = c.skipBlank := by
  have none : (c.rest.dropWhile Cursor.isBlank).takeWhile Cursor.isBlank = [] := by
    cases left : c.rest.dropWhile Cursor.isBlank with
    | nil => rfl
    | cons next rest =>
        have solid : Cursor.isBlank next = false := by
          have head := List.head_dropWhile_not (l := c.rest) Cursor.isBlank (by simp [left])
          simpa only [left, List.head_cons] using head
        simp [solid]
  have same : (c.rest.dropWhile Cursor.isBlank).dropWhile Cursor.isBlank =
      c.rest.dropWhile Cursor.isBlank := List.dropWhile_idempotent _ _
  simp only [Cursor.skipBlank, Cursor.past, none, same, List.length_nil, Nat.add_zero]

/-- A reader that passes over blanks first can be judged without any. -/
theorem gives_of_skipBlank {α : Type} {read : Cursor → Except Fault (α × Cursor)}
    {text : List Char} {result : Option α} (skips : ∀ c, read c.skipBlank = read c)
    (gives : ∀ rest offset, EndsNumber rest → Ended (read ⟨text ++ rest, offset⟩) rest result) :
    Gives read text result := by
  intro blanks rest offset blank ends
  rw [← skips, skipBlank_append blank, skips]
  exact gives rest _ ends

private theorem Ended.map {α β : Type} {made : Except Fault (α × Cursor)} {rest : List Char}
    {result : Option α} (ended : Ended made rest result) (keep : α → β) :
    Ended (made.map fun (value, after) => (keep value, after)) rest (result.map keep) := by
  cases result with
  | some value =>
      obtain ⟨after, rfl⟩ := ended
      exact ⟨after, rfl⟩
  | none =>
      obtain ⟨fault, rfl⟩ := ended
      exact ⟨fault, rfl⟩

section Kept

variable {σ α β : Type} {read : Cursor → Except Fault (α × Cursor)} {text : List Char}
  {result : Option α}

theorem Gives.map (gives : Gives read text result) (keep : α → β) :
    Gives (fun c => (read c).map fun (value, after) => (keep value, after)) text
      (result.map keep) := by
  intro blanks rest offset blank ends
  exact (gives blanks rest offset blank ends).map keep

/-- A field keeps what is made of its value. -/
theorem Gives.of (gives : Gives read text result) (name : String) (keep : σ → α → σ) (record : σ) :
    Gives ((Field.of name read keep).read record) text (result.map (keep record)) :=
  gives.map (keep record)

end Kept

/-! ## Truth values and null -/

theorem word_append (letters rest : List Char) (offset : Nat) :
    Cursor.word letters ⟨letters ++ rest, offset⟩ = .ok ⟨rest, offset + letters.length⟩ := by
  induction letters generalizing offset with
  | nil => rfl
  | cons letter letters inductionHypothesis =>
      simp [Cursor.word, Cursor.past, inductionHypothesis, Nat.add_assoc, Nat.add_comm 1]

theorem gives_boolean (wanted : String) (value : Bool) :
    Gives (readBoolean wanted) (printBoolean value).toList (some value) := by
  apply gives_of_skipBlank
  · intro c
    simp only [readBoolean, skipBlank_skipBlank]
  · intro rest offset _
    cases value with
    | true =>
        have read := word_append "true".toList rest offset
        exact ⟨_, congrArg (Except.map fun after => (true, after)) read⟩
    | false =>
        have read := word_append "false".toList rest offset
        exact ⟨_, congrArg (Except.map fun after => (false, after)) read⟩

section Null

variable {α : Type} (wanted : String) (accept : Number → Except Cause α)

theorem readNumber_skipBlank (c : Cursor) :
    readNumber wanted accept c.skipBlank = readNumber wanted accept c := by
  simp only [readNumber, skipBlank_skipBlank]

/-- Where a number is wanted, `null` is a fault. -/
theorem gives_null : Gives (readNumber wanted accept) "null".toList none := by
  apply gives_of_skipBlank (readNumber_skipBlank wanted accept)
  intro rest offset _
  have read := word_append "null".toList rest offset
  let wrong : Cursor → Except Fault (α × Cursor) := fun after =>
    .error (after.behind (.wrongType .null wanted))
  exact ⟨_, congrArg (fun word : Except Fault Cursor => word.bind wrong) read⟩

end Null

/-! ## Strings -/

def escaped (text : List Char) : List Char :=
  text.flatMap fun c => (escapedChar c).toList

private theorem toList_printText (text : String) :
    (printText text).toList = '"' :: (escaped text.toList ++ ['"']) := by
  simp [printText, escaped, String.toList_append, String.toList_join, List.flatMap_map]

private theorem hexEscape_control {n : Nat} (small : n < 32) (rest : List Char) (offset : Nat) :
    Cursor.hexEscape ⟨'0' :: '0' :: (Hex.byte (UInt8.ofNat n) ++ rest), offset⟩ =
      .ok (n, ⟨rest, offset + 4⟩) := by
  have value : (UInt8.ofNat n).toNat = n := by
    rw [UInt8.toNat_ofNat']
    omega
  have zero : Hex.value? '0' = some 0 := by decide
  have high := Hex.value?_digit (n / 16) (by omega)
  have low := Hex.value?_digit (n % 16) (by omega)
  have whole : 4096 * 0 + 256 * 0 + 16 * (n / 16) + n % 16 = n := by omega
  simp only [Hex.byte, value, List.cons_append, List.nil_append, Cursor.hexEscape, zero, high, low,
    whole]
  rfl

private theorem unicodeEscape_control {c : Char} (control : c.toNat < 32) (rest : List Char)
    (offset : Nat) :
    Cursor.unicodeEscape ⟨'0' :: '0' :: (Hex.byte (UInt8.ofNat c.toNat) ++ rest), offset⟩ =
      .ok (c, ⟨rest, offset + 4⟩) := by
  have digits := hexEscape_control control rest offset
  have unpaired : ¬(56320 ≤ c.toNat ∧ c.toNat ≤ 57343) := by omega
  have plain : c.toNat < 55296 ∨ 56319 < c.toNat := by omega
  simp [Cursor.unicodeEscape, digits, bind, Except.bind, unpaired, plain]

/-- A character is read from its escape. -/
private theorem textLoop_escapedChar (fuel : Nat) (read : List Char) (c : Char) (rest : List Char)
    (offset : Nat) :
    ∃ after, Cursor.textLoop (fuel + 1) read ⟨(escapedChar c).toList ++ rest, offset⟩ =
      Cursor.textLoop fuel (c :: read) ⟨rest, after⟩ := by
  unfold escapedChar
  split
  · next quote =>
    subst quote
    exact ⟨_, rfl⟩
  split
  · next backslash =>
    subst backslash
    exact ⟨_, rfl⟩
  split
  · next lineBreak =>
    subst lineBreak
    exact ⟨_, rfl⟩
  split
  · next carriageReturn =>
    subst carriageReturn
    exact ⟨_, rfl⟩
  split
  · next tab =>
    subst tab
    exact ⟨_, rfl⟩
  split
  · next backspace =>
    obtain rfl : Char.ofNat 8 = c := by rw [← backspace, Char.ofNat_toNat]
    exact ⟨_, rfl⟩
  split
  · next formFeed =>
    obtain rfl : Char.ofNat 12 = c := by rw [← formFeed, Char.ofNat_toNat]
    exact ⟨_, rfl⟩
  split
  · next control =>
    have letters : ("\\u00" ++ String.ofList (Hex.byte (UInt8.ofNat c.toNat))).toList ++ rest =
        '\\' :: 'u' :: '0' :: '0' :: (Hex.byte (UInt8.ofNat c.toNat) ++ rest) := by
      simp
    have unicode := unicodeEscape_control control rest (offset + 2)
    refine ⟨offset + 6, ?_⟩
    rw [letters]
    simp [Cursor.textLoop, Cursor.escape, Cursor.past, unicode]
  · next quote backslash _ _ _ _ _ printable =>
    refine ⟨offset + c.utf8Size, ?_⟩
    simp [Cursor.textLoop, quote, backslash, printable, Cursor.past]

/-- A string is read from its text. -/
theorem textLoop_escaped {text : List Char} {fuel : Nat} (enough : text.length < fuel)
    (read rest : List Char) (offset : Nat) :
    ∃ after, Cursor.textLoop fuel read ⟨escaped text ++ '"' :: rest, offset⟩ =
      .ok (String.ofList (read.reverse ++ text), ⟨rest, after⟩) := by
  induction text generalizing fuel read offset with
  | nil =>
      obtain ⟨fuel, rfl⟩ := Nat.exists_eq_succ_of_ne_zero (Nat.ne_of_gt enough)
      exact ⟨offset + 1, by simp [escaped, Cursor.textLoop, Cursor.past]⟩
  | cons c text inductionHypothesis =>
      obtain ⟨fuel, rfl⟩ := Nat.exists_eq_succ_of_ne_zero (Nat.ne_of_gt (Nat.zero_lt_of_lt enough))
      obtain ⟨next, first⟩ := textLoop_escapedChar fuel read c (escaped text ++ '"' :: rest) offset
      obtain ⟨after, later⟩ := inductionHypothesis (Nat.lt_of_succ_lt_succ enough) (c :: read) next
      refine ⟨after, ?_⟩
      rw [escaped, List.flatMap_cons, List.append_assoc, ← escaped, Nat.succ_eq_add_one, first,
        later, List.reverse_cons, List.append_assoc]
      rfl

private theorem length_le_escaped (text : List Char) : text.length ≤ (escaped text).length := by
  induction text with
  | nil => exact Nat.zero_le _
  | cons c text inductionHypothesis =>
      have some : 1 ≤ (escapedChar c).toList.length := by
        unfold escapedChar
        split_ifs <;> simp
      rw [escaped, List.flatMap_cons, ← escaped, List.length_append, List.length_cons]
      omega

/-- A string is read from behind its opening quote. -/
theorem text_escaped (text : String) (rest : List Char) (offset : Nat) :
    ∃ after, Cursor.text ⟨escaped text.toList ++ '"' :: rest, offset⟩ =
      .ok (text, ⟨rest, after⟩) := by
  have enough : text.toList.length < (escaped text.toList ++ '"' :: rest).length + 1 := by
    have least := length_le_escaped text.toList
    rw [List.length_append]
    omega
  obtain ⟨after, read⟩ := textLoop_escaped enough [] rest offset
  refine ⟨after, ?_⟩
  rw [Cursor.text, read, List.reverse_nil, List.nil_append, String.ofList_toList]

/-! ## Objects -/

/-- What a record becomes when members of an object at a depth are read into it, one after the
other: `none` where a value among them is faulty. -/
inductive Takes {σ : Type} (fields : List (Field σ)) (depth : Nat) :
    List (String × Value) → σ → Option σ → Prop
  | done (record : σ) : Takes fields depth [] record (some record)
  | taken {key : String} {value : Value} {members : List (String × Value)} {record next : σ}
      {final : Option σ} {field : Field σ}
      (known : (fields.find? fun field => field.name == key) = some field)
      (gives : Gives (field.read record) (value.indented depth).toList (some next))
      (later : Takes fields depth members next final) :
      Takes fields depth ((key, value) :: members) record final
  | faulty {key : String} {value : Value} {members : List (String × Value)} {record : σ}
      {field : Field σ} (known : (fields.find? fun field => field.name == key) = some field)
      (gives : Gives (field.read record) (value.indented depth).toList none) :
      Takes fields depth ((key, value) :: members) record none

def separator (first : Bool) : List Char :=
  if first then [] else [',']

def membersText (depth : Nat) : Bool → List (String × Value) → List Char
  | _, [] => []
  | first, (key, value) :: members =>
      separator first ++ ((newLine depth).toList ++ ((printText key).toList ++
        ([':', ' '] ++ ((value.indented depth).toList ++ membersText depth false members))))

private theorem toList_newLine (depth : Nat) :
    (newLine depth).toList = '\n' :: List.replicate (2 * depth) ' ' := by
  simp [newLine]

private theorem newLine_isBlank (depth : Nat) :
    (newLine depth).toList.all Cursor.isBlank = true := by
  rw [toList_newLine, List.all_cons, List.all_replicate]
  split <;> rfl

theorem intercalate_cons (separator first : List Char) (lines : List (List Char)) :
    separator.intercalate (first :: lines) = first ++ lines.flatMap (separator ++ ·) := by
  induction lines generalizing first with
  | nil => simp
  | cons line lines inductionHypothesis =>
      rw [List.intercalate_cons_cons, inductionHypothesis, List.flatMap_cons, List.append_assoc,
        List.append_assoc]

private theorem flatMap_indentedMembers (depth : Nat) (members : List (String × Value)) :
    ((indentedMembers depth members).map String.toList).flatMap ([','] ++ ·) =
      membersText depth false members := by
  induction members with
  | nil => rfl
  | cons member members inductionHypothesis =>
      obtain ⟨key, value⟩ := member
      rw [indentedMembers, List.map_cons, List.flatMap_cons, inductionHypothesis, membersText]
      simp [separator]

private theorem toList_indented_object (depth : Nat) {members : List (String × Value)}
    (some : members ≠ []) :
    ((Value.object members).indented depth).toList =
      '{' :: (membersText (depth + 1) true members ++ ((newLine depth).toList ++ ['}'])) := by
  cases members with
  | nil => cases some rfl
  | cons member members =>
      obtain ⟨key, value⟩ := member
      have comma : ",".toList = [','] := rfl
      simp only [Value.indented, indentedMembers, String.toList_append, String.toList_intercalate,
        List.map_cons, membersText, comma, intercalate_cons, flatMap_indentedMembers]
      simp [separator]

private theorem ends_newLine (depth : Nat) (rest : List Char) :
    EndsNumber ((newLine depth).toList ++ rest) := by
  rw [toList_newLine]
  intro next head
  obtain rfl : '\n' = next := by simpa using head
  decide

private theorem ends_membersText (depth outer : Nat) (members : List (String × Value))
    (rest : List Char) :
    EndsNumber (membersText depth false members ++ ((newLine outer).toList ++ rest)) := by
  cases members with
  | nil => exact ends_newLine outer rest
  | cons member members =>
      intro next head
      obtain rfl : ',' = next := by simpa [membersText, separator] using head
      decide

/-- The next key is found behind a comma and a line break. -/
theorem nextKey_member (depth : Nat) (first : Bool) (key : String) (rest : List Char)
    (offset : Nat) :
    ∃ after, Cursor.nextKey first
        ⟨separator first ++ ((newLine depth).toList ++ ((printText key).toList ++ rest)), offset⟩ =
      .ok (some key, ⟨rest, after⟩) := by
  have blank := newLine_isBlank depth
  have quote : Cursor.isBlank '"' = false := rfl
  have comma : Cursor.isBlank ',' = false := rfl
  rw [toList_printText, List.cons_append, List.append_assoc]
  cases first with
  | true =>
      obtain ⟨after, read⟩ := text_escaped key rest (offset + (newLine depth).toList.length + 1)
      refine ⟨after, ?_⟩
      rw [separator, if_pos rfl, List.nil_append, Cursor.nextKey, skipBlank_solid blank quote]
      exact congrArg (Except.map _) read
  | false =>
      obtain ⟨after, read⟩ := text_escaped key rest (offset + 1 + (newLine depth).toList.length + 1)
      refine ⟨after, ?_⟩
      rw [separator, if_neg Bool.false_ne_true, List.singleton_append, Cursor.nextKey,
        skipBlank_cons comma]
      simp [Cursor.past, skipBlank_solid blank quote, read, Except.map]

/-- Behind the last member an object is closed. -/
theorem nextKey_close (depth : Nat) (first : Bool) (rest : List Char) (offset : Nat) :
    ∃ after, Cursor.nextKey first ⟨(newLine depth).toList ++ '}' :: rest, offset⟩ =
      .ok (none, ⟨rest, after⟩) := by
  have brace : Cursor.isBlank '}' = false := rfl
  refine ⟨offset + (newLine depth).toList.length + 1, ?_⟩
  rw [Cursor.nextKey, skipBlank_solid (newLine_isBlank depth) brace]
  rfl

theorem colon_append (rest : List Char) (offset : Nat) :
    Cursor.colon ⟨[':', ' '] ++ rest, offset⟩ = .ok ⟨[' '] ++ rest, offset + 1⟩ := by
  rw [Cursor.colon, List.cons_append, skipBlank_cons rfl]
  rfl

section Members

variable {σ : Type} {fields : List (Field σ)}

/-- A known member that did not come before is read by its field. -/
theorem readByName_member {key : String} {field : Field σ} {seen : List String}
    (known : (fields.find? fun field => field.name == key) = some field) (unseen : key ∉ seen)
    (depth fuel : Nat) (first : Bool) (record : σ) (value : Value) (members : List (String × Value))
    (rest : List Char) (offset : Nat) :
    ∃ place, readByName fields (fuel + 1) seen first record
        ⟨membersText depth first ((key, value) :: members) ++ rest, offset⟩ =
      match field.read record
          ⟨[' '] ++ ((value.indented depth).toList ++ (membersText depth false members ++ rest)),
            place⟩ with
      | .error fault => .error fault
      | .ok (record, c) => readByName fields fuel (key :: seen) false record c := by
  obtain ⟨place, found⟩ := nextKey_member depth first key
    ([':', ' '] ++ ((value.indented depth).toList ++ (membersText depth false members ++ rest)))
    offset
  have once : seen.contains key = false := by simpa using unseen
  refine ⟨place + 1, ?_⟩
  generalize made : field.read record _ = result
  simp only [membersText, List.append_assoc] at found ⊢
  rw [readByName, found]
  cases result with
  | error fault =>
      simp only [known, once, colon_append, Except.bind, made, Bool.false_eq_true, if_false]
  | ok next =>
      simp only [known, once, colon_append, Except.bind, made, Bool.false_eq_true, if_false]

/-- Members are read into a record, each once, up to the closing brace. -/
theorem Takes.readByName {depth outer : Nat} {members : List (String × Value)} {record : σ}
    {final : Option σ} (takes : Takes fields depth members record final) {fuel : Nat}
    {seen : List String} (enough : members.length < fuel)
    (distinct : (members.map Prod.fst).Nodup)
    (unseen : ∀ key ∈ members.map Prod.fst, key ∉ seen) (first : Bool) (rest : List Char)
    (offset : Nat) :
    Ended (Json.readByName fields fuel seen first record
      ⟨membersText depth first members ++ ((newLine outer).toList ++ '}' :: rest), offset⟩)
      rest final := by
  have blank : [' '].all Cursor.isBlank = true := rfl
  -- No key to come is among those that were seen, so no member is taken for a second one.
  induction takes generalizing fuel seen first offset with
  | done record =>
      obtain ⟨fuel, rfl⟩ := Nat.exists_eq_succ_of_ne_zero (Nat.ne_of_gt enough)
      obtain ⟨after, closed⟩ := nextKey_close outer first rest offset
      refine ⟨after, ?_⟩
      rw [membersText, List.nil_append, Json.readByName, closed]
  | @taken key value members record next final field known gives later inductionHypothesis =>
      obtain ⟨fuel, rfl⟩ := Nat.exists_eq_succ_of_ne_zero (Nat.ne_of_gt (Nat.zero_lt_of_lt enough))
      simp only [List.map_cons, List.nodup_cons, List.forall_mem_cons] at distinct unseen
      obtain ⟨place, read⟩ := readByName_member known unseen.1 depth fuel first record
        value members ((newLine outer).toList ++ '}' :: rest) offset
      obtain ⟨after, taken⟩ := gives [' '] _ place blank (ends_membersText depth outer members _)
      rw [read, taken]
      apply inductionHypothesis (Nat.lt_of_succ_lt_succ enough) distinct.2
      intro other among
      rw [List.mem_cons, not_or]
      refine ⟨?_, unseen.2 other among⟩
      rintro rfl
      exact distinct.1 among
  | @faulty key value members record field known gives =>
      obtain ⟨fuel, rfl⟩ := Nat.exists_eq_succ_of_ne_zero (Nat.ne_of_gt (Nat.zero_lt_of_lt enough))
      simp only [List.map_cons, List.forall_mem_cons] at unseen
      obtain ⟨place, read⟩ := readByName_member known unseen.1 depth fuel first record
        value members ((newLine outer).toList ++ '}' :: rest) offset
      obtain ⟨fault, failed⟩ := gives [' '] _ place blank (ends_membersText depth outer members _)
      rw [read, failed]
      exact ⟨fault, rfl⟩

private theorem length_le_membersText (depth : Nat) (first : Bool)
    (members : List (String × Value)) :
    members.length ≤ (membersText depth first members).length := by
  induction members generalizing first with
  | nil => exact Nat.zero_le _
  | cons member members inductionHypothesis =>
      have later := inductionHypothesis false
      simp only [membersText, List.length_append, List.length_cons]
      omega

/-- An object is read into a record as its members are. -/
theorem Takes.gives {depth : Nat} {shape : Shape σ} {members : List (String × Value)} {record : σ}
    {final : Option σ} (takes : Takes shape.fields (depth + 1) members record final)
    (distinct : (members.map Prod.fst).Nodup) (some : members ≠ []) :
    Gives (shape.read record) ((Value.object members).indented depth).toList final := by
  apply gives_of_skipBlank
  · intro c
    simp only [Shape.read, skipBlank_skipBlank]
  · intro rest offset _
    let text := membersText (depth + 1) true members ++ ((newLine depth).toList ++ '}' :: rest)
    have enough : members.length < text.length + 1 := by
      have least := length_le_membersText (depth + 1) true members
      rw [List.length_append]
      omega
    have read : Ended (Json.readByName shape.fields (text.length + 1) [] true record
        ⟨text, offset + 1⟩) rest final :=
      takes.readByName enough distinct (by simp) true rest (offset + 1)
    have brace : Cursor.isBlank '{' = false := rfl
    rw [toList_indented_object depth some]
    simpa [Shape.read, skipBlank_cons brace, Cursor.past, text] using read

end Members

end TagFix.Json
