import TagFix.Proofs.Json.Kind

/-!
# Records of spelled objects

An object is read into a record whatever the order of its members is, and as if those were not
there that the record does not know.
-/

namespace TagFix.Json

section Keys

variable {gap name key : List Char} {first : Bool}

/-- The next key is found behind what stands before it. -/
theorem nextKey_spelled (apart : Gap first gap) (named : SpellsText key name) (rest : List Char)
    (offset : Nat) :
    ∃ after, Cursor.nextKey first ⟨gap ++ '"' :: (name ++ '"' :: rest), offset⟩ =
      .ok (some (String.ofList key), ⟨rest, after⟩) := by
  have quote : Cursor.isBlank '"' = false := rfl
  cases apart with
  | first blank =>
      obtain ⟨after, read⟩ := named.read rest (offset + gap.length + 1)
      refine ⟨after, ?_⟩
      rw [Cursor.nextKey, skipBlank_solid blank quote]
      exact congrArg (Except.map _) read
  | @comma before blanks blankBefore blank =>
      obtain ⟨after, read⟩ := named.read rest (offset + before.length + 1 + blanks.length + 1)
      have comma : Cursor.isBlank ',' = false := rfl
      refine ⟨after, ?_⟩
      rw [List.append_assoc, List.cons_append, Cursor.nextKey, skipBlank_solid blankBefore comma]
      simp [Cursor.past, skipBlank_solid blank quote, read, Except.map]

/-- Behind the last member an object is closed. -/
theorem nextKey_closed {blanks : List Char} (blank : Blanks blanks) (first : Bool)
    (rest : List Char) (offset : Nat) :
    ∃ after, Cursor.nextKey first ⟨blanks ++ '}' :: rest, offset⟩ = .ok (none, ⟨rest, after⟩) := by
  have brace : Cursor.isBlank '}' = false := rfl
  refine ⟨offset + blanks.length + 1, ?_⟩
  rw [Cursor.nextKey, skipBlank_solid blank brace]
  rfl

end Keys

section Records

variable {σ : Type} {fields : List (Field σ)} {seen : List String} {first : Bool} {fuel : Nat}
  {key : String} {value : Value} {gap name before after text rest : List Char}

/-- A member that the record does not know is passed over. -/
theorem readByName_unknown (stranger : key ∉ fields.map Field.name) (apart : Gap first gap)
    (named : SpellsText key.toList name) (blankBefore : Blanks before) (blankAfter : Blanks after)
    (spells : Spells value text) (ends : EndsNumber rest) (record : σ) (offset : Nat) :
    ∃ place, readByName fields (fuel + 1) seen first record
        ⟨gap ++ '"' :: (name ++ '"' :: (before ++ ':' :: (after ++ (text ++ rest)))), offset⟩ =
      readByName fields fuel seen false record ⟨rest, place⟩ := by
  obtain ⟨one, found⟩ := nextKey_spelled apart named
    (before ++ ':' :: (after ++ (text ++ rest))) offset
  obtain ⟨two, colon⟩ := colon_spelled blankBefore (after ++ (text ++ rest)) one
  obtain ⟨place, skipped⟩ := spells.skip blankAfter ends two
  have none : (fields.find? fun field => field.name == key) = none := by
    rw [List.find?_eq_none]
    intro field among same
    exact stranger (List.mem_map.mpr ⟨field, among, eq_of_beq same⟩)
  refine ⟨place, ?_⟩
  rw [readByName, found]
  simp only [String.ofList_toList, none, colon, Except.bind, skipped]

/-- A member of a field that did not come before is read by its field. -/
theorem readByName_known {field : Field σ} {record next : σ}
    (known : (fields.find? fun field => field.name == key) = some field) (unseen : key ∉ seen)
    (apart : Gap first gap) (named : SpellsText key.toList name) (blankBefore : Blanks before)
    (blankAfter : Blanks after) (gives : Gives (field.read record) text (some next))
    (ends : EndsNumber rest) (offset : Nat) :
    ∃ place, readByName fields (fuel + 1) seen first record
        ⟨gap ++ '"' :: (name ++ '"' :: (before ++ ':' :: (after ++ (text ++ rest)))), offset⟩ =
      readByName fields fuel (key :: seen) false next ⟨rest, place⟩ := by
  obtain ⟨one, found⟩ := nextKey_spelled apart named
    (before ++ ':' :: (after ++ (text ++ rest))) offset
  obtain ⟨two, colon⟩ := colon_spelled blankBefore (after ++ (text ++ rest)) one
  obtain ⟨place, read⟩ := gives after rest two blankAfter ends
  have once : seen.contains key = false := by simpa using unseen
  refine ⟨place, ?_⟩
  rw [readByName, found]
  simp only [String.ofList_toList, known, once, colon, Except.bind, read, Bool.false_eq_true,
    if_false]

/-- That a field reads the values of a kind. What the record is after some members of an object
is told by `made`. -/
def Field.Reads (made : List (String × Value) → σ) (field : Field σ) (entry : String × Kind) :
    Prop :=
  field.name = entry.1 ∧ ∀ past value text, entry.2.fits value = true → Spells value text →
    Gives (field.read (made past)) text (some (made (past ++ [(entry.1, value)])))

/-- That a record is made of members by its fields; a member that it does not know changes
nothing. -/
structure Makes (fields : List (Field σ)) (kinds : List (String × Kind))
    (made : List (String × Value) → σ) : Prop where
  known : List.Forall₂ (Field.Reads made) fields kinds
  unknown : ∀ past key value, key ∉ kinds.map Prod.fst → made (past ++ [(key, value)]) = made past

variable {kinds : List (String × Kind)} {made : List (String × Value) → σ}
  {past members : List (String × Value)}

private theorem names_of_reads (known : List.Forall₂ (Field.Reads made) fields kinds) :
    fields.map Field.name = kinds.map Prod.fst := by
  induction known with
  | nil => rfl
  | cons reads _ inductionHypothesis =>
      rw [List.map_cons, List.map_cons, reads.1, inductionHypothesis]

private theorem exists_field (known : List.Forall₂ (Field.Reads made) fields kinds)
    (among : key ∈ kinds.map Prod.fst) :
    ∃ field kind, (fields.find? fun field => field.name == key) = some field ∧
      (key, kind) ∈ kinds ∧ field.Reads made (key, kind) := by
  induction known with
  | nil => cases among
  | @cons field entry fields kinds reads _ inductionHypothesis =>
      obtain ⟨name, kind⟩ := entry
      have named : field.name = name := reads.1
      by_cases same : name = key
      · subst same
        exact ⟨field, kind, by simp [named], List.mem_cons_self, reads⟩
      · have later : key ∈ kinds.map Prod.fst := by simpa [Ne.symm same] using among
        obtain ⟨found, foundKind, find, member, there⟩ := inductionHypothesis later
        exact ⟨found, foundKind, by simpa [named, same] using find, List.mem_cons_of_mem _ member,
          there⟩

/-- The next member of a known key is the first one. -/
theorem notMem_past {kind : Kind} (fits : fieldsFit kinds (past ++ (key, value) :: members) = true)
    (known : (key, kind) ∈ kinds) : key ∉ past.map Prod.fst := by
  obtain ⟨once, -⟩ := fits_of_fieldsFit fits known
  intro old
  have some := List.count_pos_iff.mpr old
  rw [List.map_append, List.count_append, List.map_cons, List.count_cons_self] at once
  omega

private theorem Makes.readByName (makes : Makes fields kinds made)
    (spells : SpellsMembers first members text) (enough : members.length < fuel)
    (fits : fieldsFit kinds (past ++ members) = true) (old : ∀ key ∈ seen, key ∈ past.map Prod.fst)
    (rest : List Char) (offset : Nat) :
    Ended (Json.readByName fields fuel seen first (made past) ⟨text ++ '}' :: rest, offset⟩) rest
      (some (made (past ++ members))) := by
  -- The members that were read move from `members` to `past`, so that together they still fit.
  induction members generalizing first text fuel seen past offset with
  | nil =>
      obtain ⟨fuel, rfl⟩ := Nat.exists_eq_succ_of_ne_zero (Nat.ne_of_gt enough)
      cases spells with
      | done blank =>
          obtain ⟨after, closed⟩ := nextKey_closed blank first rest offset
          refine ⟨after, ?_⟩
          rw [Json.readByName, closed, List.append_nil]
  | cons member members inductionHypothesis =>
      obtain ⟨fuel, rfl⟩ := Nat.exists_eq_succ_of_ne_zero (Nat.ne_of_gt (Nat.zero_lt_of_lt enough))
      have fewer : members.length < fuel := Nat.lt_of_succ_lt_succ enough
      cases spells with
      | @member _ key value _ gap name before after text others apart named blankBefore blankAfter
          spells later =>
          have ends := later.endsNumber rest
          have moved : past ++ (key, value) :: members = past ++ [(key, value)] ++ members := by
            simp
          have older : ∀ other ∈ seen, other ∈ (past ++ [(key, value)]).map Prod.fst := by
            intro other among
            rw [List.map_append]
            exact List.mem_append_left _ (old other among)
          have fitsMoved : fieldsFit kinds (past ++ [(key, value)] ++ members) = true := by
            rwa [← moved]
          simp only [List.append_assoc, List.cons_append]
          rw [moved]
          by_cases known : key ∈ kinds.map Prod.fst
          · obtain ⟨field, kind, found, member, -, reads⟩ := exists_field makes.known known
            obtain ⟨-, typed⟩ := fits_of_fieldsFit fits member
            have new : key ∉ seen := fun among => notMem_past fits member (old key among)
            have gives := reads past value text (typed value (by simp)) spells
            obtain ⟨place, read⟩ := readByName_known found new apart named blankBefore blankAfter
              gives ends offset
            rw [read]
            apply inductionHypothesis later fewer fitsMoved
            rintro other (_ | ⟨_, among⟩)
            · simp
            · exact older other among
          · have stranger : key ∉ fields.map Field.name := by
              rwa [names_of_reads makes.known]
            obtain ⟨place, passed⟩ := readByName_unknown stranger apart named blankBefore blankAfter
              spells ends (made past) offset
            rw [passed, ← makes.unknown past key value known]
            exact inductionHypothesis later fewer fitsMoved older place

private theorem SpellsMembers.length_le (spells : SpellsMembers first members text) :
    members.length ≤ text.length := by
  induction members generalizing first text with
  | nil => exact Nat.zero_le _
  | cons member members inductionHypothesis =>
      cases spells with
      | member apart named blankBefore blankAfter spells later =>
          have least := inductionHypothesis later
          simp only [List.length_append, List.length_cons]
          omega

/-- An object of the kind is read into the record that its members make. -/
theorem Makes.gives {shape : Shape σ} (makes : Makes shape.fields kinds made)
    (spells : Spells (.object members) text) (fits : fieldsFit kinds members = true) :
    Gives (shape.read (made [])) text (some (made members)) := by
  cases spells with
  | @object _ text spells =>
      apply gives_of_skipBlank
      · intro c
        simp only [Shape.read, skipBlank_skipBlank]
      · intro rest offset _
        have enough : members.length < (text ++ '}' :: rest).length + 1 := by
          have least := spells.length_le
          rw [List.length_append]
          omega
        have old : ∀ key ∈ ([] : List String), key ∈ ([] : List (String × Value)).map Prod.fst :=
          List.forall_mem_nil _
        have whole : fieldsFit kinds ([] ++ members) = true := fits
        have read := makes.readByName spells enough whole old rest (offset + 1)
        have brace : Cursor.isBlank '{' = false := rfl
        simpa [Shape.read, skipBlank_cons brace, Cursor.past] using read

end Records

end TagFix.Json
