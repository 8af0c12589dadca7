import TagFix.Proofs.Json.Spelling

/-!
# Documents of a kind

What a record type asks of a document: that each member it knows is there at most once, and with a
value of its kind. Such a document is told by its leaves, in whatever order they stand.
-/

namespace TagFix.Json

/-! ## Values of a kind -/

def Value.natural? (bound : Nat) : Value → Option Nat
  | .number (.whole n) => if 0 ≤ n ∧ n < bound then some n.toNat else none
  | _ => none

def Value.float? : Value → Option Float
  | .number found => some found.toFloat
  | _ => none

def Value.boolean? : Value → Option Bool
  | .boolean value => some value
  | _ => none

/-- What a value may be: a number or truth value, or an object with known members. -/
inductive Kind
  | natural (bound : Nat)
  | float
  | boolean
  | record (fields : List (String × Kind))

mutual

/-- Whether a value is of a kind. An object has each known member at most once, and may have
others. -/
def Kind.fits : Kind → Value → Bool
  | .natural bound, value => (value.natural? bound).isSome
  | .float, value => value.float?.isSome
  | .boolean, value => value.boolean?.isSome
  | .record fields, .object members => fieldsFit fields members
  | .record _, _ => false

def fieldsFit : List (String × Kind) → List (String × Value) → Bool
  | [], _ => true
  | (name, kind) :: fields, members =>
      decide ((members.map Prod.fst).count name ≤ 1) &&
        (members.all fun (key, value) => key != name || kind.fits value) &&
          fieldsFit fields members

end

section Fits

variable {fields : List (String × Kind)} {members : List (String × Value)} {name : String}
  {kind : Kind} {value : Value} {text : List Char}

/-- Of members that are right for a record, a known field is there at most once and with a value of
its kind. -/
theorem fits_of_fieldsFit (fits : fieldsFit fields members = true)
    (known : (name, kind) ∈ fields) :
    (members.map Prod.fst).count name ≤ 1 ∧
      ∀ value, (name, value) ∈ members → kind.fits value = true := by
  induction fields with
  | nil => cases known
  | cons entry fields inductionHypothesis =>
      obtain ⟨other, otherKind⟩ := entry
      simp only [fieldsFit, Bool.and_eq_true, decide_eq_true_eq, List.all_eq_true] at fits
      obtain ⟨⟨once, typed⟩, later⟩ := fits
      rcases List.mem_cons.mp known with same | known
      · cases same
        refine ⟨once, fun value member => ?_⟩
        simpa using typed (name, value) member
      · exact inductionHypothesis later known

theorem exists_object (fits : (Kind.record fields).fits value = true) :
    ∃ members, value = .object members ∧ fieldsFit fields members = true := by
  cases value with
  | object members => exact ⟨members, rfl, by rwa [Kind.fits] at fits⟩
  | _ => cases fits

/-- A natural number in range is read where it is spelled. -/
theorem Spells.natural (wanted : String) {bound n : Nat} (typed : value.natural? bound = some n)
    (spells : Spells value text) : Gives (readNatural wanted bound) text (some n) := by
  cases spells with
  | @number number text spells =>
      cases number with
      | whole whole =>
          apply spells.gives
          simp only [Value.natural?] at typed
          split_ifs at typed with inside
          cases typed
          exact if_pos inside
      | decimal x => cases typed
  | _ => cases typed

theorem Spells.float (wanted : String) {x : Float} (typed : value.float? = some x)
    (spells : Spells value text) : Gives (readFloat wanted) text (some x) := by
  cases spells with
  | number spells =>
      cases typed
      exact spells.gives rfl
  | _ => cases typed

theorem Spells.boolean (wanted : String) {flag : Bool} (typed : value.boolean? = some flag)
    (spells : Spells value text) : Gives (readBoolean wanted) text (some flag) := by
  cases spells with
  | yes =>
      cases typed
      exact gives_boolean wanted true
  | no =>
      cases typed
      exact gives_boolean wanted false
  | _ => cases typed

end Fits

/-! ## Leaves -/

def Value.at? : List String → Value → Option Value
  | [], value => some value
  | key :: path, value => (value.member? key).bind (at? path)

mutual

/-- The values inside a value that are no objects, with their paths, in the order of the text. -/
def Value.leaves : Value → List (List String × Value)
  | .object members => leavesOf members
  | value => [([], value)]

def leavesOf : List (String × Value) → List (List String × Value)
  | [] => []
  | (key, value) :: members =>
      (value.leaves.map fun (path, leaf) => (key :: path, leaf)) ++ leavesOf members

end

mutual

/-- The paths to the leaves that a kind knows. -/
def Kind.paths : Kind → List (List String)
  | .natural _ | .float | .boolean => [[]]
  | .record fields => fieldPaths fields

def fieldPaths : List (String × Kind) → List (List String)
  | [] => []
  | (name, kind) :: fields => kind.paths.map (name :: ·) ++ fieldPaths fields

end

/-- That a path leads to at most one place of a value, and there to no object. -/
def Clear : List String → Value → Prop
  | [], value => ∀ members, value ≠ .object members
  | key :: path, .object members =>
      (members.map Prod.fst).count key ≤ 1 ∧ ∀ value, (key, value) ∈ members → Clear path value
  | _ :: _, _ => True

section Leaves

variable {path : List String} {key : String} {members : List (String × Value)} {value leaf : Value}

/-- The last member of a key counts. -/
theorem member?_concat (members : List (String × Value)) (key name : String) (value : Value) :
    (Value.object (members ++ [(key, value)])).member? name =
      if key = name then some value else (Value.object members).member? name := by
  by_cases same : key = name
  · simp [Value.member?, same]
  · simp [Value.member?, same]

private theorem member?_eq_some_iff (once : (members.map Prod.fst).count key ≤ 1) :
    (Value.object members).member? key = some value ↔ (key, value) ∈ members := by
  induction members using List.reverseRecOn with
  | nil => simp [Value.member?]
  | append_singleton members last inductionHypothesis =>
      obtain ⟨other, found⟩ := last
      rw [List.map_append, List.count_append] at once
      rw [member?_concat, List.mem_append, List.mem_singleton, Prod.mk.injEq]
      by_cases same : other = key
      · subst same
        have absent : (members.map Prod.fst).count other = 0 := by
          simp only [List.map_cons, List.map_nil, List.count_singleton_self] at once
          omega
        have new : (other, value) ∉ members := fun member =>
          List.count_eq_zero.mp absent (List.mem_map_of_mem member)
        simp [new, eq_comm]
      · have fewer : (members.map Prod.fst).count key ≤ 1 := by omega
        simp [same, inductionHypothesis fewer, Ne.symm same]

private theorem mem_leavesOf :
    (key :: path, leaf) ∈ leavesOf members ↔
      ∃ value, (key, value) ∈ members ∧ (path, leaf) ∈ value.leaves := by
  induction members with
  | nil => simp [leavesOf]
  | cons member members inductionHypothesis =>
      obtain ⟨other, found⟩ := member
      have here :
          (key :: path, leaf) ∈ found.leaves.map (fun (path, leaf) => (other :: path, leaf)) ↔
            other = key ∧ (path, leaf) ∈ found.leaves := by
        simp [and_comm]
      rw [leavesOf, List.mem_append, inductionHypothesis, here]
      by_cases same : other = key
      · subst same
        simp [or_and_right, exists_or]
      · simp [same, Ne.symm same]

/-- What a clear path leads to is a leaf. -/
theorem Clear.at?_eq_some_iff (clear : Clear path value) :
    value.at? path = some leaf ↔ (path, leaf) ∈ value.leaves := by
  induction path generalizing value with
  | nil =>
      cases value with
      | object members => cases clear members rfl
      | _ => simp [Value.at?, Value.leaves, eq_comm]
  | cons key path inductionHypothesis =>
      cases value with
      | object members =>
          obtain ⟨once, clear⟩ := clear
          rw [Value.at?, Option.bind_eq_some_iff, Value.leaves, mem_leavesOf]
          apply exists_congr
          intro value
          rw [member?_eq_some_iff once]
          exact and_congr_right fun member => inductionHypothesis (clear value member)
      | _ => simp [Value.at?, Value.leaves, Value.member?]

end Leaves

mutual

/-- In a document of a kind, the paths that the kind knows are clear. -/
theorem Kind.clear : ∀ (kind : Kind) {value : Value}, kind.fits value = true →
    ∀ path ∈ kind.paths, Clear path value
  | .natural bound, value, fits => by
      rw [Kind.paths, List.forall_mem_singleton]
      rintro members rfl
      cases fits
  | .float, value, fits => by
      rw [Kind.paths, List.forall_mem_singleton]
      rintro members rfl
      cases fits
  | .boolean, value, fits => by
      rw [Kind.paths, List.forall_mem_singleton]
      rintro members rfl
      cases fits
  | .record fields, value, fits => by
      obtain ⟨members, rfl, fits⟩ := exists_object fits
      rw [Kind.paths]
      exact clear_of_fieldsFit fields fits

private theorem clear_of_fieldsFit :
    ∀ (fields : List (String × Kind)) {members : List (String × Value)},
    fieldsFit fields members = true → ∀ path ∈ fieldPaths fields, Clear path (.object members)
  | [], members, _ => nofun
  | (name, kind) :: fields, members, fits => by
      obtain ⟨once, typed⟩ := fits_of_fieldsFit fits List.mem_cons_self
      have later : fieldsFit fields members = true := by
        rw [fieldsFit, Bool.and_eq_true] at fits
        exact fits.2
      rw [fieldPaths, List.forall_mem_append, List.forall_mem_map]
      refine ⟨fun path known => ⟨once, fun value member => ?_⟩, clear_of_fieldsFit fields later⟩
      exact kind.clear (typed value member) path known

end

/-! ## Documents that are alike -/

/-- That two values differ only in the order of members and in members that their kind does not
know, at any level. -/
inductive Alike : Kind → Value → Value → Prop
  | refl (kind : Kind) (value : Value) : Alike kind value value
  | symm {kind : Kind} {left right : Value} (alike : Alike kind left right) :
      Alike kind right left
  | trans {kind : Kind} {left between right : Value} (first : Alike kind left between)
      (second : Alike kind between right) : Alike kind left right
  | order {fields : List (String × Kind)} {left right : List (String × Value)}
      (same : left.Perm right) : Alike (.record fields) (.object left) (.object right)
  | unknown {fields : List (String × Kind)} {key : String} (value : Value)
      (members : List (String × Value)) (stranger : key ∉ fields.map Prod.fst) :
      Alike (.record fields) (.object members) (.object ((key, value) :: members))
  | inside {fields : List (String × Kind)} {key : String} {left right : Value}
      (members : List (String × Value))
      (alike : ∀ kind, (key, kind) ∈ fields → Alike kind left right) :
      Alike (.record fields) (.object ((key, left) :: members))
        (.object ((key, right) :: members))

section Alike

variable {fields : List (String × Kind)} {kind : Kind} {left right leaf : Value}
  {path : List String}

private theorem exists_of_mem_fieldPaths (known : path ∈ fieldPaths fields) :
    ∃ name kind rest, path = name :: rest ∧ (name, kind) ∈ fields ∧ rest ∈ kind.paths := by
  induction fields with
  | nil => cases known
  | cons field fields inductionHypothesis =>
      obtain ⟨name, kind⟩ := field
      rw [fieldPaths, List.mem_append] at known
      rcases known with here | known
      · obtain ⟨rest, known, rfl⟩ := List.mem_map.mp here
        exact ⟨name, kind, rest, rfl, List.mem_cons_self, known⟩
      · obtain ⟨other, kind, rest, same, member, known⟩ := inductionHypothesis known
        exact ⟨other, kind, rest, same, List.mem_cons_of_mem _ member, known⟩

/-- Values that are alike have the same leaves where their kind knows them. -/
theorem Alike.mem_leaves (alike : Alike kind left right) (known : path ∈ kind.paths) :
    (path, leaf) ∈ left.leaves ↔ (path, leaf) ∈ right.leaves := by
  induction alike generalizing path with
  | refl => exact Iff.rfl
  | symm _ inductionHypothesis => exact (inductionHypothesis known).symm
  | trans _ _ first second => exact (first known).trans (second known)
  | order same =>
      obtain ⟨name, kind, rest, rfl, -, -⟩ := exists_of_mem_fieldPaths known
      simp only [Value.leaves, mem_leavesOf, same.mem_iff]
  | @unknown fields key value members stranger =>
      obtain ⟨name, kind, rest, rfl, member, -⟩ := exists_of_mem_fieldPaths known
      have other : name ≠ key := by
        rintro rfl
        exact stranger (List.mem_map_of_mem member)
      simp [Value.leaves, mem_leavesOf, other]
  | @inside fields key left right members _ inductionHypothesis =>
      obtain ⟨name, kind, rest, rfl, member, known⟩ := exists_of_mem_fieldPaths known
      by_cases same : name = key
      · subst same
        have same := inductionHypothesis kind member known
        simp [Value.leaves, mem_leavesOf, or_and_right, exists_or, same]
      · simp [Value.leaves, mem_leavesOf, same]

/-- Values of a kind that are alike have the same under each path that the kind knows. -/
theorem Alike.at?_eq (alike : Alike kind left right) (leftFits : kind.fits left = true)
    (rightFits : kind.fits right = true) (known : path ∈ kind.paths) :
    left.at? path = right.at? path := by
  ext leaf
  rw [(kind.clear leftFits path known).at?_eq_some_iff,
    (kind.clear rightFits path known).at?_eq_some_iff, alike.mem_leaves known]

end Alike

end TagFix.Json
