import TagFix.Proofs.Config.RoundTrip
import TagFix.Proofs.Json.Members

/-!
# Documents over the defaults

A document may have any part of the settings, in any order and among members that are no settings.
What is loaded are the default settings with those of the document in their place, if they make
sense together.
-/

namespace TagFix.Config

open TagFix.Json (Alike Blanks Cursor Field Gives Kind Makes Spells Value)

/-! ## The settings of a document -/

def Retry.kinds : List (String × Kind) :=
  [("max_consecutive_failures", .natural UInt32.size),
    ("base_backoff_ms", .natural UInt64.size),
    ("max_backoff_ms", .natural UInt64.size),
    ("scan_timeout_ms", .natural UInt64.size),
    ("connect_timeout_ms", .natural UInt64.size)]

def Solve.kinds : List (String × Kind) :=
  [("max_iterations", .natural UInt64.size),
    ("step_tolerance_m", .float),
    ("gradient_tolerance", .float),
    ("initial_damping", .float)]

def Refresh.kinds : List (String × Kind) :=
  [("enabled", .boolean),
    ("initial_delay_ms", .natural UInt64.size),
    ("interval_ms", .natural UInt64.size),
    ("fetch_timeout_ms", .natural UInt64.size)]

def Settings.kinds : List (String × Kind) :=
  [("min_ranges", .natural UInt64.size),
    ("event_queue_capacity", .natural UInt64.size),
    ("retry", .record Retry.kinds),
    ("solver", .record Solve.kinds),
    ("refresh", .record Refresh.kinds)]

def Settings.kind : Kind :=
  .record Settings.kinds

def word? (value : Value) : Option UInt64 :=
  (value.natural? UInt64.size).map Nat.toUInt64

def halfWord? (value : Value) : Option UInt32 :=
  (value.natural? UInt32.size).map Nat.toUInt32

/-- What a document has under a path, or the default if it has nothing there. -/
def setting {α : Type} (read : Value → Option α) (document : Value) (path : List String)
    (default : α) : α :=
  ((document.at? path).bind read).getD default

def Retry.overridden (document : Value) (path : List String) : Retry :=
  let default : Retry := {}
  { maxConsecutiveFailures := setting halfWord? document (path ++ ["max_consecutive_failures"])
      default.maxConsecutiveFailures
    baseBackoff := setting word? document (path ++ ["base_backoff_ms"]) default.baseBackoff
    maxBackoff := setting word? document (path ++ ["max_backoff_ms"]) default.maxBackoff
    scanTimeout := setting word? document (path ++ ["scan_timeout_ms"]) default.scanTimeout
    connectTimeout := setting word? document (path ++ ["connect_timeout_ms"])
      default.connectTimeout }

def Solve.overridden (document : Value) (path : List String) : Solve :=
  let default : Solve := {}
  { maxIterations := setting word? document (path ++ ["max_iterations"]) default.maxIterations
    stepTolerance := setting Value.float? document (path ++ ["step_tolerance_m"])
      default.stepTolerance
    gradientTolerance := setting Value.float? document (path ++ ["gradient_tolerance"])
      default.gradientTolerance
    initialDamping := setting Value.float? document (path ++ ["initial_damping"])
      default.initialDamping }

def Refresh.overridden (document : Value) (path : List String) : Refresh :=
  let default : Refresh := {}
  { enabled := setting Value.boolean? document (path ++ ["enabled"]) default.enabled
    initialDelay := setting word? document (path ++ ["initial_delay_ms"]) default.initialDelay
    interval := setting word? document (path ++ ["interval_ms"]) default.interval
    fetchTimeout := setting word? document (path ++ ["fetch_timeout_ms"]) default.fetchTimeout }

/-- The default settings with those of a document in their place. -/
def Settings.overridden (document : Value) : Settings :=
  let default : Settings := {}
  { minRanges := setting word? document ["min_ranges"] default.minRanges
    eventQueueCapacity := setting word? document ["event_queue_capacity"]
      default.eventQueueCapacity
    retry := Retry.overridden document ["retry"]
    solver := Solve.overridden document ["solver"]
    refresh := Refresh.overridden document ["refresh"] }

/-! ## One more member -/

section Members

variable (members : List (String × Value)) (key name : String) (value : Value)
  (path : List String)

theorem setting_nil {α : Type} (read : Value → Option α) (default : α) :
    setting read value [] default = (read value).getD default :=
  rfl

/-- The last member of a key counts for what is under the key. -/
theorem setting_concat {α : Type} (read : Value → Option α) (default : α) :
    setting read (.object (members ++ [(key, value)])) (name :: path) default =
      if key = name then setting read value path default
      else setting read (.object members) (name :: path) default := by
  rw [setting, Value.at?, Json.member?_concat]
  split <;> rfl

/-- A member put behind the others decides about what it names, and leaves the rest. -/
theorem Retry.overridden_concat :
    Retry.overridden (.object (members ++ [(key, value)])) (name :: path) =
      if key = name then Retry.overridden value path
      else Retry.overridden (.object members) (name :: path) := by
  simp only [Retry.overridden, List.cons_append, setting_concat]
  split <;> rfl

theorem Solve.overridden_concat :
    Solve.overridden (.object (members ++ [(key, value)])) (name :: path) =
      if key = name then Solve.overridden value path
      else Solve.overridden (.object members) (name :: path) := by
  simp only [Solve.overridden, List.cons_append, setting_concat]
  split <;> rfl

theorem Refresh.overridden_concat :
    Refresh.overridden (.object (members ++ [(key, value)])) (name :: path) =
      if key = name then Refresh.overridden value path
      else Refresh.overridden (.object members) (name :: path) := by
  simp only [Refresh.overridden, List.cons_append, setting_concat]
  split <;> rfl

end Members

/-! ## Reading -/

section Values

variable {value : Value} {text : List Char}

private theorem exists_word (wanted : String) (fits : (Kind.natural UInt64.size).fits value = true)
    (spells : Spells value text) :
    ∃ found, word? value = some found ∧ Gives (readWord wanted) text (some found) := by
  obtain ⟨n, typed⟩ := Option.isSome_iff_exists.mp fits
  refine ⟨n.toUInt64, ?_, (spells.natural wanted typed).map Nat.toUInt64⟩
  rw [word?, typed, Option.map_some]

private theorem exists_halfWord (fits : (Kind.natural UInt32.size).fits value = true)
    (spells : Spells value text) :
    ∃ found, halfWord? value = some found ∧ Gives readHalfWord text (some found) := by
  obtain ⟨n, typed⟩ := Option.isSome_iff_exists.mp fits
  refine ⟨n.toUInt32, ?_, (spells.natural "u32" typed).map Nat.toUInt32⟩
  rw [halfWord?, typed, Option.map_some]

private theorem exists_double (fits : Kind.float.fits value = true) (spells : Spells value text) :
    ∃ found, value.float? = some found ∧ Gives readDouble text (some found) := by
  obtain ⟨x, typed⟩ := Option.isSome_iff_exists.mp fits
  exact ⟨x, typed, spells.float "f64" typed⟩

private theorem exists_flag (fits : Kind.boolean.fits value = true) (spells : Spells value text) :
    ∃ found, value.boolean? = some found ∧
      Gives (Json.readBoolean "a boolean") text (some found) := by
  obtain ⟨flag, typed⟩ := Option.isSome_iff_exists.mp fits
  exact ⟨flag, typed, spells.boolean "a boolean" typed⟩

end Values

/-- A field reads the values of a kind if its value can be read and is kept in its place. -/
theorem reads_of {σ α : Type} {reader : Value → Option α} {kind : Kind}
    {made : List (String × Value) → σ} {read : Cursor → Except Json.Fault (α × Cursor)}
    {keep : σ → α → σ} {name : String}
    (exists_found : ∀ {value text}, kind.fits value = true → Spells value text →
      ∃ found, reader value = some found ∧ Gives read text (some found))
    (kept : ∀ past value found, reader value = some found →
      keep (made past) found = made (past ++ [(name, value)])) :
    Field.Reads made (Field.of name read keep) (name, kind) := by
  refine ⟨rfl, ?_⟩
  intro past value text fits spells
  obtain ⟨found, known, gives⟩ := exists_found fits spells
  rw [← kept past value found known]
  exact gives.of name keep (made past)

private theorem Retry.makes :
    Makes Retry.shape.fields Retry.kinds fun members => Retry.overridden (.object members) [] where
  known := by
    refine .cons (reads_of exists_halfWord ?_) <| .cons (reads_of (exists_word _) ?_) <|
      .cons (reads_of (exists_word _) ?_) <| .cons (reads_of (exists_word _) ?_) <|
        .cons (reads_of (exists_word _) ?_) .nil
    all_goals
      intro past value found known
      simp [Retry.overridden, setting_concat, setting_nil, known]
  unknown past key value stranger := by
    simp only [Retry.kinds, List.map_cons, List.map_nil, List.mem_cons, not_or] at stranger
    simp [Retry.overridden, setting_concat, stranger]

private theorem Solve.makes :
    Makes Solve.shape.fields Solve.kinds fun members => Solve.overridden (.object members) [] where
  known := by
    refine .cons (reads_of (exists_word _) ?_) <| .cons (reads_of exists_double ?_) <|
      .cons (reads_of exists_double ?_) <| .cons (reads_of exists_double ?_) .nil
    all_goals
      intro past value found known
      simp [Solve.overridden, setting_concat, setting_nil, known]
  unknown past key value stranger := by
    simp only [Solve.kinds, List.map_cons, List.map_nil, List.mem_cons, not_or] at stranger
    simp [Solve.overridden, setting_concat, stranger]

private theorem Refresh.makes :
    Makes Refresh.shape.fields Refresh.kinds fun members =>
      Refresh.overridden (.object members) [] where
  known := by
    refine .cons (reads_of exists_flag ?_) <| .cons (reads_of (exists_word _) ?_) <|
      .cons (reads_of (exists_word _) ?_) <| .cons (reads_of (exists_word _) ?_) .nil
    all_goals
      intro past value found known
      simp [Refresh.overridden, setting_concat, setting_nil, known]
  unknown past key value stranger := by
    simp only [Refresh.kinds, List.map_cons, List.map_nil, List.mem_cons, not_or] at stranger
    simp [Refresh.overridden, setting_concat, stranger]

/-- A record in a document is read over its own defaults. -/
theorem exists_record {σ : Type} {shape : Json.Shape σ} {kinds : List (String × Kind)}
    {value : Value} {text : List Char} (made : Value → σ)
    (makes : Makes shape.fields kinds fun members => made (.object members))
    (fits : (Kind.record kinds).fits value = true) (spells : Spells value text) :
    ∃ found, some (made value) = some found ∧
      Gives (shape.read (made (.object []))) text (some found) := by
  obtain ⟨members, rfl, fits⟩ := Json.exists_object fits
  exact ⟨_, rfl, makes.gives spells fits⟩

private theorem Settings.makes :
    Makes Settings.shape.fields Settings.kinds fun members =>
      Settings.overridden (.object members) where
  known := by
    refine .cons (reads_of (exists_word _) ?ranges) <| .cons (reads_of (exists_word _) ?capacity) <|
      .cons (reads_of (exists_record (Retry.overridden · []) Retry.makes) ?retry) <|
        .cons (reads_of (exists_record (Solve.overridden · []) Solve.makes) ?solver) <|
          .cons (reads_of (exists_record (Refresh.overridden · []) Refresh.makes) ?refresh) .nil
    case ranges | capacity =>
      intro past value found known
      simp [Settings.overridden, setting_concat, setting_nil, Retry.overridden_concat,
        Solve.overridden_concat, Refresh.overridden_concat, known]
    case retry | solver | refresh =>
      rintro past value found ⟨⟩
      simp [Settings.overridden, setting_concat, Retry.overridden_concat, Solve.overridden_concat,
        Refresh.overridden_concat]
  unknown past key value stranger := by
    simp only [Settings.kinds, List.map_cons, List.map_nil, List.mem_cons, not_or] at stranger
    simp [Settings.overridden, setting_concat, Retry.overridden_concat, Solve.overridden_concat,
      Refresh.overridden_concat, stranger]

/-! ## Files -/

/-- That a text is a document, with blanks around it. -/
inductive Written (document : Value) : String → Prop
  | around {before text after : List Char} (blankBefore : Blanks before)
      (spells : Spells document text) (blankAfter : Blanks after) :
      Written document (String.ofList (before ++ (text ++ after)))

section Files

variable {left right document : Value} {text : String}

private theorem Written.parse (written : Written document text)
    (fits : Settings.kind.fits document = true) (path : String) :
    Settings.parse path text = .ok (Settings.overridden document) := by
  cases written with
  | @around before text after blankBefore spells blankAfter =>
      obtain ⟨members, rfl, fits⟩ := Json.exists_object fits
      have closing : after ++ [] = after := List.append_nil after
      have ends : Json.EndsNumber (after ++ []) := blankAfter.endsNumber nofun
      rw [closing] at ends
      obtain ⟨place, read⟩ := Settings.makes.gives spells fits before after 0 blankBefore ends
      change Settings.shape.read {} _ = _ at read
      have finished : Cursor.finish ⟨after ++ [], place⟩ = .ok () := by
        rw [Cursor.finish, Json.skipBlank_append blankAfter]
        rfl
      rw [closing] at finished
      rw [Settings.parse, Json.Shape.readText, String.toList_ofList, Cursor.start, read]
      simp only [bind, Except.bind, finished]
      rfl

/-- Documents that are alike stand for the same settings. -/
theorem overridden_eq_of_alike (alike : Alike Settings.kind left right)
    (leftFits : Settings.kind.fits left = true) (rightFits : Settings.kind.fits right = true) :
    Settings.overridden left = Settings.overridden right := by
  have same : ∀ path ∈ Settings.kind.paths, left.at? path = right.at? path :=
    fun path known => alike.at?_eq leftFits rightFits known
  simp only [Settings.kind, Settings.kinds, Retry.kinds, Solve.kinds, Refresh.kinds, Kind.paths,
    Json.fieldPaths, List.map_cons, List.map_nil, List.cons_append, List.nil_append,
    List.append_nil, List.forall_mem_cons] at same
  simp only [Settings.overridden, Retry.overridden, Solve.overridden, Refresh.overridden, setting,
    List.cons_append, List.nil_append, same]

def loaded (path text : String) : Except FileFailure Settings :=
  Settings.load path (File.text (some text.toUTF8))

private theorem Written.loaded_eq (written : Written document text)
    (fits : Settings.kind.fits document = true) (path : String) :
    loaded path text = ((Settings.overridden document).check.mapError .invalid).map
      fun _ => Settings.overridden document := by
  rw [loaded, text_toUTF8, Settings.load, Except.mapError]
  simp only [bind, Except.bind, written.parse fits path]
  cases (Settings.overridden document).check <;> rfl

/-- From a document that has any part of the settings, the default settings with these in their
place are loaded, if they make sense. The order of its members does not matter, and neither do
members that are no settings. -/
theorem loaded_overridden (path : String) (fits : Settings.kind.fits document = true)
    (written : Written document text) :
    (loaded path text = ((Settings.overridden document).check.mapError .invalid).map
        fun _ => Settings.overridden document) ∧
      ∀ other otherText, Settings.kind.fits other = true → Written other otherText →
        Alike Settings.kind document other → loaded path otherText = loaded path text := by
  have first := written.loaded_eq fits path
  refine ⟨first, ?_⟩
  intro other otherText otherFits otherWritten alike
  have second := otherWritten.loaded_eq otherFits path
  rw [first, second, overridden_eq_of_alike alike fits otherFits]

end Files

/-- A document with two settings and a member that is none. -/
def noted : Value :=
  .object [("note", .array [.null]), ("retry", .object [("max_backoff_ms", integer 500)]),
    ("min_ranges", integer 4)]

def notedText : String :=
  "\x7b\"note\":[null],\"retry\":\x7b\"max_backoff_ms\":500\x7d,\"min_ranges\":4\x7d"

/-- The settings of `noted` in another order, and other members. -/
def jittery : Value :=
  .object [("min_ranges", integer 4),
    ("retry", .object [("jitter", .boolean true), ("max_backoff_ms", integer 500)])]

def jitteryText : String :=
  " \x7b\"min_ranges\": 4,\"retry\" :\x7b\"jitter\":true,\"max_backoff_ms\":500\x7d\x7d\n"

private theorem spells_digits {first : Char} {text : List Char} {n : Nat}
    (all : (first :: text).all Json.isDigit = true) (leading : first ≠ '0')
    (value : Json.Numeral.value ⟨false, (first :: text).map Json.digitValue, none, none⟩ =
      .ok (.whole n)) :
    Spells (integer n) (first :: text) := by
  have numeral : Json.SpellsNumeral ⟨false, (first :: text).map Json.digitValue, none, none⟩
      ([] ++ (first :: text ++ ([] ++ []))) :=
    .parts (.digits (List.all_eq_true.mp all)) (fun zero => absurd (Option.some.inj zero) leading)
      .none .none
  rw [List.append_nil, List.append_nil] at numeral
  exact .number (.numeral numeral value)

private theorem written_noted : Written noted notedText := by
  have nothing : Blanks [] := rfl
  have backoff : Spells (.object [("max_backoff_ms", integer 500)]) _ := .object <|
    .member (.first nothing) (Json.spellsText_plain rfl) nothing nothing
      (spells_digits rfl (by decide) rfl : Spells _ ['5', '0', '0']) (.done nothing)
  have spells : Spells noted _ := .object <|
    .member (.first nothing) (Json.spellsText_plain rfl) nothing nothing
      (.array (.item (.first nothing) .null (.done nothing))) <|
    .member (.comma nothing nothing) (Json.spellsText_plain rfl) nothing nothing backoff <|
    .member (.comma nothing nothing) (Json.spellsText_plain rfl) nothing nothing
      (spells_digits rfl (by decide) rfl : Spells _ ['4']) (.done nothing)
  exact .around nothing spells nothing

private theorem written_jittery : Written jittery jitteryText := by
  have nothing : Blanks [] := rfl
  have space : Blanks [' '] := rfl
  have lineBreak : Blanks ['\n'] := rfl
  have backoff : Spells (.object [("jitter", .boolean true), ("max_backoff_ms", integer 500)]) _ :=
    .object <|
      .member (.first nothing) (Json.spellsText_plain rfl) nothing nothing .yes <|
      .member (.comma nothing nothing) (Json.spellsText_plain rfl) nothing nothing
        (spells_digits rfl (by decide) rfl : Spells _ ['5', '0', '0']) (.done nothing)
  have spells : Spells jittery _ := .object <|
    .member (.first nothing) (Json.spellsText_plain rfl) nothing space
      (spells_digits rfl (by decide) rfl : Spells _ ['4']) <|
    .member (.comma nothing nothing) (Json.spellsText_plain rfl) space nothing backoff
      (.done nothing)
  exact .around space spells lineBreak

private theorem alike_noted : Alike Settings.kind noted jittery := by
  have shorter : Alike Settings.kind noted (.object [("retry", .object
      [("max_backoff_ms", integer 500)]), ("min_ranges", integer 4)]) :=
    (Alike.unknown _ _ (by decide)).symm
  have retry : ∀ kind, ("retry", kind) ∈ Settings.kinds →
      Alike kind (.object [("max_backoff_ms", integer 500)])
        (.object [("jitter", .boolean true), ("max_backoff_ms", integer 500)]) := by
    intro kind known
    obtain rfl : kind = .record Retry.kinds := by simpa [Settings.kinds] using known
    exact .unknown _ _ (by decide)
  exact shorter.trans ((Alike.inside _ retry).trans (.order (.swap _ _ [])))

theorem loaded_overridden_noted :
    loaded "config.json" notedText =
        .ok { minRanges := 4, retry := { maxBackoff := 500 } } ∧
      loaded "config.json" jitteryText =
        .ok { minRanges := 4, retry := { maxBackoff := 500 } } :=
  have both := loaded_overridden "config.json" (by decide) written_noted
  have first := both.1.trans rfl
  ⟨first, (both.2 jittery _ (by decide) written_jittery alike_noted).trans first⟩

end TagFix.Config
