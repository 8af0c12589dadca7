import TagFix.Config.Document
import TagFix.Proofs.Config.Check
import TagFix.Proofs.Decimal.Binary
import TagFix.Proofs.Json.Numeral

/-!
# Settings are loaded as they were saved

Saved settings are loaded again if they make sense, and else the same is wrong with them. Only a
double that is no finite number has no text.
-/

namespace TagFix.Config

open TagFix.Json (Cursor Gives Takes Value)

/-! ## Scalars -/

/-- That a double is read from the text that it is saved as. -/
def ReadsBack (x : Float) : Prop :=
  ∃ after, readDouble (Cursor.start (Json.printFloat x).toList) = .ok (x, ⟨[], after⟩)

private theorem printFloat_of_infinite {x : Float} (infinite : x.isFinite = false) :
    Json.printFloat x = "null" := by
  have parts := Decimal.ofFloat_eq x
  change x.toModel.unpack.isFinite = false at infinite
  rw [Json.printFloat, Decimal.Layout.finite?, parts]
  cases unpacked : x.toModel.unpack with
  | notANumber | infinity => rfl
  | zero | finite =>
      rw [unpacked] at infinite
      cases infinite

private theorem gives_word (wanted : String) (value : UInt64) (depth : Nat) :
    Gives (readWord wanted) ((integer value.toNat).indented depth).toList (some value) := by
  have gives := Json.gives_natural wanted value.toNat_lt value.toNat_lt
  have kept := gives.map Nat.toUInt64
  rwa [Option.map_some, Nat.toUInt64, UInt64.ofNat_toNat] at kept

private theorem gives_halfWord (value : UInt32) (depth : Nat) :
    Gives readHalfWord ((integer value.toNat).indented depth).toList (some value) := by
  have small : value.toNat < UInt64.size := Nat.lt_trans value.toNat_lt (by decide)
  have gives := Json.gives_natural "u32" value.toNat_lt small
  have kept := gives.map Nat.toUInt32
  rwa [Option.map_some, Nat.toUInt32, UInt32.ofNat_toNat] at kept

private theorem gives_flag (value : Bool) (depth : Nat) :
    Gives (Json.readBoolean "a boolean") ((Value.boolean value).indented depth).toList
      (some value) :=
  Json.gives_boolean "a boolean" value

private theorem gives_double {x : Float} (exact : x.isFinite = true → ReadsBack x) (depth : Nat) :
    Gives readDouble ((double x).indented depth).toList (if x.isFinite then some x else none) := by
  have number : readDouble = Json.readNumber "f64" fun number => .ok number.toFloat := rfl
  change Gives readDouble (Json.printFloat x).toList _
  cases finite : x.isFinite with
  | true =>
      obtain ⟨after, read⟩ := exact finite
      rw [number] at read ⊢
      exact Json.gives_of_readNumber read
  | false =>
      rw [printFloat_of_infinite finite, number]
      exact Json.gives_null _ _

/-! ## Records -/

private theorem gives_retry (retry : Retry) (depth : Nat) :
    Gives (Retry.shape.read {}) (retry.document.indented depth).toList (some retry) := by
  have distinct : (Retry.shape.fields.map Json.Field.name).Nodup := by decide
  refine Takes.gives ?_ distinct nofun
  apply Takes.taken rfl ((gives_halfWord _ _).of _ _ _)
  apply Takes.taken rfl ((gives_word _ _ _).of _ _ _)
  apply Takes.taken rfl ((gives_word _ _ _).of _ _ _)
  apply Takes.taken rfl ((gives_word _ _ _).of _ _ _)
  apply Takes.taken rfl ((gives_word _ _ _).of _ _ _)
  exact .done retry

private theorem gives_refresh (refresh : Refresh) (depth : Nat) :
    Gives (Refresh.shape.read {}) (refresh.document.indented depth).toList (some refresh) := by
  have distinct : (Refresh.shape.fields.map Json.Field.name).Nodup := by decide
  refine Takes.gives ?_ distinct nofun
  apply Takes.taken rfl ((gives_flag _ _).of _ _ _)
  apply Takes.taken rfl ((gives_word _ _ _).of _ _ _)
  apply Takes.taken rfl ((gives_word _ _ _).of _ _ _)
  apply Takes.taken rfl ((gives_word _ _ _).of _ _ _)
  exact .done refresh

/-- A double is taken if it is a finite number. -/
theorem takes_double {σ : Type} {fields : List (Json.Field σ)} {name : String}
    {keep : σ → Float → σ} {x : Float} {members : List (String × Value)} {record : σ}
    {final : Option σ} (depth : Nat)
    (known : (fields.find? fun field => field.name == name) =
      some (Json.Field.of name readDouble keep))
    (exact : x.isFinite = true → ReadsBack x) (infinite : x.isFinite = false → final = none)
    (later : x.isFinite = true → Takes fields depth members (keep record x) final) :
    Takes fields depth ((name, double x) :: members) record final := by
  have gives := (gives_double exact depth).of name keep record
  cases finite : x.isFinite with
  | true =>
      rw [finite] at gives
      exact .taken known gives (later finite)
  | false =>
      rw [finite] at gives
      rw [infinite finite]
      exact .faulty known gives

def Solve.doubles (solver : Solve) : List Float :=
  [solver.stepTolerance, solver.gradientTolerance, solver.initialDamping]

private theorem gives_solve (solver : Solve)
    (exact : ∀ x ∈ solver.doubles, x.isFinite = true → ReadsBack x) (depth : Nat) :
    Gives (Solve.shape.read {}) (solver.document.indented depth).toList
      (if solver.doubles.all Float.isFinite then some solver else none) := by
  have distinct : (Solve.shape.fields.map Json.Field.name).Nodup := by decide
  simp only [Solve.doubles, List.forall_mem_cons] at exact
  obtain ⟨step, gradient, damping, -⟩ := exact
  refine Takes.gives ?_ distinct nofun
  apply Takes.taken rfl ((gives_word _ _ _).of _ _ _)
  apply takes_double _ rfl step (fun infinite => by simp [Solve.doubles, infinite])
  intro stepFinite
  apply takes_double _ rfl gradient (fun infinite => by simp [Solve.doubles, infinite])
  intro gradientFinite
  apply takes_double _ rfl damping (fun infinite => by simp [Solve.doubles, infinite])
  intro dampingFinite
  have finite : solver.doubles.all Float.isFinite = true := by
    simp [Solve.doubles, stepFinite, gradientFinite, dampingFinite]
  rw [if_pos finite]
  exact .done solver

private theorem gives_settings (settings : Settings)
    (exact : ∀ x ∈ settings.solver.doubles, x.isFinite = true → ReadsBack x) (depth : Nat) :
    Gives (Settings.shape.read {}) (settings.document.indented depth).toList
      (if settings.solver.doubles.all Float.isFinite then some settings else none) := by
  have distinct : (Settings.shape.fields.map Json.Field.name).Nodup := by decide
  have solver := gives_solve settings.solver exact (depth + 1)
  refine Takes.gives ?_ distinct nofun
  apply Takes.taken rfl ((gives_word _ _ _).of _ _ _)
  apply Takes.taken rfl ((gives_word _ _ _).of _ _ _)
  apply Takes.taken rfl ((gives_retry _ _).of _ _ _)
  cases finite : settings.solver.doubles.all Float.isFinite with
  | true =>
      rw [finite] at solver
      apply Takes.taken rfl (solver.of _ _ _)
      apply Takes.taken rfl ((gives_refresh _ _).of _ _ _)
      exact .done settings
  | false =>
      rw [finite] at solver
      exact .faulty rfl (solver.of _ _ _)

/-! ## Files -/

private theorem parse_print {settings : Settings}
    (exact : ∀ x ∈ settings.solver.doubles, x.isFinite = true → ReadsBack x)
    (finite : settings.solver.doubles.all Float.isFinite = true) (path : String) :
    Settings.parse path settings.print = .ok settings := by
  have gives := gives_settings settings exact 0 [] [] 0 rfl nofun
  rw [if_pos finite] at gives
  obtain ⟨after, read⟩ := gives
  rw [List.append_nil, List.nil_append] at read
  simp only [Settings.parse, Json.Shape.readText, Settings.print, Cursor.start, read]
  rfl

private theorem parse_print_of_infinite {settings : Settings}
    (exact : ∀ x ∈ settings.solver.doubles, x.isFinite = true → ReadsBack x)
    (infinite : settings.solver.doubles.all Float.isFinite = false) (path : String) :
    ∃ problem, Settings.parse path settings.print = .error (.unparsable path problem) := by
  have gives := gives_settings settings exact 0 [] [] 0 rfl nofun
  rw [infinite] at gives
  obtain ⟨fault, read⟩ := gives
  rw [List.append_nil, List.nil_append] at read
  refine ⟨fault.message settings.print.toList, ?_⟩
  simp only [Settings.parse, Json.Shape.readText, Settings.print, Cursor.start, read]
  rfl

theorem text_toUTF8 (text : String) : File.text (some text.toUTF8) = .ok text := by
  have valid : String.fromUTF8? text.toUTF8 = some text := by
    rw [String.fromUTF8?, dif_pos (show text.toUTF8.IsValidUTF8 from text.isValidUTF8)]
    rfl
  rw [File.text, valid]

/-- What comes of settings that are saved and loaded again. -/
def reloaded (path : String) (settings : Settings) : Except FileFailure Settings :=
  (settings.save path none).bind fun text =>
    Settings.load path (File.text (some text.toUTF8))

private theorem reloaded_eq_parse (path : String) (settings : Settings) :
    reloaded path settings = (Settings.parse path settings.print).bind fun settings =>
      (settings.check.mapError .invalid).map fun _ => settings := by
  simp only [reloaded, Settings.save, Except.bind, text_toUTF8, Settings.load, Except.mapError,
    bind]
  generalize Settings.parse path settings.print = parsed
  cases parsed with
  | error failure => rfl
  | ok parsed => cases parsed.check <;> rfl

private theorem reloaded_of_finite {settings : Settings}
    (exact : ∀ x ∈ settings.solver.doubles, x.isFinite = true → ReadsBack x)
    (finite : settings.solver.doubles.all Float.isFinite = true) (path : String) :
    reloaded path settings = (settings.check.mapError .invalid).map fun _ => settings := by
  rw [reloaded_eq_parse, parse_print exact finite]
  rfl

private theorem reloaded_of_infinite {settings : Settings}
    (exact : ∀ x ∈ settings.solver.doubles, x.isFinite = true → ReadsBack x)
    (infinite : settings.solver.doubles.all Float.isFinite = false) (path : String) :
    ∃ problem, reloaded path settings = .error (.unparsable path problem) := by
  obtain ⟨problem, failed⟩ := parse_print_of_infinite exact infinite path
  refine ⟨problem, ?_⟩
  rw [reloaded_eq_parse, failed]
  rfl

private theorem isFinite_of_check {settings : Settings} (valid : settings.check = .ok ()) :
    settings.solver.doubles.all Float.isFinite = true := by
  have sensible := check_eq_ok_iff.mp valid
  simp [Solve.doubles, sensible.stepTolerance, sensible.gradientTolerance, sensible.initialDamping]

/-- Saved settings are loaded again if and only if they make sense. If they do not, the same is
wrong with them, unless a double is no finite number, and then the text cannot be read. Where the
doubles are numbers, they must be ones that are read back. -/
theorem reloaded_agrees (path : String) (settings : Settings)
    (exact : ∀ x ∈ settings.solver.doubles, x.isFinite = true → ReadsBack x) :
    (reloaded path settings = .ok settings ↔ settings.check = .ok ()) ∧
      (settings.solver.doubles.all Float.isFinite = true →
        ∀ invalid, settings.check = .error invalid →
          reloaded path settings = .error (.invalid invalid)) ∧
        (settings.solver.doubles.all Float.isFinite = false →
          ∃ problem, reloaded path settings = .error (.unparsable path problem)) := by
  refine ⟨⟨?_, ?_⟩, ?_, ?_⟩
  · intro loaded
    cases finite : settings.solver.doubles.all Float.isFinite with
    | true =>
        rw [reloaded_of_finite exact finite] at loaded
        cases checked : settings.check with
        | ok => rfl
        | error invalid =>
            rw [checked] at loaded
            cases loaded
    | false =>
        obtain ⟨problem, failed⟩ := reloaded_of_infinite exact finite path
        rw [failed] at loaded
        cases loaded
  · intro valid
    rw [reloaded_of_finite exact (isFinite_of_check valid), valid]
    rfl
  · intro finite invalid checked
    rw [reloaded_of_finite exact finite, checked]
    rfl
  · intro infinite
    exact reloaded_of_infinite exact infinite path

/-- The default doubles are read back. -/
theorem readsBack_default : ∀ x ∈ ({} : Solve).doubles, x.isFinite = true → ReadsBack x := by
  simp only [Solve.doubles, List.forall_mem_cons]
  exact ⟨fun _ => ⟨4, rfl⟩, fun _ => ⟨5, rfl⟩, fun _ => ⟨5, rfl⟩, nofun⟩

/-- A setting that makes no sense, and one that cannot be written down. -/
def undamped : Settings :=
  { minRanges := 2, solver := { initialDamping := 0 / 0 } }

private theorem readsBack_undamped :
    ∀ x ∈ undamped.solver.doubles, x.isFinite = true → ReadsBack x := by
  simp only [Solve.doubles, List.forall_mem_cons]
  exact ⟨fun _ => ⟨4, rfl⟩, fun _ => ⟨5, rfl⟩, nofun, nofun⟩

theorem reloaded_agrees_default :
    reloaded "config.json" {} = .ok {} ∧
      reloaded "config.json" { minRanges := 2 } = .error (.invalid (.tooFewRanges 2)) ∧
        ∃ problem, reloaded "config.json" undamped = .error (.unparsable "config.json" problem) :=
  have default := reloaded_agrees "config.json" {} readsBack_default
  have few := reloaded_agrees "config.json" { minRanges := 2 } readsBack_default
  have unwritten := reloaded_agrees "config.json" undamped readsBack_undamped
  ⟨default.1.mpr rfl, few.2.1 rfl _ rfl, unwritten.2.2 rfl⟩

end TagFix.Config
