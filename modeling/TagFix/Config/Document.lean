import TagFix.Config.Check
import TagFix.File
import TagFix.Json.Printer
import TagFix.Json.Record

/-!
Settings as a JSON document. A document may leave out any setting, at any level, and name unknown
ones; what is loaded is also checked.
-/

namespace TagFix.Config

open TagFix.Json (Cause Cursor Fault Field Number Shape Value)

/-! ## Writing -/

def integer (n : Nat) : Value :=
  .number (.whole n)

def double (x : Float) : Value :=
  .number (.decimal x)

def Retry.document (retry : Retry) : Value :=
  .object [("max_consecutive_failures", integer retry.maxConsecutiveFailures.toNat),
    ("base_backoff_ms", integer retry.baseBackoff.toNat),
    ("max_backoff_ms", integer retry.maxBackoff.toNat),
    ("scan_timeout_ms", integer retry.scanTimeout.toNat),
    ("connect_timeout_ms", integer retry.connectTimeout.toNat)]

def Solve.document (solver : Solve) : Value :=
  .object [("max_iterations", integer solver.maxIterations.toNat),
    ("step_tolerance_m", double solver.stepTolerance),
    ("gradient_tolerance", double solver.gradientTolerance),
    ("initial_damping", double solver.initialDamping)]

def Refresh.document (refresh : Refresh) : Value :=
  .object [("enabled", .boolean refresh.enabled),
    ("initial_delay_ms", integer refresh.initialDelay.toNat),
    ("interval_ms", integer refresh.interval.toNat),
    ("fetch_timeout_ms", integer refresh.fetchTimeout.toNat)]

def Settings.document (settings : Settings) : Value :=
  .object [("min_ranges", integer settings.minRanges.toNat),
    ("event_queue_capacity", integer settings.eventQueueCapacity.toNat),
    ("retry", settings.retry.document), ("solver", settings.solver.document),
    ("refresh", settings.refresh.document)]

/-- The text of the settings, as it is saved. -/
def Settings.print (settings : Settings) : String :=
  settings.document.indented 0

/-! ## Reading -/

/-- Reads an integer of 64 bits, under the name that messages have for its type. -/
def readWord (wanted : String) (c : Cursor) : Except Fault (UInt64 × Cursor) :=
  (Json.readNatural wanted UInt64.size c).map fun (n, after) => (n.toUInt64, after)

def readHalfWord (c : Cursor) : Except Fault (UInt32 × Cursor) :=
  (Json.readNatural "u32" UInt32.size c).map fun (n, after) => (n.toUInt32, after)

def readDuration : Cursor → Except Fault (UInt64 × Cursor) :=
  readWord "u64"

def readCount : Cursor → Except Fault (UInt64 × Cursor) :=
  readWord "usize"

def readDouble : Cursor → Except Fault (Float × Cursor) :=
  Json.readFloat "f64"

def Retry.shape : Shape Retry where
  title := "struct RetryConfig"
  fields :=
    [Field.of "max_consecutive_failures" readHalfWord
        fun record value => { record with maxConsecutiveFailures := value },
      Field.of "base_backoff_ms" readDuration
        fun record value => { record with baseBackoff := value },
      Field.of "max_backoff_ms" readDuration
        fun record value => { record with maxBackoff := value },
      Field.of "scan_timeout_ms" readDuration
        fun record value => { record with scanTimeout := value },
      Field.of "connect_timeout_ms" readDuration
        fun record value => { record with connectTimeout := value }]

def Solve.shape : Shape Solve where
  title := "struct SolverConfig"
  fields :=
    [Field.of "max_iterations" readCount
        fun record value => { record with maxIterations := value },
      Field.of "step_tolerance_m" readDouble
        fun record value => { record with stepTolerance := value },
      Field.of "gradient_tolerance" readDouble
        fun record value => { record with gradientTolerance := value },
      Field.of "initial_damping" readDouble
        fun record value => { record with initialDamping := value }]

def Refresh.shape : Shape Refresh where
  title := "struct RefreshConfig"
  fields :=
    [Field.of "enabled" (Json.readBoolean "a boolean")
        fun record value => { record with enabled := value },
      Field.of "initial_delay_ms" readDuration
        fun record value => { record with initialDelay := value },
      Field.of "interval_ms" readDuration
        fun record value => { record with interval := value },
      Field.of "fetch_timeout_ms" readDuration
        fun record value => { record with fetchTimeout := value }]

def Settings.shape : Shape Settings where
  title := "struct LocatorConfig"
  fields :=
    [Field.of "min_ranges" readCount
        fun record value => { record with minRanges := value },
      Field.of "event_queue_capacity" readCount
        fun record value => { record with eventQueueCapacity := value },
      Field.of "retry" (Retry.shape.read {})
        fun record value => { record with retry := value },
      Field.of "solver" (Solve.shape.read {})
        fun record value => { record with solver := value },
      Field.of "refresh" (Refresh.shape.read {})
        fun record value => { record with refresh := value }]

/-! ## Files -/

/-- Why settings cannot be loaded or saved. -/
inductive FileFailure
  | unreadable (path : String) (fault : File.Fault)
  | unparsable (path : String) (problem : String)
  | unwritable (path : String) (fault : File.Fault)
  | invalid (cause : Invalid)
deriving DecidableEq, Repr

def FileFailure.message : FileFailure → String
  | .unreadable path fault => "Failed to read config file '" ++ path ++ "': " ++ fault.message
  | .unparsable path problem => "Failed to parse config file '" ++ path ++ "': " ++ problem
  | .unwritable path fault => "Failed to write config file '" ++ path ++ "': " ++ fault.message
  | .invalid cause => cause.message

/-- The settings of a text, not checked yet. -/
def Settings.parse (path text : String) : Except FileFailure Settings :=
  (Settings.shape.readText {} text.toList).mapError fun fault =>
    .unparsable path (fault.message text.toList)

/-- Saves settings at a path where there is maybe a fault: the text that the file then has. -/
def Settings.save (path : String) (fault : Option File.Fault) (settings : Settings) :
    Except FileFailure String :=
  match fault with
  | some fault => .error (.unwritable path fault)
  | none => .ok settings.print

def Settings.load (path : String) (file : Except File.Fault String) :
    Except FileFailure Settings := do
  let text ← file.mapError (.unreadable path)
  let settings ← Settings.parse path text
  settings.check.mapError .invalid
  .ok settings

end TagFix.Config
