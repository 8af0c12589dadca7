import TagFix.Decimal.Numeral
import TagFix.Position.Point

/-!
The arguments of the session simulator.

An option is given by its long name or its letter, and its value follows as the next argument or in
the same one. A value does not start with a dash, apart from a lone one. Options with one value and
flags may be given once.
-/

namespace TagFix.CommandLine

open TagFix.Position (Point)

/-- What the simulator is asked to do. -/
structure Arguments where
  /-- The file with the settings; without it the defaults are used. -/
  config : Option String := none
  anchors : String := "demos/anchors.json"
  deviceId : String := "c0:98:e5:42:00:00:00:01"
  deviceName : String := "TotTag"
  /-- How many range reports are replayed. -/
  fixes : Nat := 5
  /-- The pause after each report in milliseconds. -/
  interval : Nat := 200
  start : Point Float := ⟨1.0, 1.0, 0.5⟩
  printConfig : Bool := false
deriving Repr

/-- What a command line asks for instead of a run. -/
inductive Refusal
  | help
  | version
  | misuse
deriving DecidableEq, Repr

inductive Name
  | config
  | anchors
  | deviceId
  | deviceName
  | fixes
  | interval
  | start
  | printConfig
  | help
  | version
deriving DecidableEq, Repr

def Name.ofLong? : String → Option Name
  | "config" => some .config
  | "anchors" => some .anchors
  | "device-id" => some .deviceId
  | "device-name" => some .deviceName
  | "fixes" => some .fixes
  | "interval-ms" => some .interval
  | "start" => some .start
  | "print-config" => some .printConfig
  | "help" => some .help
  | "version" => some .version
  | _ => none

def Name.ofLetter? : Char → Option Name
  | 'c' => some .config
  | 'a' => some .anchors
  | 'n' => some .fixes
  | 'h' => some .help
  | 'V' => some .version
  | _ => none

def Name.valueCount : Name → Nat
  | .start => 3
  | .printConfig | .help | .version => 0
  | _ => 1

/-- An option as it was given, with its values. -/
structure Given where
  name : Name
  values : List String
deriving Repr

/-- Whether an argument is an option and no value: it has a dash and something behind it. -/
def isOption (argument : String) : Bool :=
  match argument.toList with
  | '-' :: _ :: _ => true
  | _ => false

/-- An option with the values that follow it, of which there must be enough. -/
def withValues (name : Name) (rest : List String) : Except Refusal (Given × List String) :=
  let values := (rest.take name.valueCount).takeWhile fun argument => !isOption argument
  if values.length = name.valueCount then .ok (⟨name, values⟩, rest.drop name.valueCount)
  else .error .misuse

/-- An option whose value stands in the same argument. -/
def withAttached (name : Name) (value : List Char) (rest : List String) :
    Except Refusal (Given × List String) :=
  if name.valueCount = 1 then .ok (⟨name, [String.ofList value]⟩, rest) else .error .misuse

def nextOption (argument : String) (rest : List String) :
    Except Refusal (Given × List String) :=
  match argument.toList with
  | '-' :: '-' :: body =>
      let long := body.takeWhile (· ≠ '=')
      match Name.ofLong? (String.ofList long), body.dropWhile (· ≠ '=') with
      | none, _ => .error .misuse
      | some name, [] => withValues name rest
      | some name, _ :: value => withAttached name value rest
  | '-' :: letter :: body =>
      match Name.ofLetter? letter, body with
      | none, _ => .error .misuse
      | some name, [] => withValues name rest
      | some name, '=' :: value => withAttached name value rest
      | some name, value =>
          if name.valueCount = 0 then .ok (⟨name, []⟩, rest) else withAttached name value rest
  | _ => .error .misuse

def natural (value : String) : Except Refusal Nat :=
  match Decimal.natural? value.toList with
  | some n => if n < UInt64.size then .ok n else .error .misuse
  | none => .error .misuse

def coordinate (value : String) : Except Refusal Float :=
  match Decimal.float? value.toList with
  | some x => .ok x
  | none => .error .misuse

def path (value : String) : Except Refusal String :=
  if value.isEmpty then .error .misuse else .ok value

/-- Takes an option over. Of several starts the first one counts. -/
def Arguments.take (arguments : Arguments) (isRepeated : Bool) :
    Given → Except Refusal Arguments
  | ⟨.help, _⟩ => .error .help
  | ⟨.version, _⟩ => .error .version
  | ⟨.config, [value]⟩ => do .ok { arguments with config := some (← path value) }
  | ⟨.anchors, [value]⟩ => do .ok { arguments with anchors := ← path value }
  | ⟨.deviceId, [value]⟩ => .ok { arguments with deviceId := value }
  | ⟨.deviceName, [value]⟩ => .ok { arguments with deviceName := value }
  | ⟨.fixes, [value]⟩ => do .ok { arguments with fixes := ← natural value }
  | ⟨.interval, [value]⟩ => do .ok { arguments with interval := ← natural value }
  | ⟨.start, [x, y, z]⟩ => do
      let start := ⟨← coordinate x, ← coordinate y, ← coordinate z⟩
      .ok (if isRepeated then arguments else { arguments with start })
  | ⟨.printConfig, _⟩ => .ok { arguments with printConfig := true }
  | _ => .error .misuse

/-- Reads the options one after another; `seen` are those that were given. The fuel bounds their
number. -/
def readOptions : Nat → List Name → Arguments → List String → Except Refusal Arguments
  | _, _, arguments, [] => .ok arguments
  | 0, _, _, _ => .error .misuse
  | fuel + 1, seen, arguments, argument :: rest =>
      if argument = "--" then
        if rest.isEmpty then .ok arguments else .error .misuse
      else
        match nextOption argument rest with
        | .error refusal => .error refusal
        | .ok (given, rest) =>
            let isRepeated := seen.contains given.name
            match arguments.take isRepeated given with
            | .error refusal => .error refusal
            | .ok arguments =>
                if isRepeated && given.name ≠ .start then .error .misuse
                else readOptions fuel (given.name :: seen) arguments rest

def Arguments.read (arguments : List String) : Except Refusal Arguments :=
  readOptions arguments.length [] {} arguments

end TagFix.CommandLine
