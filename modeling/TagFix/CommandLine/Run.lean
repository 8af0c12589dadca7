import TagFix.Anchor.Refresh
import TagFix.CommandLine.Arguments
import TagFix.Config.Document
import TagFix.Engine.Simulation

/-!
A run of the session simulator: a simulated tag walks past the anchors of a directory and sends range
reports, and everything that the engine tells is printed.
-/

namespace TagFix.CommandLine

open Engine (Notice Simulation)
open TagFix.Position (Point)

inductive Action
  | print (line : String)
  /-- Prints a report with the time at which it is printed. -/
  | report (report : Position.Report)
  | pause (milliseconds : Nat)

/-- What a run does, and how it ends. -/
structure Outcome where
  actions : List Action
  exitCode : Nat
  failure : Option String

def reportLine (report : Position.Report) (time : String) : String :=
  "[report] " ++ report.json time

def shown : Notice → List Action
  | .status text => [.print ("[status] " ++ text)]
  | .location text => [.print ("[location] " ++ text)]
  | .position report => [.report report]
  | .forwarded reasonCode payload =>
      [.print ("[forwarded] reason " ++ toString reasonCode.toNat ++ " (" ++
        toString payload.length ++ " bytes)")]
  | .phaseChanged .. | .settled .. => []

/-- The end of a run that has failed, for a reason and maybe a deeper cause, of which all lines are
indented. -/
def fail (message : String) (cause : Option String) (done : List Action) : Outcome :=
  let detail := match cause with
    | some cause => "\n\nCaused by:\n    " ++ "\n    ".intercalate (cause.splitOn "\n")
    | none => ""
  ⟨done, 1, some ("Error: " ++ message ++ detail ++ "\n")⟩

def refreshText : Anchor.RefreshOutcome → String
  | .updated anchors rejected =>
      "Updated \x7b anchors: " ++ toString anchors ++ ", rejected: " ++ toString rejected ++ " \x7d"
  | .unchanged => "Unchanged"
  | .failed text => "Failed(" ++ Text.quoted text ++ ")"
  | .timedOut => "TimedOut"

def rangeReport (directory : Directory) (tag : Point Float) : List UInt8 :=
  Telemetry.encode (directory.ascending.map fun (id, place) => (id, (tag - place).norm))

/-- Where the tag is after some steps of its walk. -/
def place (start : Point Float) (step : Nat) : Point Float :=
  start + ⟨0.25 * Float.ofNat step, 0.1 * Float.ofNat step, 0⟩

/-- A simulation in the course of a run, and what was done so far. -/
structure Progress where
  simulation : Simulation
  actions : List Action

def Progress.to (progress : Progress) (after : Simulation) : Progress :=
  let told := after.log.drop progress.simulation.log.length
  ⟨after, progress.actions ++ told.flatMap shown⟩

def Progress.step (directory : Directory) (arguments : Arguments) (progress : Progress)
    (step : Nat) : Progress :=
  let payload := rangeReport directory (place arguments.start step)
  let (after, heard) := progress.simulation.onLink fun link => (link.queuePayload payload).notify
  let progress := progress.to after
  if heard then { progress with actions := progress.actions ++ [.pause arguments.interval] }
  else progress

def closingLine (counters : Session.Counters) : String :=
  "Session finished: " ++ toString counters.payloads ++ " payloads, " ++
    toString counters.readFailures ++ " read failures, " ++ toString counters.linkDrops ++
    " link drops"

/-- A session from its start to its end. `now` is the time by which the tag sets its clock. -/
def session (arguments : Arguments) (settings : Config.Settings) (directory : Directory)
    (now : Int) : Outcome :=
  let device : Device := ⟨arguments.deviceId, arguments.deviceName⟩
  let engine := Engine.fresh device (some directory) settings
  let begun : Progress := ⟨Simulation.fresh engine arguments.deviceId, []⟩
  let ask := fun (progress : Progress) (request : Engine.Request) =>
    progress.to (progress.simulation.request request).1
  let started := ask begun .start
  if started.simulation.engine.session.phase ≠ .subscribed then
    fail "timed out waiting for Subscribed" (some "deadline has elapsed") started.actions
  else
    let assigned := ask started (.send (.assignRole .mobile now) none)
    let walked := (List.range arguments.fixes).foldl
      (Progress.step directory arguments) assigned
    let ended := ask walked .disconnect
    let counters := ended.simulation.engine.session.counters
    ⟨ended.actions ++ [.print (closingLine counters)], 0, none⟩

/-- A run with its settings: the directory is loaded first. -/
def runWith (arguments : Arguments) (settings : Config.Settings)
    (files : String → Except File.Fault String) (now : Int) : Outcome :=
  let file := files arguments.anchors
  let (outcome, directory) := Anchor.adopt none (Anchor.fetchFile arguments.anchors file)
  match outcome, directory with
  | .updated .., some directory =>
      match Engine.queueCapacity? settings.eventQueueCapacity with
      | some _ => session arguments settings directory now
      | none => ⟨[], 101, some "the request queue is too large\n"⟩
  | outcome, _ =>
      fail ("could not load anchors from " ++ arguments.anchors ++ ": " ++ refreshText outcome)
        none []

def run (arguments : Arguments) (files : String → Except File.Fault String) (now : Int) :
    Outcome :=
  let loaded := match arguments.config with
    | some path => (Config.Settings.load path (files path)).mapError fun failure => (path, failure)
    | none => .ok {}
  match loaded with
  | .error (path, failure) =>
      fail ("loading configuration from " ++ path) (some failure.message) []
  | .ok settings =>
      if arguments.printConfig then ⟨[.print settings.print], 0, none⟩
      else runWith arguments settings files now

def usage : String :=
  "Usage: [-c FILE] [-a FILE] [--device-id ID] [--device-name NAME] [-n COUNT] " ++
    "[--interval-ms MS] [--start X Y Z] [--print-config]"

def refused : Refusal → Outcome
  | .help => ⟨[.print usage], 0, none⟩
  | .version => ⟨[.print "0.1.0"], 0, none⟩
  | .misuse => ⟨[], 2, some (usage ++ "\n")⟩

/-- What a command line comes to. -/
def outcome (arguments : List String) (files : String → Except File.Fault String) (now : Int) :
    Outcome :=
  match Arguments.read arguments with
  | .ok arguments => run arguments files now
  | .error refusal => refused refusal

end TagFix.CommandLine
