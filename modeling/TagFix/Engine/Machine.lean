import TagFix.Command
import TagFix.Engine.Notice
import TagFix.Session.Machine
import TagFix.Telemetry.Outcome

/-!
The engine: a session whose payloads become positions and whose writes are commands. Like a session
it is a value, and each call gives a turn. At most one command is under way at a time, and the host
hears of its outcome once.
-/

namespace TagFix

open Engine (Notice Ticket)
open Link (Event Failure Operation)

/-- A session together with what it takes to solve positions, and the command under way. -/
structure Engine where
  session : Session
  minRanges : Nat
  solver : Position.Solver Float
  directory : Option Directory
  /-- The command under way, and the ticket of a host that waits for its outcome. -/
  pending : Option (Command × Option Ticket)

namespace Engine

def fresh (device : Device) (directory : Option Directory) (settings : Config.Settings) : Engine :=
  { session := Session.fresh device settings.retry
    minRanges := settings.minRanges.toNat
    solver := settings.solver.solver
    directory
    pending := none }

/-- The engine after a call, the operations that the link is asked for and what the host is told. -/
structure Turn where
  engine : Engine
  issued : List Operation
  notices : List Notice

/-! ## What the host is told -/

def notSent : String := "ERROR: could not send information to device!"

def outcomeNotices (device : Device) : Except Telemetry.DecodeFault Telemetry.Outcome → List Notice
  | .ok (.position fix) => [.location fix.location, .position (.of device fix)]
  | .ok .noRanges => [.location "Didn't get any ranges."]
  | .ok .directoryUnavailable => [.location "Waiting for anchor locations"]
  | .ok (.insufficientRanges valid required) =>
      [.location ("Only " ++ toString valid ++ " of " ++ toString required ++ " required ranges")]
  | .ok (.forwarded reasonCode payload) => [.forwarded reasonCode payload]
  | .ok (.solveFailed failure) => [.status ("Could not compute position: " ++ failure.message)]
  | .error fault => [.status ("Bad telemetry: " ++ fault.message)]

/-- What the host is told of a payload, judged by the directory of the moment. -/
def payloadNotices (engine : Engine) (payload : List UInt8) : List Notice :=
  outcomeNotices engine.session.device
    (Telemetry.process engine.minRanges engine.solver engine.directory payload)

/-- The settling of a command, where a host waits for it. -/
def settledNotice (ticket : Option Ticket) (result : Except Failure Unit) : List Notice :=
  match ticket with
  | some ticket => [.settled ticket result]
  | none => []

/-- What the host is told when the write of the command under way has ended. -/
def writeNotices (engine : Engine) (result : Except Failure Unit) : List Notice :=
  match engine.pending with
  | none => []
  | some (_, ticket) =>
      let text := match result with
        | .ok () => "Sent information to device"
        | .error _ => notSent
      .status text :: settledNotice ticket result

def Turn.pass (turn : Turn) (output : Session.Output) : Turn :=
  let tell := fun notices : List Notice => { turn with notices := turn.notices ++ notices }
  match output with
  | .phaseChanged before after => tell [.phaseChanged before after]
  | .status text => tell [.status text]
  | .payload data => tell (turn.engine.payloadNotices data)
  | .writeFinished result =>
      let told := tell (turn.engine.writeNotices result)
      { told with engine := { told.engine with pending := none } }
  | .faulted _ => turn

/-- The turn of the engine that a turn of its session gives. -/
def dispatch (engine : Engine) (turn : Session.Turn) : Turn :=
  turn.outputs.foldl Turn.pass ⟨{ engine with session := turn.session }, turn.issued, []⟩

/-! ## Calls -/

def start (engine : Engine) : Turn :=
  engine.dispatch engine.session.start

def disconnect (engine : Engine) : Turn :=
  engine.dispatch engine.session.requestDisconnect

def handle (engine : Engine) (event : Event) (now : Nat) : Turn :=
  engine.dispatch (engine.session.handle event now)

def poll (engine : Engine) (now : Nat) : Turn :=
  engine.dispatch (engine.session.poll now)

/-- Sends a command to the tag. A command that is refused is settled at once. -/
def send (engine : Engine) (command : Command) (ticket : Option Ticket) :
    Turn × Except Session.Refusal Unit :=
  match engine.session.write command.characteristic command.encode with
  | .ok turn =>
      let turn := engine.dispatch turn
      ({ turn with engine := { turn.engine with pending := some (command, ticket) } }, .ok ())
  | .error refusal =>
      (⟨engine, [],
        .status notSent ::
          settledNotice ticket (.error ⟨.write, .transient, refusal.message⟩)⟩,
        .error refusal)

/-! ## Requests -/

inductive Request
  | start
  | disconnect
  | send (command : Command) (ticket : Option Ticket)
  | shutdown
deriving DecidableEq, Repr

/-- The turn of a request; `none` for the one that ends the engine. -/
def serve (engine : Engine) : Request → Option Turn
  | .start => some engine.start
  | .disconnect => some engine.disconnect
  | .send command ticket => some (engine.send command ticket).1
  | .shutdown => none

def mostWaiting : Nat := 2305843009213693951

/-- The number of requests that may wait where so many are configured: at least one. There is no
queue for more than can be made. -/
def queueCapacity? (configured : UInt64) : Option Nat :=
  let capacity := max configured.toNat 1
  if capacity ≤ mostWaiting then some capacity else none

/-- What wakes an engine: an event, a request or the end of all requests, or its deadline. -/
inductive Stimulus
  | event (event : Event) (now : Nat)
  | request (request : Option Request)
  | deadline (now : Nat)
deriving DecidableEq, Repr

def react (engine : Engine) : Stimulus → Option Turn
  | .event event now => some (engine.handle event now)
  | .request (some request) => engine.serve request
  | .request none => none
  | .deadline now => some (engine.poll now)

/-- The turns of a sequence of stimuli, up to the one that ends the engine. -/
def run (engine : Engine) : List Stimulus → List Turn
  | [] => []
  | stimulus :: stimuli =>
      match engine.react stimulus with
      | none => []
      | some turn => turn :: turn.engine.run stimuli

end Engine

end TagFix
