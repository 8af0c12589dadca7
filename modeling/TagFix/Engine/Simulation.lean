import TagFix.Engine.Machine
import TagFix.Link.Simulated

/-!
An engine that runs against a simulated link. After each request everything that follows from it is
carried out before anything else happens; only pauses are left to wait for.
-/

namespace TagFix.Engine

open Link (Simulated)

/-- An engine with its link, the time, and what the host was told so far. -/
structure Simulation where
  engine : Engine
  link : Simulated
  now : Nat
  /-- Whether the engine still takes requests. -/
  running : Bool
  log : List Notice

namespace Simulation

/-- An engine at time zero, on a link that answers as the advertised device. -/
def fresh (engine : Engine) (advertised : String) : Simulation :=
  ⟨engine, Simulated.fresh (some advertised), 0, true, []⟩

def carryOut (simulation : Simulation) (turn : Turn) : Simulation :=
  { simulation with
    engine := turn.engine
    link := turn.issued.foldl Simulated.perform simulation.link
    log := simulation.log ++ turn.notices }

def deliver (simulation : Simulation) : Option Simulation :=
  match simulation.link.events with
  | [] => none
  | event :: rest =>
      let taken := { simulation with link := { simulation.link with events := rest } }
      some (taken.carryOut (taken.engine.handle event taken.now))

def deliverAll : Nat → Simulation → Simulation
  | 0, simulation => simulation
  | fuel + 1, simulation =>
      match simulation.deliver with
      | none => simulation
      | some after => deliverAll fuel after

/-- Delivers events until none waits. An event starts a chain of at most four answers, from the
adapter check to the subscription, or one read and another for a notification that came meanwhile. -/
def settle (simulation : Simulation) : Simulation :=
  deliverAll (8 * (simulation.link.events.length + 1)) simulation

def stop (simulation : Simulation) : Simulation :=
  { simulation with running := false, link := simulation.link.close }

/-- Makes a request; whether it was taken. -/
def request (simulation : Simulation) (request : Request) : Simulation × Bool :=
  if simulation.running then
    match simulation.engine.serve request with
    | some turn => ((simulation.carryOut turn).settle, true)
    | none => (simulation.stop, true)
  else (simulation, false)

/-- Changes the link outside of the engine, which then deals with what comes of it. -/
def onLink (simulation : Simulation) (change : Simulated → Simulated × Bool) : Simulation × Bool :=
  let (link, heard) := change simulation.link
  (({ simulation with link }).settle, heard)

def setDirectory (simulation : Simulation) (directory : Directory) : Simulation :=
  { simulation with engine := { simulation.engine with directory := some directory } }

/-- Lets time pass from deadline to deadline, at most `fuel` of them, until a phase is reached. -/
def waitFor (phase : Session.Phase) : Nat → Simulation → Simulation
  | 0, simulation => simulation
  | fuel + 1, simulation =>
      if simulation.engine.session.phase = phase then simulation
      else
        match simulation.engine.session.deadline with
        | none => simulation
        | some deadline =>
            let later := { simulation with now := max simulation.now deadline.due }
            waitFor phase fuel ((later.carryOut (later.engine.poll later.now)).settle)

end Simulation

end TagFix.Engine
