import TagFix.Link.Operation

/-!
A simulated link. It records the operations that it is asked for, and can answer each of them at
once as a healthy tag would.
-/

namespace TagFix.Link

/-- The state of a simulated link. -/
structure Simulated where
  /-- The device that a scan discovers; without one, no operation is answered. -/
  advertised : Option String
  /-- Whether anyone still takes the events. -/
  isOpen : Bool
  subscription : Option Epoch
  /-- What the next reads return. -/
  payloads : List (List UInt8)
  issued : List Operation
  /-- The events that were not taken yet, oldest first. -/
  events : List Event
deriving Repr

namespace Simulated

/-- A link that answers as a tag of the given identifier, or not at all. -/
def fresh (advertised : Option String) : Simulated :=
  ⟨advertised, true, none, [], [], []⟩

def queuePayload (link : Simulated) (payload : List UInt8) : Simulated :=
  { link with payloads := link.payloads ++ [payload] }

/-- The link when nobody takes its events any more. -/
def close (link : Simulated) : Simulated :=
  { link with isOpen := false, events := [] }

def canSend (link : Simulated) : Bool :=
  link.isOpen && link.advertised.isSome

def send (link : Simulated) (event : Event) : Simulated :=
  if link.canSend then { link with events := link.events ++ [event] } else link

def answer? (link : Simulated) : Operation → Option Event
  | .checkAdapter epoch => some ⟨epoch, .adapterState true⟩
  | .startScan epoch => link.advertised.map fun device => ⟨epoch, .deviceDiscovered device⟩
  | .stopScan => none
  | .connect _ epoch => some ⟨epoch, .connected⟩
  | .disconnect _ epoch => some ⟨epoch, .disconnected⟩
  | .startNotification _ _ epoch => some ⟨epoch, .subscribed⟩
  | .read _ _ epoch =>
      match link.payloads with
      | data :: _ => some ⟨epoch, .readCompleted data⟩
      | [] => some ⟨epoch, .readFailed "no data queued"⟩
  | .write _ _ _ epoch => some ⟨epoch, .writeCompleted⟩

/-- What an operation changes besides its answer. -/
def effect (link : Simulated) : Operation → Simulated
  | .disconnect .. => { link with subscription := none }
  | .startNotification _ _ epoch => { link with subscription := some epoch }
  | .read .. => { link with payloads := link.payloads.tail }
  | _ => link

def perform (link : Simulated) (operation : Operation) : Simulated :=
  let after := { link.effect operation with issued := link.issued ++ [operation] }
  match link.answer? operation with
  | some event => after.send event
  | none => after

/-- The tag tells of news; whether anyone heard it. -/
def notify (link : Simulated) : Simulated × Bool :=
  match link.subscription with
  | some epoch => (link.send ⟨epoch, .notification⟩, link.canSend)
  | none => (link, false)

/-- The tag drops the link; whether anyone heard it. -/
def drop (link : Simulated) (reason : String) : Simulated × Bool :=
  match link.subscription with
  | some epoch =>
      (({ link with subscription := none }).send ⟨epoch, .linkLost reason⟩, link.canSend)
  | none => (link, false)

def takeEvents (link : Simulated) : Simulated × List Event :=
  ({ link with events := [] }, link.events)

end Simulated

end TagFix.Link
