/-!
The phases of a session with the tag.
-/

namespace TagFix.Session

inductive Phase
  /-- Not started, or waiting to hear whether the adapter is on. -/
  | idle
  | scanning
  | connecting
  /-- The link is up; the subscription follows at once. -/
  | connected
  | subscribing
  | subscribed
  | awaitingRead
  | disconnecting
  /-- Ended in order. -/
  | disconnected
  /-- Given up after too many failures in a row. -/
  | faulted
deriving DecidableEq, Repr

def Phase.name : Phase → String
  | .idle => "Idle"
  | .scanning => "Scanning"
  | .connecting => "Connecting"
  | .connected => "Connected"
  | .subscribing => "Subscribing"
  | .subscribed => "Subscribed"
  | .awaitingRead => "AwaitingRead"
  | .disconnecting => "Disconnecting"
  | .disconnected => "Disconnected"
  | .faulted => "Faulted"

def Phase.isLinkUp : Phase → Bool
  | .connected | .subscribing | .subscribed | .awaitingRead => true
  | _ => false

def Phase.canStart : Phase → Bool
  | .idle | .disconnected | .faulted => true
  | _ => false

end TagFix.Session
