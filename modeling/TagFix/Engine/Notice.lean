import TagFix.Link.Failure
import TagFix.Position.Report
import TagFix.Session.Phase

/-!
What the engine tells its host.
-/

namespace TagFix.Engine

/-- What the host calls a command by whose outcome it waits for. -/
abbrev Ticket := Nat

/-- Something told to the host. -/
inductive Notice
  | status (text : String)
  | location (text : String)
  | position (report : Position.Report)
  | forwarded (reasonCode : UInt8) (payload : List UInt8)
  | phaseChanged (before after : Session.Phase)
  | settled (ticket : Ticket) (result : Except Link.Failure Unit)

/-- Whether a notice goes also to a host that shows nothing but text. -/
def Notice.isText : Notice → Bool
  | .status _ | .location _ | .settled .. => true
  | _ => false

/-- How many notices of each kind there were, and the last texts. -/
structure Summary where
  statuses : Nat := 0
  locations : Nat := 0
  positions : Nat := 0
  forwarded : Nat := 0
  transitions : Nat := 0
  lastStatus : Option String := none
  lastLocation : Option String := none
deriving DecidableEq, Repr

def Summary.add (summary : Summary) : Notice → Summary
  | .status text => { summary with statuses := summary.statuses + 1, lastStatus := some text }
  | .location text =>
      { summary with locations := summary.locations + 1, lastLocation := some text }
  | .position _ => { summary with positions := summary.positions + 1 }
  | .forwarded .. => { summary with forwarded := summary.forwarded + 1 }
  | .phaseChanged .. => { summary with transitions := summary.transitions + 1 }
  | .settled .. => summary

def Summary.of (notices : List Notice) : Summary :=
  notices.foldl Summary.add {}

end TagFix.Engine
