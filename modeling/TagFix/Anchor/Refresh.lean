import TagFix.Anchor.Document
import TagFix.Config.Settings
import TagFix.File

/-!
Refreshing the directory from a source, once or again and again. The directory in use is replaced
only by one with anchors in it, and always as a whole. Times are in milliseconds.
-/

namespace TagFix.Anchor

open TagFix.Json (Value)

/-! ## Sources -/

/-- Why a source has no document. -/
inductive FetchFault
  | unavailable (reason : String)
  | malformed (message : String)
deriving DecidableEq, Repr

def FetchFault.message : FetchFault → String
  | .unavailable reason => "directory source unavailable: " ++ reason
  | .malformed message => "directory source returned malformed data: " ++ message

/-- What a fetch ends with: a document, nothing new, or a fault. -/
abbrev Fetched := Except FetchFault (Option Value)

def fetchFile (path : String) (file : Except File.Fault String) : Fetched :=
  match file with
  | .error fault => .error (.unavailable (path ++ ": " ++ fault.message))
  | .ok text =>
      match Json.parse text with
      | .error message => .error (.malformed message)
      | .ok value => .ok (some value)

/-- What a source will answer, and after how long. -/
structure Response where
  delay : Nat
  fetched : Fetched

def Response.nothing : Response :=
  ⟨0, .ok none⟩

/-! ## One refresh -/

/-- What a refresh has come to. -/
inductive RefreshOutcome
  | updated (anchors rejected : Nat)
  | unchanged
  | failed (text : String)
  | timedOut
deriving DecidableEq, Repr

/-- The outcome of what was fetched, and the directory in use from then on. -/
def adopt (current : Option Directory) (fetched : Fetched) : RefreshOutcome × Option Directory :=
  match fetched with
  | .error fault => (.failed fault.message, current)
  | .ok none => (.unchanged, current)
  | .ok (some value) =>
      match ingest value with
      | .error fault => (.failed fault.message, current)
      | .ok none => (.unchanged, current)
      | .ok (some ingested) =>
          let anchors := ingested.directory.size
          let rejected := ingested.rejected.length
          if anchors = 0 then
            (.failed ("no usable anchors, " ++ toString rejected ++ " rejected"), current)
          else (.updated anchors rejected, some ingested.directory)

/-- Refreshes once. A response that comes at the very end of the timeout is in time, and one that
comes later is lost. -/
def refresh (timeout : Nat) (current : Option Directory) (response : Response) :
    RefreshOutcome × Option Directory :=
  if response.delay ≤ timeout then adopt current response.fetched else (.timedOut, current)

def refreshTime (timeout : Nat) (response : Response) : Nat :=
  min response.delay timeout

/-! ## Scheduled refreshes -/

/-- A fetch that was started: when, and with how many anchors in use. -/
structure Fetch where
  start : Nat
  anchorsBefore : Option Nat
deriving DecidableEq, Repr

/-- A source that answers by a script, the directory in use, the time and the fetches so far. -/
structure Refresher where
  timeout : Nat
  responses : List Response
  current : Option Directory
  now : Nat
  fetches : List Fetch

namespace Refresher

def fresh (settings : Config.Refresh) (current : Option Directory)
    (responses : List Response) : Refresher :=
  ⟨settings.fetchTimeout.toNat, responses, current, 0, []⟩

/-- The next response of the script, after which there is nothing to offer. -/
def response (refresher : Refresher) : Response :=
  refresher.responses.headD .nothing

def begin (refresher : Refresher) : Refresher :=
  { refresher with
    responses := refresher.responses.tail
    fetches := refresher.fetches ++ [⟨refresher.now, refresher.current.map Table.size⟩] }

def once (refresher : Refresher) : Refresher × RefreshOutcome :=
  let response := refresher.response
  let (outcome, current) := refresh refresher.timeout refresher.current response
  ({ refresher.begin with
      current, now := refresher.now + refreshTime refresher.timeout response }, outcome)

/-- One round of a schedule: a refresh, and the pause until the next. -/
def round (settings : Config.Refresh) (refresher : Refresher) : Refresher :=
  let after := refresher.once.1
  { after with now := after.now + settings.interval.toNat }

/-- The refresher after the initial delay and so many rounds, when the next fetch is due. A schedule
never ends by itself. -/
def scheduled (settings : Config.Refresh) (refresher : Refresher) : Nat → Refresher
  | 0 => { refresher with now := refresher.now + settings.initialDelay.toNat }
  | rounds + 1 => (refresher.scheduled settings rounds).round settings

end Refresher

end TagFix.Anchor
