import TagFix.Config.Settings
import TagFix.Device
import TagFix.Link.Failure
import TagFix.Link.Operation
import TagFix.Session.Backoff
import TagFix.Session.Phase

/-!
The life of the single session with a tag: look for it, connect, subscribe, and read whenever it
tells of news.

A session is a value. Each call of it gives a turn: the session afterwards, the operations that the
link is asked for and what there is to tell, both in order. Time comes in with the calls, in
milliseconds; a session that waits for a time says so by its deadline and is then to be polled.
-/

namespace TagFix

open Link (Activity Characteristic Epoch Event Failure Operation Signal)

namespace Session

/-! ## States -/

/-- What is tried again after a pause. -/
inductive RetryTarget
  | scan
  | connect
  | subscribe
deriving DecidableEq, Repr

inductive Alarm
  | scanTimeout
  | connectTimeout
  | retry (target : RetryTarget)
deriving DecidableEq, Repr

/-- A time at which a session wants to be polled. -/
structure Deadline where
  due : Nat
  alarm : Alarm
deriving DecidableEq, Repr

/-- What has gone wrong and right since the session was made. The counts have no bound. A word of 32
bits for the failures and one of 64 for the payloads would tell the same until it is full, after
`2 ^ 32` failures or `2 ^ 64` payloads. -/
structure Counters where
  notFound : Nat := 0
  /-- Links lost without being asked for. -/
  linkDrops : Nat := 0
  transientFailures : Nat := 0
  readFailures : Nat := 0
  payloads : Nat := 0
deriving DecidableEq, Repr

end Session

open Session (Alarm Backoff Counters Deadline Phase RetryTarget)

structure Session where
  device : Device
  scanTimeout : Nat
  connectTimeout : Nat
  phase : Phase
  epoch : Epoch
  backoff : Backoff
  deadline : Option Deadline
  /-- Whether the answer to an adapter check is awaited. -/
  adapterCheckPending : Bool
  /-- Whether a notification came while a read was outstanding. -/
  notificationPending : Bool
  writeInFlight : Bool
  counters : Counters
deriving DecidableEq, Repr

namespace Session

def fresh (device : Device) (settings : Config.Retry) : Session :=
  { device
    scanTimeout := settings.scanTimeout.toNat
    connectTimeout := settings.connectTimeout.toNat
    phase := .idle
    epoch := 0
    backoff := Backoff.start settings.maxConsecutiveFailures.toNat settings.baseBackoff.toNat
      settings.maxBackoff.toNat
    deadline := none
    adapterCheckPending := false
    notificationPending := false
    writeInFlight := false
    counters := {} }

inductive Output
  | phaseChanged (before after : Phase)
  /-- Progress, in words for people. -/
  | status (text : String)
  /-- The contents of the location characteristic. -/
  | payload (data : List UInt8)
  | writeFinished (result : Except Failure Unit)
  | faulted (last : Failure)

inductive Refusal
  | notConnected (phase : Phase)
  | writeInProgress
deriving DecidableEq, Repr

def Refusal.message : Refusal → String
  | .notConnected phase => "no link to the device (state " ++ phase.name ++ ")"
  | .writeInProgress => "another write is still in flight"

/-- A session in the course of a call: how it stands, what it has asked the link for and what it has
to tell. -/
structure Turn where
  session : Session
  issued : List Operation
  outputs : List Output

def quiet (session : Session) : Turn :=
  ⟨session, [], []⟩

/-! ## Parts of a turn -/

namespace Turn

def update (change : Session → Session) (turn : Turn) : Turn :=
  { turn with session := change turn.session }

def issue (operation : Session → Operation) (turn : Turn) : Turn :=
  { turn with issued := turn.issued ++ [operation turn.session] }

def tell (output : Output) (turn : Turn) : Turn :=
  { turn with outputs := turn.outputs ++ [output] }

def say (text : Session → String) (turn : Turn) : Turn :=
  turn.tell (.status (text turn.session))

def enter (phase : Phase) (turn : Turn) : Turn :=
  (turn.tell (.phaseChanged turn.session.phase phase)).update ({ · with phase })

def clearDeadline (turn : Turn) : Turn :=
  turn.update ({ · with deadline := none })

def setDeadline (due : Nat) (alarm : Alarm) (turn : Turn) : Turn :=
  turn.update ({ · with deadline := some ⟨due, alarm⟩ })

def clearNotification (turn : Turn) : Turn :=
  turn.update ({ · with notificationPending := false })

/-- The failure of a write that the end of its epoch leaves without an answer. -/
def superseded : Failure :=
  ⟨.write, .transient, "session superseded before the write completed"⟩

/-- Begins a new epoch. Nothing that was started before counts any more, and a write in flight
fails. -/
def advanceEpoch (turn : Turn) : Turn :=
  let turn := turn.update fun session => { session with epoch := session.epoch + 1 }
  if turn.session.writeInFlight then
    (turn.update ({ · with writeInFlight := false })).tell (.writeFinished (.error superseded))
  else turn

def disconnectIf (linkUp : Bool) (turn : Turn) : Turn :=
  if linkUp then turn.issue fun session => .disconnect session.device.id session.epoch else turn

def beginScan (now : Nat) (turn : Turn) : Turn :=
  (turn.issue fun session => .startScan session.epoch).setDeadline
    (now + turn.session.scanTimeout) .scanTimeout

def beginConnect (now : Nat) (turn : Turn) : Turn :=
  (turn.issue fun session => .connect session.device.id session.epoch).setDeadline
    (now + turn.session.connectTimeout) .connectTimeout

def beginSubscribe (turn : Turn) : Turn :=
  turn.issue fun session => .startNotification session.device.id .location session.epoch

def beginRead (turn : Turn) : Turn :=
  (turn.enter .awaitingRead).issue fun session => .read session.device.id .location session.epoch

/-- Starts the read for a notification that came during the last one. -/
def followUpRead (turn : Turn) : Turn :=
  if turn.session.notificationPending then turn.clearNotification.beginRead else turn

def recordFailure (turn : Turn) : Turn :=
  turn.update fun session => { session with backoff := session.backoff.recordFailure }

def recordSuccess (turn : Turn) : Turn :=
  turn.update fun session => { session with backoff := session.backoff.recordSuccess }

def count (change : Counters → Counters) (turn : Turn) : Turn :=
  turn.update fun session => { session with counters := change session.counters }

def giveUp (failure : Failure) (turn : Turn) : Turn :=
  let linkUp := turn.session.phase.isLinkUp
  (((turn.advanceEpoch.clearDeadline.clearNotification.disconnectIf linkUp).enter .faulted).say
    fun session =>
      "Giving up on " ++ session.device.name ++ " after " ++ toString session.backoff.failures ++
        " consecutive failures: " ++ failure.message).tell (.faulted failure)

end Turn

def RetryTarget.phase : RetryTarget → Phase
  | .scan => .scanning
  | .connect => .connecting
  | .subscribe => .subscribing

namespace Turn

/-- Waits for the pause of the backoff before trying again. -/
def awaitRetry (failure : Failure) (target : RetryTarget) (now : Nat) (turn : Turn) : Turn :=
  let delay := turn.session.backoff.delay
  ((turn.advanceEpoch.say fun session =>
      failure.activity.text ++ " failed, retrying in " ++ toString delay ++ " ms (failure " ++
        toString session.backoff.failures ++ " of " ++ toString session.backoff.maxFailures ++
        ")").enter target.phase).setDeadline (now + delay) (.retry target)

/-- Takes note of a failure and tries again later, unless there are no more retries. -/
def retryLater (failure : Failure) (target : RetryTarget) (now : Nat) (turn : Turn) : Turn :=
  let turn := turn.recordFailure
  if turn.session.backoff.isExhausted then turn.giveUp failure
  else turn.awaitRetry failure target now

/-- Looks for a tag again that the radio no longer knows. -/
def rescan (now : Nat) (turn : Turn) : Turn :=
  let linkUp := turn.session.phase.isLinkUp
  (((turn.advanceEpoch.clearDeadline.disconnectIf linkUp).say fun session =>
      session.device.name ++ " not found, scanning again").enter .scanning).beginScan now

/-- Takes note of a failed attempt to connect or subscribe. -/
def linkFailed (failure : Failure) (target : RetryTarget) (now : Nat) (turn : Turn) : Turn :=
  match failure.recovery with
  | .retryWithBackoff =>
      (turn.count fun counters =>
        { counters with transientFailures := counters.transientFailures + 1 }).retryLater
          failure target now
  | .rescan =>
      let turn := (turn.count fun counters =>
        { counters with notFound := counters.notFound + 1 }).recordFailure
      if turn.session.backoff.isExhausted then turn.giveUp failure else turn.rescan now

end Turn

/-! ## Calls -/

/-- Starts a new session with a check of the adapter; ignored while one is under way. -/
def start (session : Session) : Turn :=
  if session.phase.canStart then
    let turn := session.quiet.advanceEpoch.recordSuccess.clearDeadline.clearNotification
    let turn := if session.phase = .idle then turn else turn.enter .idle
    ((turn.update ({ · with adapterCheckPending := true })).say fun session =>
      "Checking Bluetooth for " ++ session.device.name).issue fun session =>
        .checkAdapter session.epoch
  else session.quiet

/-- Ends the session, as far as there is one. -/
def requestDisconnect (session : Session) : Turn :=
  match session.phase with
  | .idle =>
      if session.adapterCheckPending then
        (session.quiet.advanceEpoch.update ({ · with adapterCheckPending := false })).enter
          .disconnected
      else session.quiet
  | .scanning =>
      ((session.quiet.advanceEpoch.clearDeadline.issue fun _ => .stopScan).enter
        .disconnected).say fun _ => "Stopped scanning"
  | .connecting | .connected | .subscribing | .subscribed | .awaitingRead =>
      ((session.quiet.advanceEpoch.clearDeadline.clearNotification.enter .disconnecting).say
        fun session => "Disconnecting from " ++ session.device.name).disconnectIf true
  | .disconnecting | .disconnected | .faulted => session.quiet

/-- Writes to a characteristic of the tag; the outcome is told later. -/
def write (session : Session) (characteristic : Characteristic) (data : List UInt8) :
    Except Refusal Turn :=
  if ¬session.phase.isLinkUp then .error (.notConnected session.phase)
  else if session.writeInFlight then .error .writeInProgress
  else
    .ok <| (session.quiet.update ({ · with writeInFlight := true })).issue fun session =>
      .write session.device.id characteristic data session.epoch

def adapterChecked (session : Session) (enabled : Bool) (now : Nat) : Turn :=
  if session.adapterCheckPending then
    let turn := session.quiet.update ({ · with adapterCheckPending := false })
    if enabled then
      ((turn.say fun session => "Scanning for " ++ session.device.name).enter
        .scanning).beginScan now
    else turn.say fun _ => "Bluetooth is disabled"
  else session.quiet

/-- Takes a discovery; other devices than the tag are ignored. -/
def discovered (session : Session) (device : String) (now : Nat) : Turn :=
  if device = session.device.id then
    (((session.quiet.issue fun _ => .stopScan).say fun session =>
      "Found " ++ session.device.name ++ ", connecting").enter .connecting).beginConnect now
  else session.quiet

def linked (session : Session) : Turn :=
  (((session.quiet.clearDeadline.enter .connected).say fun session =>
    "Connected to " ++ session.device.name).enter .subscribing).beginSubscribe

def subscribed (session : Session) : Turn :=
  (session.quiet.recordSuccess.clearDeadline.enter .subscribed).say fun session =>
    "Listening for ranges from " ++ session.device.name

def readCompleted (session : Session) (data : List UInt8) : Turn :=
  (((session.quiet.count fun counters =>
    { counters with payloads := counters.payloads + 1 }).enter .subscribed).tell
      (.payload data)).followUpRead

/-- Takes the failure of a read; the session goes on. -/
def readFailed (session : Session) (reason : String) : Turn :=
  (((session.quiet.count fun counters =>
    { counters with readFailures := counters.readFailures + 1 }).say fun _ =>
      "Failed to read ranges: " ++ reason).enter .subscribed).followUpRead

/-- Takes the outcome of a write, if one is in flight. -/
def writeSettled (session : Session) (result : Except Failure Unit) : Turn :=
  if session.writeInFlight then
    (session.quiet.update ({ · with writeInFlight := false })).tell (.writeFinished result)
  else session.quiet

/-- Takes the loss of the link, if it was up. -/
def linkLost (session : Session) (reason : String) (now : Nat) : Turn :=
  if session.phase.isLinkUp then
    ((session.quiet.count fun counters =>
      { counters with linkDrops := counters.linkDrops + 1 }).clearNotification).retryLater
        ⟨.connect, .transient, reason⟩ .connect now
  else session.quiet

/-- Takes the end of the link, in order or not. -/
def unlinked (session : Session) : Turn :=
  (session.quiet.enter .disconnected).say fun session =>
    "Disconnected from " ++ session.device.name

/-- Takes a signal of the current epoch; one that does not fit the phase is ignored. -/
def receive (session : Session) (signal : Signal) (now : Nat) : Turn :=
  match session.phase, signal with
  | .idle, .adapterState enabled => session.adapterChecked enabled now
  | .scanning, .deviceDiscovered device => session.discovered device now
  | .scanning, .scanFailed reason =>
      session.quiet.retryLater (.classify .scan reason) .scan now
  | .connecting, .connected => session.linked
  | .connecting, .connectFailed reason =>
      session.quiet.linkFailed (.classify .connect reason) .connect now
  | .subscribing, .subscribed => session.subscribed
  | .subscribing, .subscribeFailed reason =>
      session.quiet.linkFailed (.classify .subscribe reason) .subscribe now
  | .subscribed, .notification => session.quiet.beginRead
  | .awaitingRead, .notification => session.quiet.update ({ · with notificationPending := true })
  | .awaitingRead, .readCompleted data => session.readCompleted data
  | .awaitingRead, .readFailed reason => session.readFailed reason
  | _, .writeCompleted => session.writeSettled (.ok ())
  | _, .writeFailed reason => session.writeSettled (.error (.classify .write reason))
  | _, .linkLost reason => session.linkLost reason now
  | .disconnecting, .disconnected => session.unlinked
  | .disconnecting, .disconnectFailed _ => session.unlinked
  | _, _ => session.quiet

/-- Takes an event of the link; one of another epoch than the current is ignored. -/
def handle (session : Session) (event : Event) (now : Nat) : Turn :=
  if event.epoch = session.epoch then session.receive event.signal now else session.quiet

def scanTimedOut (session : Session) (now : Nat) : Turn :=
  let failure : Failure := ⟨.scan, .transient,
    session.device.name ++ " not seen within " ++ toString session.scanTimeout ++ " ms"⟩
  let turn := (session.quiet.issue fun _ => .stopScan).recordFailure
  if turn.session.backoff.isExhausted then turn.giveUp failure
  else
    ((turn.advanceEpoch.say fun session => "Still scanning for " ++ session.device.name).enter
      .scanning).beginScan now

/-- Acts on an attempt to connect that has taken its time. The link may still come up, so it is
asked to disconnect. -/
def connectTimedOut (session : Session) (now : Nat) : Turn :=
  let failure : Failure := ⟨.connect, .transient,
    "no connection within " ++ toString session.connectTimeout ++ " ms"⟩
  (session.quiet.disconnectIf true).retryLater failure .connect now

def alarmed (session : Session) (alarm : Alarm) (now : Nat) : Turn :=
  match alarm with
  | .scanTimeout => session.scanTimedOut now
  | .connectTimeout => session.connectTimedOut now
  | .retry .scan => session.quiet.beginScan now
  | .retry .connect => session.quiet.beginConnect now
  | .retry .subscribe => session.quiet.beginSubscribe

/-- Acts on the deadline if it is due. -/
def poll (session : Session) (now : Nat) : Turn :=
  match session.deadline with
  | some deadline =>
      if deadline.due ≤ now then { session with deadline := none }.alarmed deadline.alarm now
      else session.quiet
  | none => session.quiet

/-! ## Runs -/

inductive Call
  | start
  | disconnect
  | write (characteristic : Characteristic) (data : List UInt8)
  | event (event : Event) (now : Nat)
  | poll (now : Nat)
deriving DecidableEq, Repr

/-- The turn of a call; a write that is refused changes nothing. -/
def turn (session : Session) : Call → Turn
  | .start => session.start
  | .disconnect => session.requestDisconnect
  | .write characteristic data =>
      match session.write characteristic data with
      | .ok turn => turn
      | .error _ => session.quiet
  | .event event now => session.handle event now
  | .poll now => session.poll now

def turns (session : Session) : List Call → List Turn
  | [] => []
  | call :: calls => session.turn call :: (session.turn call).session.turns calls

def after (session : Session) (calls : List Call) : Session :=
  calls.foldl (fun session call => (session.turn call).session) session

end Session

end TagFix
