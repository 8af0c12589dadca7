import TagFix.Session.Machine

/-!
# What a call can do to a session

A call goes unheeded or is one of the moves listed here, each with the session, the operations and
the outputs that it leaves. Whatever is proved of all runs is proved of the moves first, so nothing
after this module looks into the calls themselves.
-/

namespace TagFix

open Link (Epoch Event Failure Operation Signal)

namespace Session

/-! ## Calls that count -/

/-- Whether there is a link, or one in the making. -/
def Phase.isLinking : Phase → Bool
  | .connecting => true
  | phase => phase.isLinkUp

theorem Phase.ne_of_isLinking {phase other : Phase} (linking : phase.isLinking = true)
    (unlinked : other.isLinking = false) : phase ≠ other := by
  intro same
  rw [same, unlinked] at linking
  cases linking

theorem Phase.isLinking_of_isLinkUp {phase : Phase} (linkUp : phase.isLinkUp = true) :
    phase.isLinking = true := by
  cases phase with
  | connecting => rfl
  | _ => exact linkUp

def acceptsSignal (session : Session) : Signal → Bool
  | .adapterState _ => session.phase = .idle && session.adapterCheckPending
  | .deviceDiscovered device => session.phase = .scanning && device = session.device.id
  | .scanFailed _ => session.phase = .scanning
  | .connected | .connectFailed _ => session.phase = .connecting
  | .subscribed | .subscribeFailed _ => session.phase = .subscribing
  | .notification => session.phase = .subscribed || session.phase = .awaitingRead
  | .readCompleted _ | .readFailed _ => session.phase = .awaitingRead
  | .writeCompleted | .writeFailed _ => session.writeInFlight
  | .linkLost _ => session.phase.isLinkUp
  | .disconnected | .disconnectFailed _ => session.phase = .disconnecting

def isDue (session : Session) (now : Nat) : Bool :=
  match session.deadline with
  | some deadline => deadline.due ≤ now
  | none => false

/-- Whether a session acts on a call. -/
def heeds (session : Session) : Call → Bool
  | .start => session.phase.canStart
  | .disconnect =>
      (session.phase = .idle && session.adapterCheckPending) || session.phase = .scanning ||
        session.phase.isLinking
  | .write .. => session.phase.isLinkUp && !session.writeInFlight
  | .event event _ => event.epoch = session.epoch && session.acceptsSignal event.signal
  | .poll now => session.isDue now

/-! ## Setbacks -/

/-- What counts as a failure of the session. -/
inductive Setback
  | scanFailed (reason : String)
  | scanTimedOut
  | connectFailed (reason : String)
  | connectTimedOut
  | subscribeFailed (reason : String)
  | linkLost (reason : String)
deriving DecidableEq, Repr

def Setback.failure (session : Session) : Setback → Failure
  | .scanFailed reason => .classify .scan reason
  | .scanTimedOut => ⟨.scan, .transient,
      session.device.name ++ " not seen within " ++ toString session.scanTimeout ++ " ms"⟩
  | .connectFailed reason => .classify .connect reason
  | .connectTimedOut => ⟨.connect, .transient,
      "no connection within " ++ toString session.connectTimeout ++ " ms"⟩
  | .subscribeFailed reason => .classify .subscribe reason
  | .linkLost reason => ⟨.connect, .transient, reason⟩

/-- What is tried again after a pause; `none` where a new scan follows at once. -/
def Setback.retry? : Setback → Option RetryTarget
  | .scanFailed _ => some .scan
  | .scanTimedOut => none
  | .connectFailed reason =>
      match (Failure.classify .connect reason).recovery with
      | .retryWithBackoff => some .connect
      | .rescan => none
  | .connectTimedOut => some .connect
  | .subscribeFailed reason =>
      match (Failure.classify .subscribe reason).recovery with
      | .retryWithBackoff => some .subscribe
      | .rescan => none
  | .linkLost _ => some .connect

def Setback.count (counters : Counters) (setback : Setback) : Counters :=
  match setback with
  | .scanFailed _ | .scanTimedOut | .connectTimedOut => counters
  | .connectFailed _ | .subscribeFailed _ =>
      if setback.retry?.isSome then
        { counters with transientFailures := counters.transientFailures + 1 }
      else { counters with notFound := counters.notFound + 1 }
  | .linkLost _ => { counters with linkDrops := counters.linkDrops + 1 }

def Setback.cleanup (session : Session) : Setback → List Operation
  | .scanTimedOut => [.stopScan]
  | .connectTimedOut => [.disconnect session.device.id session.epoch]
  | _ => []

def Setback.notificationPending (session : Session) : Setback → Bool
  | .linkLost _ => false
  | _ => session.notificationPending

/-- The setbacks of a session, with the calls that bring them and their times. -/
inductive Strikes (session : Session) : Setback → Call → Nat → Prop
  | scanFailed {reason : String} {now : Nat} (phase : session.phase = .scanning) :
      Strikes session (.scanFailed reason) (.event ⟨session.epoch, .scanFailed reason⟩ now) now
  | scanTimedOut {due now : Nat} (waiting : session.deadline = some ⟨due, .scanTimeout⟩)
      (isDue : due ≤ now) : Strikes session .scanTimedOut (.poll now) now
  | connectFailed {reason : String} {now : Nat} (phase : session.phase = .connecting) :
      Strikes session (.connectFailed reason) (.event ⟨session.epoch, .connectFailed reason⟩ now)
        now
  | connectTimedOut {due now : Nat} (waiting : session.deadline = some ⟨due, .connectTimeout⟩)
      (isDue : due ≤ now) : Strikes session .connectTimedOut (.poll now) now
  | subscribeFailed {reason : String} {now : Nat} (phase : session.phase = .subscribing) :
      Strikes session (.subscribeFailed reason)
        (.event ⟨session.epoch, .subscribeFailed reason⟩ now) now
  | linkLost {reason : String} {now : Nat} (linkUp : session.phase.isLinkUp = true) :
      Strikes session (.linkLost reason) (.event ⟨session.epoch, .linkLost reason⟩ now) now

/-! ## Moves -/

def supersession (session : Session) : List Output :=
  if session.writeInFlight then [.writeFinished (.error Turn.superseded)] else []

/-- The disconnection that the end of an epoch asks for where the link was up. -/
def hangUp (session : Session) : List Operation :=
  if session.phase.isLinkUp then [.disconnect session.device.id (session.epoch + 1)] else []

/-- The disconnection before a new scan; one that is renewed has no link to end. -/
def Setback.hangUp (session : Session) : Setback → List Operation
  | .scanTimedOut => []
  | _ => session.hangUp

theorem Setback.mem_hangUp {setback : Setback} {session : Session} {operation : Operation}
    (member : operation ∈ setback.hangUp session) : operation ∈ session.hangUp := by
  cases setback with
  | scanTimedOut => cases member
  | _ => exact member

/-- The read that follows one during which a notification came. -/
def nextRead (session : Session) : List Operation :=
  if session.notificationPending then [.read session.device.id .location session.epoch] else []

/-- The ways in which a session goes on from a call. -/
inductive Move (session : Session) : Call → Turn → Prop
  | ignored {call : Call} (unheeded : session.heeds call = false) :
      Move session call session.quiet
  | started (text : String) (startable : session.phase.canStart = true) :
      Move session .start
        ⟨{ session with
            phase := .idle
            epoch := session.epoch + 1
            backoff := session.backoff.recordSuccess
            deadline := none
            adapterCheckPending := true
            notificationPending := false
            writeInFlight := false },
          [.checkAdapter (session.epoch + 1)],
          session.supersession ++
            (if session.phase = .idle then [] else [.phaseChanged session.phase .idle]) ++
              [.status text]⟩
  | cancelled (phase : session.phase = .idle) (pending : session.adapterCheckPending = true) :
      Move session .disconnect
        ⟨{ session with
            phase := .disconnected
            epoch := session.epoch + 1
            adapterCheckPending := false
            writeInFlight := false },
          [], session.supersession ++ [.phaseChanged .idle .disconnected]⟩
  | scanStopped (text : String) (phase : session.phase = .scanning) :
      Move session .disconnect
        ⟨{ session with
            phase := .disconnected
            epoch := session.epoch + 1
            deadline := none
            writeInFlight := false },
          [.stopScan],
          session.supersession ++ [.phaseChanged .scanning .disconnected, .status text]⟩
  | disconnecting (text : String) (linking : session.phase.isLinking = true) :
      Move session .disconnect
        ⟨{ session with
            phase := .disconnecting
            epoch := session.epoch + 1
            deadline := none
            notificationPending := false
            writeInFlight := false },
          [.disconnect session.device.id (session.epoch + 1)],
          session.supersession ++ [.phaseChanged session.phase .disconnecting, .status text]⟩
  | written {characteristic : Link.Characteristic} {data : List UInt8}
      (linkUp : session.phase.isLinkUp = true) (free : session.writeInFlight = false) :
      Move session (.write characteristic data)
        ⟨{ session with writeInFlight := true },
          [.write session.device.id characteristic data session.epoch], []⟩
  | adapterReady (now : Nat) (text : String) (phase : session.phase = .idle)
      (pending : session.adapterCheckPending = true) :
      Move session (.event ⟨session.epoch, .adapterState true⟩ now)
        ⟨{ session with
            phase := .scanning
            deadline := some ⟨now + session.scanTimeout, .scanTimeout⟩
            adapterCheckPending := false },
          [.startScan session.epoch], [.status text, .phaseChanged .idle .scanning]⟩
  | adapterOff (now : Nat) (text : String) (phase : session.phase = .idle)
      (pending : session.adapterCheckPending = true) :
      Move session (.event ⟨session.epoch, .adapterState false⟩ now)
        ⟨{ session with adapterCheckPending := false }, [], [.status text]⟩
  | found (now : Nat) (text : String) (phase : session.phase = .scanning) :
      Move session (.event ⟨session.epoch, .deviceDiscovered session.device.id⟩ now)
        ⟨{ session with
            phase := .connecting
            deadline := some ⟨now + session.connectTimeout, .connectTimeout⟩ },
          [.stopScan, .connect session.device.id session.epoch],
          [.status text, .phaseChanged .scanning .connecting]⟩
  | linked (now : Nat) (text : String) (phase : session.phase = .connecting) :
      Move session (.event ⟨session.epoch, .connected⟩ now)
        ⟨{ session with phase := .subscribing, deadline := none },
          [.startNotification session.device.id .location session.epoch],
          [.phaseChanged .connecting .connected, .status text,
            .phaseChanged .connected .subscribing]⟩
  | subscribed (now : Nat) (text : String) (phase : session.phase = .subscribing) :
      Move session (.event ⟨session.epoch, .subscribed⟩ now)
        ⟨{ session with
            phase := .subscribed
            backoff := session.backoff.recordSuccess
            deadline := none },
          [], [.phaseChanged .subscribing .subscribed, .status text]⟩
  | readBegun (now : Nat) (phase : session.phase = .subscribed) :
      Move session (.event ⟨session.epoch, .notification⟩ now)
        ⟨{ session with phase := .awaitingRead },
          [.read session.device.id .location session.epoch],
          [.phaseChanged .subscribed .awaitingRead]⟩
  | noted (now : Nat) (phase : session.phase = .awaitingRead) :
      Move session (.event ⟨session.epoch, .notification⟩ now)
        ⟨{ session with notificationPending := true }, [], []⟩
  | readCompleted (data : List UInt8) (now : Nat) (phase : session.phase = .awaitingRead) :
      Move session (.event ⟨session.epoch, .readCompleted data⟩ now)
        ⟨{ session with
            phase := if session.notificationPending then .awaitingRead else .subscribed
            notificationPending := false
            counters := { session.counters with payloads := session.counters.payloads + 1 } },
          session.nextRead,
          [.phaseChanged .awaitingRead .subscribed, .payload data] ++
            if session.notificationPending then [.phaseChanged .subscribed .awaitingRead] else []⟩
  | readFailed (reason : String) (now : Nat) (text : String)
      (phase : session.phase = .awaitingRead) :
      Move session (.event ⟨session.epoch, .readFailed reason⟩ now)
        ⟨{ session with
            phase := if session.notificationPending then .awaitingRead else .subscribed
            notificationPending := false
            counters :=
              { session.counters with readFailures := session.counters.readFailures + 1 } },
          session.nextRead,
          [.status text, .phaseChanged .awaitingRead .subscribed] ++
            if session.notificationPending then [.phaseChanged .subscribed .awaitingRead] else []⟩
  | writeCompleted (now : Nat) (inFlight : session.writeInFlight = true) :
      Move session (.event ⟨session.epoch, .writeCompleted⟩ now)
        ⟨{ session with writeInFlight := false }, [], [.writeFinished (.ok ())]⟩
  | writeFailed (reason : String) (now : Nat) (inFlight : session.writeInFlight = true) :
      Move session (.event ⟨session.epoch, .writeFailed reason⟩ now)
        ⟨{ session with writeInFlight := false }, [],
          [.writeFinished (.error (.classify .write reason))]⟩
  | unlinked (now : Nat) (text : String) (phase : session.phase = .disconnecting) :
      Move session (.event ⟨session.epoch, .disconnected⟩ now)
        ⟨{ session with phase := .disconnected }, [],
          [.phaseChanged .disconnecting .disconnected, .status text]⟩
  | unlinkFailed (reason : String) (now : Nat) (text : String)
      (phase : session.phase = .disconnecting) :
      Move session (.event ⟨session.epoch, .disconnectFailed reason⟩ now)
        ⟨{ session with phase := .disconnected }, [],
          [.phaseChanged .disconnecting .disconnected, .status text]⟩
  | gaveUp {setback : Setback} {call : Call} {now : Nat} (text : String)
      (strikes : session.Strikes setback call now)
      (exhausted : session.backoff.recordFailure.isExhausted = true) :
      Move session call
        ⟨{ session with
            phase := .faulted
            epoch := session.epoch + 1
            backoff := session.backoff.recordFailure
            deadline := none
            notificationPending := false
            writeInFlight := false
            counters := setback.count session.counters },
          setback.cleanup session ++ session.hangUp,
          session.supersession ++ [.phaseChanged session.phase .faulted, .status text,
            .faulted (setback.failure session)]⟩
  | paused {setback : Setback} {target : RetryTarget} {call : Call} {now : Nat} (text : String)
      (strikes : session.Strikes setback call now) (again : setback.retry? = some target)
      (more : session.backoff.recordFailure.isExhausted = false) :
      Move session call
        ⟨{ session with
            phase := target.phase
            epoch := session.epoch + 1
            backoff := session.backoff.recordFailure
            deadline := some ⟨now + session.backoff.recordFailure.delay, .retry target⟩
            notificationPending := setback.notificationPending session
            writeInFlight := false
            counters := setback.count session.counters },
          setback.cleanup session,
          session.supersession ++ [.status text, .phaseChanged session.phase target.phase]⟩
  | rescanned {setback : Setback} {call : Call} {now : Nat} (text : String)
      (strikes : session.Strikes setback call now) (lost : setback.retry? = none)
      (more : session.backoff.recordFailure.isExhausted = false) :
      Move session call
        ⟨{ session with
            phase := .scanning
            epoch := session.epoch + 1
            backoff := session.backoff.recordFailure
            deadline := some ⟨now + session.scanTimeout, .scanTimeout⟩
            writeInFlight := false
            counters := setback.count session.counters },
          setback.cleanup session ++ setback.hangUp session ++ [.startScan (session.epoch + 1)],
          session.supersession ++ [.status text, .phaseChanged session.phase .scanning]⟩
  | scanRetried {due now : Nat} (waiting : session.deadline = some ⟨due, .retry .scan⟩)
      (isDue : due ≤ now) :
      Move session (.poll now)
        ⟨{ session with deadline := some ⟨now + session.scanTimeout, .scanTimeout⟩ },
          [.startScan session.epoch], []⟩
  | connectRetried {due now : Nat} (waiting : session.deadline = some ⟨due, .retry .connect⟩)
      (isDue : due ≤ now) :
      Move session (.poll now)
        ⟨{ session with deadline := some ⟨now + session.connectTimeout, .connectTimeout⟩ },
          [.connect session.device.id session.epoch], []⟩
  | subscribeRetried {due now : Nat} (waiting : session.deadline = some ⟨due, .retry .subscribe⟩)
      (isDue : due ≤ now) :
      Move session (.poll now)
        ⟨{ session with deadline := none },
          [.startNotification session.device.id .location session.epoch], []⟩

/-! ## The parts of a turn -/

namespace Turn

/-- A new epoch ends the write in flight, whose failure is told at once. -/
theorem advanceEpoch_eq (turn : Turn) :
    turn.advanceEpoch =
      ⟨{ turn.session with epoch := turn.session.epoch + 1, writeInFlight := false }, turn.issued,
        turn.outputs ++ turn.session.supersession⟩ := by
  rcases turn with ⟨session, issued, outputs⟩
  cases inFlight : session.writeInFlight with
  | false => simp [advanceEpoch, update, supersession, inFlight]
  | true => simp [advanceEpoch, update, tell, supersession, inFlight]

theorem disconnectIf_eq (turn : Turn) (linkUp : Bool) :
    turn.disconnectIf linkUp =
      ⟨turn.session, turn.issued ++
        if linkUp then [.disconnect turn.session.device.id turn.session.epoch] else [],
        turn.outputs⟩ := by
  cases linkUp with
  | false => exact congrArg (fun issued => Turn.mk _ issued _) turn.issued.append_nil.symm
  | true => rfl

private theorem followUpRead_eq (turn : Turn) :
    turn.followUpRead =
      ⟨{ turn.session with
          phase := if turn.session.notificationPending then .awaitingRead else turn.session.phase
          notificationPending := false },
        turn.issued ++ turn.session.nextRead,
        turn.outputs ++ if turn.session.notificationPending then
          [.phaseChanged turn.session.phase .awaitingRead] else []⟩ := by
  rcases turn with ⟨session, issued, outputs⟩
  cases pending : session.notificationPending with
  | false =>
      have same : { session with notificationPending := false } = session := by rw [← pending]
      simp [followUpRead, nextRead, pending, same]
  | true =>
      simp [followUpRead, clearNotification, beginRead, enter, update, tell, issue, nextRead,
        pending]

/-- Giving up ends the epoch and the write in flight; the words are left open. -/
theorem giveUp_eq (turn : Turn) (failure : Failure) :
    ∃ text, turn.giveUp failure =
      ⟨{ turn.session with
          phase := .faulted
          epoch := turn.session.epoch + 1
          deadline := none
          notificationPending := false
          writeInFlight := false },
        turn.issued ++ turn.session.hangUp,
        turn.outputs ++ turn.session.supersession ++
          [.phaseChanged turn.session.phase .faulted, .status text, .faulted failure]⟩ := by
  refine ⟨"Giving up on " ++ turn.session.device.name ++ " after " ++
    toString turn.session.backoff.failures ++ " consecutive failures: " ++ failure.message, ?_⟩
  simp [giveUp, advanceEpoch_eq, disconnectIf_eq, clearDeadline, clearNotification, enter, say,
    tell, update, hangUp]

/-- A retry is awaited in a new epoch, for as long as the backoff says; the words are left open. -/
theorem awaitRetry_eq (turn : Turn) (failure : Failure) (target : RetryTarget) (now : Nat) :
    ∃ text, turn.awaitRetry failure target now =
      ⟨{ turn.session with
          phase := target.phase
          epoch := turn.session.epoch + 1
          deadline := some ⟨now + turn.session.backoff.delay, .retry target⟩
          writeInFlight := false },
        turn.issued,
        turn.outputs ++ turn.session.supersession ++
          [.status text, .phaseChanged turn.session.phase target.phase]⟩ := by
  refine ⟨failure.activity.text ++ " failed, retrying in " ++
    toString turn.session.backoff.delay ++ " ms (failure " ++
      toString turn.session.backoff.failures ++ " of " ++
        toString turn.session.backoff.maxFailures ++ ")", ?_⟩
  simp [awaitRetry, advanceEpoch_eq, enter, say, tell, update, setDeadline]

private theorem rescan_eq (turn : Turn) (now : Nat) :
    ∃ text, turn.rescan now =
      ⟨{ turn.session with
          phase := .scanning
          epoch := turn.session.epoch + 1
          deadline := some ⟨now + turn.session.scanTimeout, .scanTimeout⟩
          writeInFlight := false },
        turn.issued ++ turn.session.hangUp ++ [.startScan (turn.session.epoch + 1)],
        turn.outputs ++ turn.session.supersession ++
          [.status text, .phaseChanged turn.session.phase .scanning]⟩ := by
  refine ⟨turn.session.device.name ++ " not found, scanning again", ?_⟩
  simp [rescan, advanceEpoch_eq, disconnectIf_eq, clearDeadline, enter, say, tell, issue, update,
    setDeadline, beginScan, hangUp]

end Turn

/-! ## Setbacks are moves -/

section Setbacks

variable {session : Session} {setback : Setback} {call : Call} {now : Nat}

/-- The turn in which a setback was counted, before the session gives up or goes on. -/
def Setback.noted (session : Session) (deadline : Option Deadline) (setback : Setback) : Turn :=
  ⟨{ session with
      backoff := session.backoff.recordFailure
      deadline
      notificationPending := setback.notificationPending session
      counters := setback.count session.counters },
    setback.cleanup session, []⟩

@[simp]
theorem Setback.noted_backoff (deadline : Option Deadline) :
    (setback.noted session deadline).session.backoff = session.backoff.recordFailure :=
  rfl

private theorem move_giveUp (deadline : Option Deadline)
    (strikes : session.Strikes setback call now)
    (exhausted : session.backoff.recordFailure.isExhausted = true) :
    Move session call ((setback.noted session deadline).giveUp (setback.failure session)) := by
  obtain ⟨text, equality⟩ :=
    (setback.noted session deadline).giveUp_eq (setback.failure session)
  rw [equality]
  exact .gaveUp text strikes exhausted

private theorem move_retryLater {turn : Turn} {failure : Failure} {target : RetryTarget}
    (deadline : Option Deadline) (strikes : session.Strikes setback call now)
    (again : setback.retry? = some target) (told : failure = setback.failure session)
    (counted : turn.recordFailure = setback.noted session deadline) :
    Move session call (turn.retryLater failure target now) := by
  simp only [Turn.retryLater, counted, told, Setback.noted_backoff]
  cases exhausted : session.backoff.recordFailure.isExhausted with
  | true => exact move_giveUp deadline strikes exhausted
  | false =>
      obtain ⟨text, equality⟩ :=
        (setback.noted session deadline).awaitRetry_eq (setback.failure session) target now
      rw [if_neg Bool.false_ne_true, equality]
      exact .paused text strikes again exhausted

/-- A failed attempt to connect or subscribe is retried, or followed by a scan where the radio no
longer knows the tag. -/
theorem move_linkFailed {failure : Failure} {target : RetryTarget}
    (strikes : session.Strikes setback call now) (told : failure = setback.failure session)
    (recovers : setback.retry? =
      match failure.recovery with
      | .retryWithBackoff => some target
      | .rescan => none)
    (counts : setback.count session.counters =
      if setback.retry?.isSome then
        { session.counters with transientFailures := session.counters.transientFailures + 1 }
      else { session.counters with notFound := session.counters.notFound + 1 })
    (hangsUp : setback.hangUp session = session.hangUp)
    (noted : setback.noted session session.deadline =
      ⟨{ session with
          backoff := session.backoff.recordFailure
          counters := setback.count session.counters }, [], []⟩) :
    Move session call (session.quiet.linkFailed failure target now) := by
  unfold Turn.linkFailed
  cases recovery : failure.recovery with
  | retryWithBackoff =>
      have again : setback.retry? = some target := by rw [recovers, recovery]
      rw [again, Option.isSome_some, if_pos rfl] at counts
      refine move_retryLater session.deadline strikes again told ?_
      rw [noted, counts]
      rfl
  | rescan =>
      have lost : setback.retry? = none := by rw [recovers, recovery]
      rw [lost, Option.isSome_none, if_neg Bool.false_ne_true] at counts
      have counted : (session.quiet.count fun counters =>
          { counters with notFound := counters.notFound + 1 }).recordFailure =
            setback.noted session session.deadline := by
        rw [noted, counts]
        rfl
      simp only [counted, told, Setback.noted_backoff]
      cases exhausted : session.backoff.recordFailure.isExhausted with
      | true => exact move_giveUp session.deadline strikes exhausted
      | false =>
          obtain ⟨text, equality⟩ := (setback.noted session session.deadline).rescan_eq now
          have clean : setback.cleanup session = [] := congrArg Turn.issued noted
          have moved := Move.rescanned text strikes lost exhausted
          rw [clean, hangsUp] at moved
          rw [if_neg Bool.false_ne_true, equality, noted]
          exact moved

end Setbacks

/-! ## Every call is a move -/

section Calls

variable {session : Session}

private theorem move_start : Move session .start session.start := by
  unfold start
  split
  · next startable =>
      have moved := Move.started ("Checking Bluetooth for " ++ session.device.name) startable
      by_cases phase : session.phase = .idle
      · simpa [Turn.advanceEpoch_eq, Turn.recordSuccess, Turn.clearDeadline,
          Turn.clearNotification, Turn.update, Turn.say, Turn.tell, Turn.issue, quiet, phase]
          using moved
      · simpa [Turn.advanceEpoch_eq, Turn.recordSuccess, Turn.clearDeadline,
          Turn.clearNotification, Turn.enter, Turn.update, Turn.say, Turn.tell, Turn.issue, quiet,
          phase] using moved
  · next refused => exact .ignored (Bool.not_eq_true _ ▸ refused)

private theorem move_disconnectLink (linking : session.phase.isLinking = true) :
    Move session .disconnect
      (((session.quiet.advanceEpoch.clearDeadline.clearNotification.enter .disconnecting).say
        fun session => "Disconnecting from " ++ session.device.name).disconnectIf true) := by
  have moved := Move.disconnecting ("Disconnecting from " ++ session.device.name) linking
  simpa [Turn.advanceEpoch_eq, Turn.clearDeadline, Turn.clearNotification, Turn.disconnectIf,
    Turn.enter, Turn.update, Turn.say, Turn.tell, Turn.issue, quiet] using moved

private theorem move_requestDisconnect : Move session .disconnect session.requestDisconnect := by
  unfold requestDisconnect
  cases phase : session.phase with
  | idle =>
      cases pending : session.adapterCheckPending with
      | false =>
          exact .ignored (by simp [heeds, phase, pending, Phase.isLinking, Phase.isLinkUp])
      | true =>
          have moved := Move.cancelled phase pending
          simpa [Turn.advanceEpoch_eq, Turn.enter, Turn.update, Turn.tell, quiet, phase]
            using moved
  | scanning =>
      have moved := Move.scanStopped "Stopped scanning" phase
      simpa [Turn.advanceEpoch_eq, Turn.clearDeadline, Turn.enter, Turn.update, Turn.say,
        Turn.tell, Turn.issue, quiet, phase] using moved
  | connecting | connected | subscribing | subscribed | awaitingRead =>
      exact move_disconnectLink (by rw [phase]; rfl)
  | disconnecting | disconnected | faulted =>
      exact .ignored (by simp [heeds, phase, Phase.isLinking, Phase.isLinkUp])

private theorem move_write (characteristic : Link.Characteristic) (data : List UInt8) :
    Move session (.write characteristic data) (session.turn (.write characteristic data)) := by
  unfold turn write
  cases linkUp : session.phase.isLinkUp with
  | false => exact .ignored (by simp [heeds, linkUp])
  | true =>
      cases inFlight : session.writeInFlight with
      | true => exact .ignored (by simp [heeds, inFlight])
      | false => exact .written linkUp inFlight

private theorem move_adapterChecked (phase : session.phase = .idle) (enabled : Bool) (now : Nat) :
    Move session (.event ⟨session.epoch, .adapterState enabled⟩ now)
      (session.adapterChecked enabled now) := by
  unfold adapterChecked
  cases pending : session.adapterCheckPending with
  | false => exact .ignored (by simp [heeds, acceptsSignal, pending])
  | true =>
      cases enabled with
      | false => exact .adapterOff now "Bluetooth is disabled" phase pending
      | true =>
          have moved :=
            Move.adapterReady now ("Scanning for " ++ session.device.name) phase pending
          simpa [Turn.beginScan, Turn.setDeadline, Turn.enter, Turn.update, Turn.say, Turn.tell,
            Turn.issue, quiet, phase] using moved

private theorem move_discovered (phase : session.phase = .scanning) (device : String) (now : Nat) :
    Move session (.event ⟨session.epoch, .deviceDiscovered device⟩ now)
      (session.discovered device now) := by
  unfold discovered
  by_cases target : device = session.device.id
  · subst target
    have moved := Move.found now ("Found " ++ session.device.name ++ ", connecting") phase
    simpa [Turn.beginConnect, Turn.setDeadline, Turn.enter, Turn.update, Turn.say, Turn.tell,
      Turn.issue, quiet, phase] using moved
  · rw [if_neg target]
    exact .ignored (by simp [heeds, acceptsSignal, target])

private theorem move_linked (phase : session.phase = .connecting) (now : Nat) :
    Move session (.event ⟨session.epoch, .connected⟩ now) session.linked := by
  have moved := Move.linked now ("Connected to " ++ session.device.name) phase
  simpa [linked, Turn.beginSubscribe, Turn.clearDeadline, Turn.enter, Turn.update, Turn.say,
    Turn.tell, Turn.issue, quiet, phase] using moved

private theorem move_subscribed (phase : session.phase = .subscribing) (now : Nat) :
    Move session (.event ⟨session.epoch, .subscribed⟩ now) session.subscribed := by
  have moved := Move.subscribed now ("Listening for ranges from " ++ session.device.name) phase
  simpa [subscribed, Turn.recordSuccess, Turn.clearDeadline, Turn.enter, Turn.update, Turn.say,
    Turn.tell, quiet, phase] using moved

private theorem move_beginRead (phase : session.phase = .subscribed) (now : Nat) :
    Move session (.event ⟨session.epoch, .notification⟩ now) session.quiet.beginRead := by
  have moved := Move.readBegun now phase
  simpa [Turn.beginRead, Turn.enter, Turn.update, Turn.tell, Turn.issue, quiet, phase] using moved

private theorem move_readCompleted (phase : session.phase = .awaitingRead) (data : List UInt8)
    (now : Nat) :
    Move session (.event ⟨session.epoch, .readCompleted data⟩ now)
      (session.readCompleted data) := by
  have moved := Move.readCompleted data now phase
  simpa [readCompleted, Turn.followUpRead_eq, Turn.count, Turn.enter, Turn.update, Turn.tell, quiet,
    nextRead, phase] using moved

private theorem move_readFailed (phase : session.phase = .awaitingRead) (reason : String)
    (now : Nat) :
    Move session (.event ⟨session.epoch, .readFailed reason⟩ now)
      (session.readFailed reason) := by
  have moved := Move.readFailed reason now ("Failed to read ranges: " ++ reason) phase
  simpa [readFailed, Turn.followUpRead_eq, Turn.count, Turn.enter, Turn.update, Turn.say, Turn.tell,
    quiet, nextRead, phase] using moved

private theorem receive_writeCompleted (now : Nat) :
    session.receive .writeCompleted now = session.writeSettled (.ok ()) := by
  cases phase : session.phase <;> simp only [receive, phase]

private theorem receive_writeFailed (reason : String) (now : Nat) :
    session.receive (.writeFailed reason) now =
      session.writeSettled (.error (.classify .write reason)) := by
  cases phase : session.phase <;> simp only [receive, phase]

private theorem receive_linkLost (reason : String) (now : Nat) :
    session.receive (.linkLost reason) now = session.linkLost reason now := by
  cases phase : session.phase <;> simp only [receive, phase]

private theorem adapterChecked_eq_quiet (refused : session.adapterCheckPending = false)
    (enabled : Bool) (now : Nat) : session.adapterChecked enabled now = session.quiet :=
  if_neg (Bool.not_eq_true _ ▸ refused)

private theorem writeSettled_eq (accepted : session.writeInFlight = true)
    (result : Except Failure Unit) :
    session.writeSettled result =
      ⟨{ session with writeInFlight := false }, [], [.writeFinished result]⟩ :=
  if_pos accepted

private theorem writeSettled_eq_quiet (refused : session.writeInFlight = false)
    (result : Except Failure Unit) : session.writeSettled result = session.quiet :=
  if_neg (Bool.not_eq_true _ ▸ refused)

private theorem linkLost_eq_quiet (refused : session.phase.isLinkUp = false) (reason : String)
    (now : Nat) : session.linkLost reason now = session.quiet :=
  if_neg (Bool.not_eq_true _ ▸ refused)

/-- A signal that does not fit the phase, or does not matter in it, changes nothing. -/
theorem receive_eq_quiet {signal : Signal} (refused : session.acceptsSignal signal = false)
    (now : Nat) : session.receive signal now = session.quiet := by
  unfold receive
  split
  case h_1 enabled phase =>
      rw [acceptsSignal, decide_eq_true phase, Bool.true_and] at refused
      exact adapterChecked_eq_quiet refused enabled now
  case h_2 device phase =>
      rw [acceptsSignal, decide_eq_true phase, Bool.true_and] at refused
      exact if_neg (of_decide_eq_false refused)
  case h_3 phase | h_5 phase | h_7 phase | h_10 phase | h_11 phase | h_16 phase
  | h_4 phase | h_6 phase | h_15 phase => exact absurd phase (of_decide_eq_false refused)
  case h_8 phase | h_9 phase => simp [acceptsSignal, phase] at refused
  case h_12 => exact writeSettled_eq_quiet refused _
  case h_13 => exact writeSettled_eq_quiet refused _
  case h_14 => exact linkLost_eq_quiet refused _ now
  case h_17 => rfl

private theorem move_linkLost (linkUp : session.phase.isLinkUp = true) (reason : String)
    (now : Nat) :
    Move session (.event ⟨session.epoch, .linkLost reason⟩ now)
      (session.linkLost reason now) := by
  have strikes : session.Strikes (.linkLost reason) (.event ⟨session.epoch, .linkLost reason⟩ now)
      now := .linkLost linkUp
  unfold linkLost
  rw [if_pos linkUp]
  exact move_retryLater session.deadline strikes rfl rfl rfl

private theorem move_receive (signal : Signal) (now : Nat) :
    Move session (.event ⟨session.epoch, signal⟩ now) (session.receive signal now) := by
  cases accepted : session.acceptsSignal signal with
  | false =>
      rw [receive_eq_quiet accepted]
      exact .ignored (by simp [heeds, accepted])
  | true =>
      cases signal with
      | adapterState enabled =>
          have phase : session.phase = .idle :=
            of_decide_eq_true (Bool.and_eq_true_iff.mp accepted).1
          simpa only [receive, phase] using move_adapterChecked phase enabled now
      | deviceDiscovered device =>
          have phase : session.phase = .scanning :=
            of_decide_eq_true (Bool.and_eq_true_iff.mp accepted).1
          simpa only [receive, phase] using move_discovered phase device now
      | scanFailed reason =>
          have phase : session.phase = .scanning := by simpa [acceptsSignal] using accepted
          have strikes : session.Strikes (.scanFailed reason)
              (.event ⟨session.epoch, .scanFailed reason⟩ now) now := .scanFailed phase
          simp only [receive, phase]
          exact move_retryLater session.deadline strikes rfl rfl rfl
      | connected =>
          have phase : session.phase = .connecting := by simpa [acceptsSignal] using accepted
          simpa only [receive, phase] using move_linked phase now
      | connectFailed reason =>
          have phase : session.phase = .connecting := by simpa [acceptsSignal] using accepted
          have strikes : session.Strikes (.connectFailed reason)
              (.event ⟨session.epoch, .connectFailed reason⟩ now) now := .connectFailed phase
          simp only [receive, phase]
          exact move_linkFailed strikes rfl rfl rfl rfl rfl
      | subscribed =>
          have phase : session.phase = .subscribing := by simpa [acceptsSignal] using accepted
          simpa only [receive, phase] using move_subscribed phase now
      | subscribeFailed reason =>
          have phase : session.phase = .subscribing := by simpa [acceptsSignal] using accepted
          have strikes : session.Strikes (.subscribeFailed reason)
              (.event ⟨session.epoch, .subscribeFailed reason⟩ now) now := .subscribeFailed phase
          simp only [receive, phase]
          exact move_linkFailed strikes rfl rfl rfl rfl rfl
      | notification =>
          have phases : session.phase = .subscribed ∨ session.phase = .awaitingRead := by
            simpa [acceptsSignal] using accepted
          rcases phases with phase | phase
          · simpa only [receive, phase] using move_beginRead phase now
          · simp only [receive, phase]
            exact .noted now phase
      | readCompleted data =>
          have phase : session.phase = .awaitingRead := by simpa [acceptsSignal] using accepted
          simpa only [receive, phase] using move_readCompleted phase data now
      | readFailed reason =>
          have phase : session.phase = .awaitingRead := by simpa [acceptsSignal] using accepted
          simpa only [receive, phase] using move_readFailed phase reason now
      | writeCompleted =>
          rw [receive_writeCompleted, writeSettled_eq accepted]
          exact .writeCompleted now accepted
      | writeFailed reason =>
          rw [receive_writeFailed, writeSettled_eq accepted]
          exact .writeFailed reason now accepted
      | disconnected =>
          have phase : session.phase = .disconnecting := by simpa [acceptsSignal] using accepted
          have moved :=
            Move.unlinked now ("Disconnected from " ++ session.device.name) phase
          simpa [receive, unlinked, Turn.enter, Turn.update, Turn.say, Turn.tell, quiet, phase]
            using moved
      | disconnectFailed reason =>
          have phase : session.phase = .disconnecting := by simpa [acceptsSignal] using accepted
          have moved :=
            Move.unlinkFailed reason now ("Disconnected from " ++ session.device.name) phase
          simpa [receive, unlinked, Turn.enter, Turn.update, Turn.say, Turn.tell, quiet, phase]
            using moved
      | linkLost reason =>
          rw [receive_linkLost]
          exact move_linkLost accepted reason now

private theorem move_handle (event : Event) (now : Nat) :
    Move session (.event event now) (session.handle event now) := by
  unfold handle
  by_cases current : event.epoch = session.epoch
  · rw [if_pos current]
    obtain ⟨epoch, signal⟩ := event
    cases current
    exact move_receive signal now
  · rw [if_neg current]
    exact .ignored (by simp [heeds, current])

private theorem move_scanTimedOut {due now : Nat}
    (waiting : session.deadline = some ⟨due, .scanTimeout⟩) (isDue : due ≤ now) :
    Move session (.poll now) ({ session with deadline := none }.scanTimedOut now) := by
  have strikes : session.Strikes .scanTimedOut (.poll now) now := .scanTimedOut waiting isDue
  have counted : ((quiet { session with deadline := none }).issue fun _ =>
      .stopScan).recordFailure = Setback.scanTimedOut.noted session none := rfl
  simp only [scanTimedOut, counted, Setback.noted_backoff]
  by_cases exhausted : session.backoff.recordFailure.isExhausted = true
  · rw [if_pos exhausted]
    simpa only [Setback.failure] using move_giveUp none strikes exhausted
  · rw [if_neg exhausted]
    have moved := Move.rescanned ("Still scanning for " ++ session.device.name) strikes rfl
      (Bool.not_eq_true _ ▸ exhausted)
    simpa [Turn.advanceEpoch_eq, Turn.beginScan, Turn.setDeadline, Turn.enter, Turn.update,
      Turn.say, Turn.tell, Turn.issue, Setback.noted, Setback.cleanup, Setback.hangUp,
        Setback.count, Setback.notificationPending, supersession] using moved

private theorem move_connectTimedOut {due now : Nat}
    (waiting : session.deadline = some ⟨due, .connectTimeout⟩) (isDue : due ≤ now) :
    Move session (.poll now) ({ session with deadline := none }.connectTimedOut now) :=
  move_retryLater none (.connectTimedOut waiting isDue) rfl rfl rfl

private theorem move_poll (now : Nat) : Move session (.poll now) (session.poll now) := by
  unfold poll
  cases waiting : session.deadline with
  | none => exact .ignored (by simp [heeds, isDue, waiting])
  | some deadline =>
      obtain ⟨due, alarm⟩ := deadline
      by_cases isDue : due ≤ now
      · simp only [if_pos isDue]
        cases alarm with
        | scanTimeout => exact move_scanTimedOut waiting isDue
        | connectTimeout => exact move_connectTimedOut waiting isDue
        | retry target =>
            cases target with
            | scan => exact .scanRetried waiting isDue
            | connect => exact .connectRetried waiting isDue
            | subscribe => exact .subscribeRetried waiting isDue
      · simp only [if_neg isDue]
        exact .ignored (by simp [heeds, Session.isDue, waiting, isDue])

/-- Every call is one of the moves. -/
theorem move_turn (session : Session) (call : Call) : Move session call (session.turn call) := by
  cases call with
  | start => exact move_start
  | disconnect => exact move_requestDisconnect
  | write characteristic data => exact move_write characteristic data
  | event event now => exact move_handle event now
  | poll now => exact move_poll now

end Calls

end Session

end TagFix
