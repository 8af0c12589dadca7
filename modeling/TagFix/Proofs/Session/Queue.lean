import TagFix.Proofs.Link.Simulated
import TagFix.Proofs.Session.Retries

/-!
# The queue of a healthy link

What stands in the queue of a link that answers every operation is what its session waits for, with
what is left of earlier searches or of an earlier link before it. The main statement is
`Move.queued`.
-/

namespace TagFix.Session

open Link (Characteristic Epoch Event Operation Signal Simulated)

/-! ## What may stand in the queue -/

/-- Whether a signal comes of a successful search for a device. -/
def isSearch (id : String) : Signal → Bool
  | .adapterState enabled => enabled
  | .deviceDiscovered device => device = id
  | _ => false

/-- Whether a signal comes of a link that is up or was lost. -/
def isTraffic : Signal → Bool
  | .subscribed | .notification | .readCompleted _ | .readFailed _ | .writeCompleted
  | .linkLost _ => true
  | _ => false

def isLoss : Signal → Bool
  | .linkLost _ => true
  | _ => false

/-- Whether a signal leaves a link as it is that is to be ended. -/
def keepsLink : Signal → Bool
  | .disconnected | .disconnectFailed _ => false
  | _ => true

/-- That the last of some events is a given one, and all before it are of one kind. -/
def EndsIn (kind : Signal → Bool) (last : Event) (events : List Event) : Prop :=
  ∃ stale, events = stale ++ [last] ∧ ∀ event ∈ stale, kind event.signal = true

/-- The queue while something is searched for in an epoch: the answer that is waited for is among
answers to other searches. -/
structure Searching (id : String) (epoch : Epoch) (answer : Signal) (subscription : Option Epoch)
    (events : List Event) : Prop where
  unsubscribed : subscription = none
  search : ∀ event ∈ events, isSearch id event.signal = true
  answered : ⟨epoch, answer⟩ ∈ events

/-- The queue while a link of an epoch is up: there is a subscription, or the news that the link was
dropped is on its way, and so is the outcome of a write. -/
structure Linked (epoch : Epoch) (writing : Bool) (subscription : Option Epoch)
    (events : List Event) : Prop where
  traffic : ∀ event ∈ events, event.epoch = epoch ∧ isTraffic event.signal = true
  subscribed :
    (subscription = some epoch ∧ ∀ reason, ⟨epoch, .linkLost reason⟩ ∉ events) ∨
      (subscription = none ∧ ∃ reason, ⟨epoch, .linkLost reason⟩ ∈ events)
  written : writing = true → ⟨epoch, .writeCompleted⟩ ∈ events

/-- What stands in the queue, phase by phase. -/
def Queued (session : Session) (subscription : Option Epoch) (events : List Event) : Prop :=
  let searching := fun answer =>
    Searching session.device.id session.epoch answer subscription events
  let linked := Linked session.epoch session.writeInFlight subscription events
  match session.phase with
  | .idle =>
      if session.adapterCheckPending then searching (.adapterState true)
      else subscription = none ∧ events = []
  | .scanning => searching (.deviceDiscovered session.device.id)
  -- Either an attempt is under way, or a pause is: then only what the lost link left may come.
  | .connecting =>
      subscription = none ∧
        (EndsIn (isSearch session.device.id) ⟨session.epoch, .connected⟩ events ∨
          session.alarm? = some (.retry .connect) ∧
            ∀ event ∈ events, isTraffic event.signal = true)
  -- The answer comes first, so nothing can go wrong before it.
  | .subscribing => events.head? = some ⟨session.epoch, .subscribed⟩ ∧ linked
  | .subscribed => session.backoff.failures = 0 ∧ linked
  | .awaitingRead =>
      session.backoff.failures = 0 ∧ linked ∧
        ∃ signal, signal.endsRead = true ∧ ⟨session.epoch, signal⟩ ∈ events
  | .disconnecting =>
      subscription = none ∧ EndsIn keepsLink ⟨session.epoch, .disconnected⟩ events
  | .disconnected =>
      subscription = none ∧ ∀ event ∈ events, isSearch session.device.id event.signal = true
  | .connected | .faulted => False

/-- What a session that has a link does with it, and what it still waits for. -/
inductive Uses (session : Session) (events : List Event) : Prop
  | subscribing (phase : session.phase = .subscribing)
      (first : events.head? = some ⟨session.epoch, .subscribed⟩)
  | listening (phase : session.phase = .subscribed) (failures : session.backoff.failures = 0)
  | reading {signal : Signal} (phase : session.phase = .awaitingRead)
      (failures : session.backoff.failures = 0) (endsRead : signal.endsRead = true)
      (answer : ⟨session.epoch, signal⟩ ∈ events)

/-! ## Queues that get shorter -/

section Queues

variable {session : Session} {subscription : Option Epoch} {events rest : List Event}
  {event : Event} {now : Nat}

/-- The oldest event is the one that is waited for, if nothing is behind it, or one of the others.
-/
theorem EndsIn.cases_cons {kind : Signal → Bool} {last : Event}
    (ends : EndsIn kind last (event :: rest)) :
    (event = last ∧ rest = []) ∨ (kind event.signal = true ∧ EndsIn kind last rest) := by
  obtain ⟨stale, split, ordinary⟩ := ends
  cases stale with
  | nil =>
      obtain ⟨rfl, rfl⟩ := List.cons_eq_cons.mp split
      exact Or.inl ⟨rfl, rfl⟩
  | cons first stale =>
      obtain ⟨rfl, rfl⟩ := List.cons_eq_cons.mp split
      rw [List.forall_mem_cons] at ordinary
      exact Or.inr ⟨ordinary.1, stale, rfl, ordinary.2⟩

theorem EndsIn.ne_nil {kind : Signal → Bool} {last : Event} (ends : EndsIn kind last events) :
    events ≠ [] := by
  obtain ⟨stale, rfl, _⟩ := ends
  exact List.concat_ne_nil last stale

private theorem EndsIn.kept {kind : Signal → Bool} {last : Event} (ends : EndsIn kind last events)
    (keeps : ∀ signal, kind signal = true → keepsLink signal = true)
    (lastKeeps : keepsLink last.signal = true) :
    ∀ event ∈ events, keepsLink event.signal = true := by
  obtain ⟨stale, rfl, ordinary⟩ := ends
  rw [List.forall_mem_append, List.forall_mem_singleton]
  exact ⟨fun event member => keeps _ (ordinary event member), lastKeeps⟩

private theorem keepsLink_of_isSearch {id : String} (signal : Signal)
    (search : isSearch id signal = true) :
    keepsLink signal = true := by
  cases signal with
  | disconnected | disconnectFailed => cases search
  | _ => rfl

private theorem keepsLink_of_isTraffic (signal : Signal) (traffic : isTraffic signal = true) :
    keepsLink signal = true := by
  cases signal with
  | disconnected | disconnectFailed => cases traffic
  | _ => rfl

private theorem isTraffic_of_endsRead {signal : Signal} (endsRead : signal.endsRead = true) :
    isTraffic signal = true := by
  cases signal with
  | readCompleted | readFailed => rfl
  | _ => cases endsRead

private theorem isLoss_of_endsRead {signal : Signal} (endsRead : signal.endsRead = true) :
    isLoss signal = false := by
  cases signal with
  | linkLost => cases endsRead
  | _ => rfl

private theorem ne_writeCompleted_of_endsRead {signal : Signal}
    (endsRead : signal.endsRead = true) :
    signal ≠ .writeCompleted := by
  rintro rfl
  cases endsRead

/-- An event that is waited for stays in the queue while others are taken from it in vain. -/
theorem mem_of_unheeded {sought : Event} (unheeded : session.heeds (.event event now) = false)
    (heeded : session.heeds (.event sought now) = true) (member : sought ∈ event :: rest) :
    sought ∈ rest := by
  rcases List.mem_cons.mp member with rfl | later
  · rw [unheeded] at heeded
    cases heeded
  · exact later

private theorem Searching.tail {id : String} {answer : Signal}
    (searching : Searching id session.epoch answer subscription (event :: rest))
    (unheeded : session.heeds (.event event now) = false)
    (heeded : session.heeds (.event ⟨session.epoch, answer⟩ now) = true) :
    Searching id session.epoch answer subscription rest where
  unsubscribed := searching.unsubscribed
  search := (List.forall_mem_cons.mp searching.search).2
  answered := mem_of_unheeded unheeded heeded searching.answered

private theorem Linked.tail
    (linked : Linked session.epoch session.writeInFlight subscription (event :: rest))
    (linkUp : session.phase.isLinkUp = true)
    (unheeded : session.heeds (.event event now) = false) :
    Linked session.epoch session.writeInFlight subscription rest where
  traffic := (List.forall_mem_cons.mp linked.traffic).2
  subscribed := by
    rcases linked.subscribed with ⟨same, kept⟩ | ⟨none, reason, dropped⟩
    · exact Or.inl ⟨same, fun reason later => kept reason (List.mem_cons_of_mem _ later)⟩
    · refine Or.inr ⟨none, reason, mem_of_unheeded unheeded ?_ dropped⟩
      simp [heeds, acceptsSignal, linkUp]
  written inFlight := by
    refine mem_of_unheeded unheeded ?_ (linked.written inFlight)
    simp [heeds, acceptsSignal, inFlight]

/-- An event that is ignored leaves the queue as it should be. -/
theorem Queued.tail (queued : Queued session subscription (event :: rest))
    (unheeded : session.heeds (.event event now) = false) : Queued session subscription rest := by
  unfold Queued at queued ⊢
  cases phase : session.phase <;> simp only [phase] at queued ⊢
  case idle =>
    split at queued
    · next pending =>
        rw [if_pos pending]
        exact queued.tail unheeded (by simp [heeds, acceptsSignal, phase, pending])
    · cases queued.2
  case scanning => exact queued.tail unheeded (by simp [heeds, acceptsSignal, phase])
  case connecting =>
    refine ⟨queued.1, queued.2.imp ?_ ?_⟩
    · intro ends
      rcases ends.cases_cons with ⟨rfl, _⟩ | later
      · simp [heeds, acceptsSignal, phase] at unheeded
      · exact later.2
    · exact And.imp_right fun traffic => (List.forall_mem_cons.mp traffic).2
  case subscribing =>
    cases queued.1
    simp [heeds, acceptsSignal, phase] at unheeded
  case subscribed =>
    exact queued.imp_right fun linked => linked.tail (by simp [phase, Phase.isLinkUp]) unheeded
  case awaitingRead =>
    obtain ⟨failures, linked, signal, endsRead, answer⟩ := queued
    refine ⟨failures, linked.tail (by simp [phase, Phase.isLinkUp]) unheeded, signal, endsRead,
      mem_of_unheeded unheeded ?_ answer⟩
    cases signal with
    | readCompleted | readFailed => simp [heeds, acceptsSignal, phase]
    | _ => cases endsRead
  case disconnecting =>
    rcases queued.2.cases_cons with ⟨rfl, _⟩ | later
    · simp [heeds, acceptsSignal, phase] at unheeded
    · exact ⟨queued.1, later.2⟩
  case disconnected => exact ⟨queued.1, (List.forall_mem_cons.mp queued.2).2⟩

/-! ## What a phase says of the queue -/

private theorem Queued.search_of_canStart (queued : Queued session subscription events)
    (startable : session.phase.canStart = true) :
    subscription = none ∧ ∀ event ∈ events, isSearch session.device.id event.signal = true := by
  unfold Queued at queued
  cases phase : session.phase <;> simp only [phase] at queued startable
  case idle =>
    split at queued
    · exact ⟨queued.unsubscribed, queued.search⟩
    · exact ⟨queued.1, by simp [queued.2]⟩
  case disconnected => exact queued
  all_goals cases startable

private theorem queued_iff_of_isLinkUp (linkUp : session.phase.isLinkUp = true) :
    Queued session subscription events ↔
      Uses session events ∧ Linked session.epoch session.writeInFlight subscription events := by
  constructor
  · intro queued
    unfold Queued at queued
    cases phase : session.phase <;> simp only [phase] at queued linkUp
    case subscribing => exact ⟨.subscribing phase queued.1, queued.2⟩
    case subscribed => exact ⟨.listening phase queued.1, queued.2⟩
    case awaitingRead =>
      obtain ⟨failures, linked, signal, endsRead, answer⟩ := queued
      exact ⟨.reading phase failures endsRead answer, linked⟩
    all_goals cases linkUp
  · rintro ⟨uses, linked⟩
    cases uses with
    | subscribing phase first =>
        simp only [Queued, phase]
        exact ⟨first, linked⟩
    | listening phase failures =>
        simp only [Queued, phase]
        exact ⟨failures, linked⟩
    | reading phase failures endsRead answer =>
        simp only [Queued, phase]
        exact ⟨failures, linked, _, endsRead, answer⟩

theorem Queued.linked_of_isLinkUp (queued : Queued session subscription events)
    (linkUp : session.phase.isLinkUp = true) :
    Linked session.epoch session.writeInFlight subscription events :=
  ((queued_iff_of_isLinkUp linkUp).mp queued).2

/-- While there is a link or one in the making, its end is not yet on its way. -/
theorem Queued.kept_of_isLinking (queued : Queued session subscription events)
    (linking : session.phase.isLinking = true) :
    ∀ event ∈ events, keepsLink event.signal = true := by
  by_cases linkUp : session.phase.isLinkUp = true
  · have linked := queued.linked_of_isLinkUp linkUp
    exact fun event member => keepsLink_of_isTraffic _ (linked.traffic event member).2
  · have phase : session.phase = .connecting := by
      cases phase : session.phase with
      | connecting => rfl
      | _ =>
          rw [phase] at linking linkUp
          exact absurd linking linkUp
    simp only [Queued, phase] at queued
    rcases queued.2 with ends | ⟨_, traffic⟩
    · exact ends.kept keepsLink_of_isSearch rfl
    · exact fun event member => keepsLink_of_isTraffic _ (traffic event member)

/-- A link on which there is a subscription is up for the session too, in the same epoch. -/
theorem Queued.linkUp_of_subscribed {epoch : Epoch}
    (queued : Queued session (some epoch) events) :
    session.phase.isLinkUp = true ∧ epoch = session.epoch := by
  have linkUp : session.phase.isLinkUp = true := by
    unfold Queued at queued
    cases phase : session.phase <;> simp only [phase] at queued
    case idle =>
      split at queued
      · cases queued.unsubscribed
      · cases queued.1
    case scanning => cases queued.unsubscribed
    case connecting | disconnecting | disconnected => cases queued.1
    case subscribing | subscribed | awaitingRead => rfl
  refine ⟨linkUp, ?_⟩
  rcases (queued.linked_of_isLinkUp linkUp).subscribed with ⟨same, _⟩ | ⟨none, _⟩
  · exact Option.some.inj same
  · cases none

end Queues

/-! ## Queues that grow -/

section Growth

variable {epoch : Epoch} {writing : Bool} {subscription : Option Epoch} {events rest : List Event}

private theorem Searching.begun {id : String} {answer : Signal}
    (search : ∀ event ∈ events, isSearch id event.signal = true)
    (answers : isSearch id answer = true) :
    Searching id epoch answer none (events ++ [⟨epoch, answer⟩]) where
  unsubscribed := rfl
  search := by
    rw [List.forall_mem_append, List.forall_mem_singleton]
    exact ⟨search, answers⟩
  answered := List.mem_concat_self

private theorem EndsIn.concat {kind : Signal → Bool}
    (kinds : ∀ event ∈ events, kind event.signal = true)
    (last : Event) : EndsIn kind last (events ++ [last]) :=
  ⟨events, rfl, kinds⟩

private theorem Linked.begun : Linked epoch false (some epoch) [⟨epoch, .subscribed⟩] where
  traffic := List.forall_mem_singleton.mpr ⟨rfl, rfl⟩
  subscribed := Or.inl ⟨rfl, by simp⟩
  written inFlight := by cases inFlight

private theorem ne_linkLost {signal : Signal} (stays : isLoss signal = false) (reason : String) :
    signal ≠ .linkLost reason := by
  rintro rfl
  cases stays

/-- Traffic that does not end the link leaves the queue in order. -/
theorem Linked.concat (linked : Linked epoch writing subscription events) (signal : Signal)
    (traffic : isTraffic signal = true) (stays : isLoss signal = false) :
    Linked epoch writing subscription (events ++ [⟨epoch, signal⟩]) where
  traffic := by
    rw [List.forall_mem_append, List.forall_mem_singleton]
    exact ⟨linked.traffic, rfl, traffic⟩
  subscribed := by
    refine linked.subscribed.imp ?_ ?_
    · rintro ⟨same, kept⟩
      refine ⟨same, fun reason => ?_⟩
      simpa [Ne.symm (ne_linkLost stays reason)] using kept reason
    · rintro ⟨none, reason, dropped⟩
      exact ⟨none, reason, List.mem_append_left _ dropped⟩
  written inFlight := List.mem_append_left _ (linked.written inFlight)

/-- The news that the link was dropped takes the place of the subscription. -/
theorem Linked.dropped (linked : Linked epoch writing subscription events) (reason : String) :
    Linked epoch writing none (events ++ [⟨epoch, .linkLost reason⟩]) where
  traffic := by
    rw [List.forall_mem_append, List.forall_mem_singleton]
    exact ⟨linked.traffic, rfl, rfl⟩
  subscribed := Or.inr ⟨rfl, reason, List.mem_concat_self⟩
  written inFlight := List.mem_append_left _ (linked.written inFlight)

/-- The queue after an event that changes neither the subscription nor a write. -/
theorem Linked.delivered {signal : Signal}
    (linked : Linked epoch writing subscription (⟨epoch, signal⟩ :: rest))
    (stays : isLoss signal = false) (other : writing = true → signal ≠ .writeCompleted) :
    Linked epoch writing subscription rest where
  traffic := (List.forall_mem_cons.mp linked.traffic).2
  subscribed := by
    refine linked.subscribed.imp ?_ ?_
    · exact And.imp_right fun kept reason later => kept reason (List.mem_cons_of_mem _ later)
    · rintro ⟨none, reason, dropped⟩
      refine ⟨none, reason, ?_⟩
      simpa [Ne.symm (ne_linkLost stays reason)] using dropped
  written inFlight := by simpa [Ne.symm (other inFlight)] using linked.written inFlight

private theorem Linked.unwritten (linked : Linked epoch writing subscription events) :
    Linked epoch false subscription events where
  traffic := linked.traffic
  subscribed := linked.subscribed
  written inFlight := by cases inFlight

private theorem mem_of_endsRead {signal other : Signal} (endsRead : signal.endsRead = true)
    (goesOn : other.endsRead = false) (member : ⟨epoch, signal⟩ ∈ ⟨epoch, other⟩ :: rest) :
    ⟨epoch, signal⟩ ∈ rest := by
  rcases List.mem_cons.mp member with same | later
  · cases same
    rw [goesOn] at endsRead
    cases endsRead
  · exact later

end Growth

/-! ## Moves on a healthy link -/

/-- How a call finds and leaves the queue: an event is the oldest that waits, and a poll comes only
when none does. -/
def Leaves (events : List Event) (call : Call) (rest : List Event) : Prop :=
  match call with
  | .event event _ => events = event :: rest
  | .poll _ => events = [] ∧ rest = []
  | _ => rest = events

section Moves

variable {session : Session} {call : Call} {turn : Turn} {subscription : Option Epoch}
  {events rest : List Event}

/-- On a healthy link only a link that was dropped counts as a failure, and it is the first one. -/
theorem Queued.lost_of_strikes {setback : Setback} {now : Nat}
    (queued : Queued session subscription events) (coherent : Coherent session)
    (leaves : Leaves events call rest) (strikes : session.Strikes setback call now) :
    (∃ reason, setback = .linkLost reason) ∧ session.backoff.failures = 0 ∧
      subscription = none ∧ ∀ event ∈ rest, isTraffic event.signal = true := by
  cases strikes with
  | scanFailed phase =>
      simp only [Queued, phase] at queued
      cases leaves
      cases (List.forall_mem_cons.mp queued.search).1
  | scanTimedOut waiting =>
      simp only [Queued, coherent.scanning_of_scanTimeout waiting, leaves.1] at queued
      cases queued.answered
  | connectFailed phase =>
      simp only [Queued, phase] at queued
      cases leaves
      rcases queued.2 with ends | ⟨_, traffic⟩
      · rcases ends.cases_cons with ⟨same, _⟩ | ⟨search, _⟩
        · cases same
        · cases search
      · cases (List.forall_mem_cons.mp traffic).1
  | connectTimedOut waiting =>
      simp only [Queued, coherent.connecting_of_connectTimeout waiting, alarm?, waiting] at queued
      rcases queued.2 with ends | ⟨retrying, _⟩
      · exact absurd leaves.1 ends.ne_nil
      · cases retrying
  | subscribeFailed phase =>
      simp only [Queued, phase] at queued
      cases leaves
      cases queued.1
  | @linkLost reason now linkUp =>
      obtain ⟨uses, linked⟩ := (queued_iff_of_isLinkUp linkUp).mp queued
      cases leaves
      refine ⟨⟨reason, rfl⟩, ?_, ?_, ?_⟩
      · cases uses with
        | subscribing phase first => cases first
        | listening phase failures => exact failures
        | reading phase failures => exact failures
      · rcases linked.subscribed with ⟨_, kept⟩ | ⟨none, _⟩
        · exact absurd List.mem_cons_self (kept reason)
        · exact none
      · intro event member
        exact (linked.traffic event (List.mem_cons_of_mem _ member)).2

private theorem Uses.writing (uses : Uses session events) (writing : Bool) :
    Uses { session with writeInFlight := writing } events := by
  cases uses with
  | subscribing phase first => exact .subscribing phase first
  | listening phase failures => exact .listening phase failures
  | reading phase failures endsRead answer => exact .reading phase failures endsRead answer

/-- While a link is up the queue may get longer, and everything in it stays in its place. -/
theorem Queued.append {writing : Bool} {after : Option Epoch} {event : Event}
    (queued : Queued session subscription events) (linkUp : session.phase.isLinkUp = true)
    (linked : Linked session.epoch writing after (events ++ [event])) :
    Queued { session with writeInFlight := writing } after (events ++ [event]) := by
  have uses : Uses session (events ++ [event]) := by
    cases ((queued_iff_of_isLinkUp linkUp).mp queued).1 with
    | subscribing phase first => exact .subscribing phase (by simp [first])
    | listening phase failures => exact .listening phase failures
    | reading phase failures endsRead answer =>
        exact .reading phase failures endsRead (List.mem_append_left _ answer)
  refine (queued_iff_of_isLinkUp ?_).mpr ⟨uses.writing writing, linked⟩
  exact linkUp

variable {link : Simulated}

/-- What stands in the queue of a link once a session has asked for operations. -/
def QueuedAfter (session : Session) (link : Simulated) (operations : List Operation) : Prop :=
  Queued session (operations.foldl Simulated.perform link).subscription
    (operations.foldl Simulated.perform link).events

/-- The answer to an operation joins the end of the queue. -/
theorem queuedAfter_of_answer {operation : Operation} {answer : Event}
    (sends : link.canSend = true) (answered : link.answer? operation = some answer)
    (queued : Queued session (link.effect operation).subscription (link.events ++ [answer])) :
    QueuedAfter session link [operation] := by
  simpa only [QueuedAfter, List.foldl_cons, List.foldl_nil, Simulated.perform_eq sends, answered,
    Option.toList_some] using queued

private theorem queuedAfter_read (sends : link.canSend = true) {device : String}
    {characteristic : Characteristic} (phase : session.phase = .awaitingRead)
    (failures : session.backoff.failures = 0)
    (linked : Linked session.epoch session.writeInFlight link.subscription link.events) :
    QueuedAfter session link [.read device characteristic session.epoch] := by
  obtain ⟨signal, endsRead, answered⟩ := link.answer?_read device characteristic session.epoch
  refine queuedAfter_of_answer sends answered ?_
  have begun : Uses session (link.events ++ [⟨session.epoch, signal⟩]) :=
    .reading phase failures endsRead List.mem_concat_self
  refine (queued_iff_of_isLinkUp (by simp [phase, Phase.isLinkUp])).mpr
    ⟨begun, linked.concat signal (isTraffic_of_endsRead endsRead) (isLoss_of_endsRead endsRead)⟩

private theorem Queued.scanStopped (queued : Queued session link.subscription link.events)
    (phase : session.phase = .scanning) (sends : link.canSend = true) {after : Session}
    (stopped : after.phase = .disconnected) (device : after.device = session.device) :
    QueuedAfter after link [.stopScan] := by
  simp only [Queued, phase] at queued
  simp only [QueuedAfter, List.foldl_cons, List.foldl_nil, Simulated.perform_eq sends,
    Simulated.effect, Simulated.answer?, Option.toList_none, List.append_nil, Queued, stopped,
    device]
  exact ⟨queued.unsubscribed, queued.search⟩

private theorem Queued.adapterReady {event : Event}
    (queued : Queued session link.subscription (event :: link.events))
    (phase : session.phase = .idle) (pending : session.adapterCheckPending = true)
    (sends : link.canSend = true) (advertised : link.advertised = some session.device.id)
    {after : Session} (scanning : after.phase = .scanning)
    (device : after.device = session.device) :
    QueuedAfter after link [.startScan after.epoch] := by
  simp only [Queued, phase, pending, if_true] at queued
  have answered : link.answer? (.startScan after.epoch) =
      some ⟨after.epoch, .deviceDiscovered session.device.id⟩ := by
    simp [Simulated.answer?, advertised]
  refine queuedAfter_of_answer sends answered ?_
  simp only [Queued, scanning, device, Simulated.effect, queued.unsubscribed]
  exact Searching.begun (List.forall_mem_cons.mp queued.search).2 (by simp [isSearch])

private theorem Queued.found {event : Event}
    (queued : Queued session link.subscription (event :: link.events))
    (phase : session.phase = .scanning) (sends : link.canSend = true) {after : Session}
    (connecting : after.phase = .connecting) (device : after.device = session.device) :
    QueuedAfter after link [.stopScan, .connect session.device.id after.epoch] := by
  simp only [Queued, phase] at queued
  refine queuedAfter_of_answer (Simulated.canSend_perform sends .stopScan) rfl ?_
  simp only [Queued, connecting, device, Simulated.perform_eq sends, Simulated.effect,
    Simulated.answer?, Option.toList_none, List.append_nil]
  exact ⟨queued.unsubscribed, Or.inl (.concat (List.forall_mem_cons.mp queued.search).2 _)⟩

/-- A link that comes up leaves nothing in the queue but what it brings itself. -/
theorem Queued.linked
    (queued : Queued session link.subscription (⟨session.epoch, .connected⟩ :: link.events))
    (phase : session.phase = .connecting) (sends : link.canSend = true) {after : Session}
    (subscribing : after.phase = .subscribing) (unwritten : after.writeInFlight = false) :
    QueuedAfter after link [.startNotification session.device.id .location after.epoch] := by
  simp only [Queued, phase] at queued
  have last : link.events = [] := by
    rcases queued.2 with ends | ⟨_, traffic⟩
    · rcases ends.cases_cons with ⟨_, last⟩ | ⟨search, _⟩
      · exact last
      · cases search
    · cases (List.forall_mem_cons.mp traffic).1
  refine queuedAfter_of_answer sends rfl ?_
  simp only [last, Simulated.effect, Queued, subscribing, unwritten]
  exact ⟨rfl, .begun⟩

private theorem Queued.noted
    (queued : Queued session subscription (⟨session.epoch, .notification⟩ :: rest))
    (phase : session.phase = .awaitingRead) :
    Queued { session with notificationPending := true } subscription rest := by
  simp only [Queued, phase] at queued
  obtain ⟨failures, linked, signal, endsRead, answer⟩ := queued
  simp only [Queued, phase]
  exact ⟨failures, linked.delivered rfl (by simp), signal, endsRead,
    mem_of_endsRead endsRead rfl answer⟩

/-- The outcome of a read leaves the queue to the next one, if it follows at once. -/
theorem Queued.readEnded {signal : Signal}
    (queued : Queued session link.subscription (⟨session.epoch, signal⟩ :: link.events))
    (phase : session.phase = .awaitingRead) (endsRead : signal.endsRead = true)
    (sends : link.canSend = true) (counters : Counters) :
    QueuedAfter
      { session with
        phase := if session.notificationPending then .awaitingRead else .subscribed
        notificationPending := false
        counters } link session.nextRead := by
  simp only [Queued, phase] at queued
  have linked := queued.2.1.delivered (isLoss_of_endsRead endsRead)
    fun _ => ne_writeCompleted_of_endsRead endsRead
  cases pending : session.notificationPending with
  | false =>
      simp only [nextRead, pending]
      exact ⟨queued.1, linked⟩
  | true =>
      simp only [nextRead, pending, if_true]
      refine queuedAfter_read sends rfl ?_ ?_
      · exact queued.1
      · exact linked

private theorem Queued.writeCompleted
    (queued : Queued session subscription (⟨session.epoch, .writeCompleted⟩ :: rest))
    (linkUp : session.phase.isLinkUp = true) :
    Queued { session with writeInFlight := false } subscription rest := by
  obtain ⟨uses, linked⟩ := (queued_iff_of_isLinkUp linkUp).mp queued
  have uses : Uses session rest := by
    cases uses with
    | subscribing phase first => cases first
    | listening phase failures => exact .listening phase failures
    | reading phase failures endsRead answer =>
        exact .reading phase failures endsRead (mem_of_endsRead endsRead rfl answer)
  refine (queued_iff_of_isLinkUp ?_).mpr
    ⟨uses.writing false, linked.unwritten.delivered rfl (by simp)⟩
  exact linkUp

/-- The end of a link is the last event in the queue, and no failure. -/
theorem Queued.ended {event : Event} (queued : Queued session subscription (event :: rest))
    (phase : session.phase = .disconnecting) (ends : keepsLink event.signal = false) :
    event = ⟨session.epoch, .disconnected⟩ ∧ subscription = none ∧ rest = [] := by
  simp only [Queued, phase] at queued
  rcases queued.2.cases_cons with ⟨same, last⟩ | ⟨kept, _⟩
  · exact ⟨same, queued.1, last⟩
  · rw [ends] at kept
    cases kept

/-- A poll comes with the queue empty, so only an attempt to connect can wait for its pause. -/
theorem Queued.connecting_of_retry {due : Nat} {target : RetryTarget}
    (queued : Queued session subscription []) (coherent : Coherent session)
    (waiting : session.deadline = some ⟨due, .retry target⟩) :
    target = .connect ∧ subscription = none := by
  have phase := coherent.phase_of_retry waiting
  cases target with
  | scan =>
      simp only [Queued, phase, RetryTarget.phase] at queued
      cases queued.answered
  | connect =>
      simp only [Queued, phase, RetryTarget.phase] at queued
      exact ⟨rfl, queued.1⟩
  | subscribe =>
      simp only [Queued, phase, RetryTarget.phase] at queued
      cases queued.1

/-- Whatever a session on a healthy link does, the queue holds what it waits for. -/
theorem Move.queued {limit : Nat} (move : Move session call turn) (coherent : Coherent session)
    (bounded : Bounded limit session) (several : 2 ≤ limit) (sends : link.canSend = true)
    (advertised : link.advertised = some session.device.id)
    (queued : Queued session link.subscription events) (leaves : Leaves events call link.events) :
    QueuedAfter turn.session link turn.issued := by
  cases move with
  | ignored unheeded =>
      cases call with
      | event event now =>
          cases leaves
          exact queued.tail unheeded
      | poll now => rwa [leaves.1, ← leaves.2] at queued
      | start | disconnect | write =>
          cases leaves
          exact queued
  | started text startable =>
      cases leaves
      obtain ⟨unsubscribed, search⟩ := queued.search_of_canStart startable
      refine queuedAfter_of_answer sends rfl ?_
      simp only [Simulated.effect, unsubscribed]
      exact Searching.begun search rfl
  | cancelled phase =>
      cases leaves
      exact queued.search_of_canStart (by simp [phase, Phase.canStart])
  | scanStopped text phase =>
      cases leaves
      exact queued.scanStopped phase sends rfl rfl
  | disconnecting text linking =>
      cases leaves
      exact queuedAfter_of_answer sends rfl ⟨rfl, .concat (queued.kept_of_isLinking linking) _⟩
  | written linkUp free =>
      cases leaves
      have linked := (queued.linked_of_isLinkUp linkUp).concat .writeCompleted rfl rfl
      refine queuedAfter_of_answer sends rfl (queued.append linkUp ?_)
      exact ⟨linked.traffic, linked.subscribed, fun _ => List.mem_concat_self⟩
  | adapterReady now text phase pending =>
      cases leaves
      exact queued.adapterReady phase pending sends advertised rfl rfl
  | adapterOff now text phase pending =>
      cases leaves
      simp only [Queued, phase, pending, if_true] at queued
      cases (List.forall_mem_cons.mp queued.search).1
  | found now text phase =>
      cases leaves
      exact queued.found phase sends rfl rfl
  | linked now text phase =>
      cases leaves
      exact queued.linked phase sends rfl
        (coherent.write_eq_false (by simp [phase, Phase.isLinkUp]))
  | subscribed now text phase =>
      cases leaves
      simp only [Queued, phase] at queued
      exact ⟨rfl, queued.2.delivered rfl (by simp)⟩
  | readBegun now phase =>
      cases leaves
      simp only [Queued, phase] at queued
      exact queuedAfter_read sends rfl queued.1 (queued.2.delivered rfl (by simp))
  | noted now phase =>
      cases leaves
      exact queued.noted phase
  | readCompleted data now phase | readFailed reason now text phase =>
      cases leaves
      exact queued.readEnded phase rfl sends _
  | writeCompleted now inFlight =>
      cases leaves
      exact queued.writeCompleted (coherent.linkUp_of_write inFlight)
  | writeFailed reason now inFlight =>
      cases leaves
      have linked := queued.linked_of_isLinkUp (coherent.linkUp_of_write inFlight)
      cases (List.forall_mem_cons.mp linked.traffic).1.2
  | unlinked now text phase =>
      cases leaves
      obtain ⟨_, unsubscribed, last⟩ := queued.ended phase rfl
      have empty : ∀ event ∈ link.events, isSearch session.device.id event.signal = true := by
        rw [last]
        exact List.forall_mem_nil _
      exact ⟨unsubscribed, empty⟩
  | unlinkFailed reason now text phase =>
      cases leaves
      cases (queued.ended phase rfl).1
  -- A dropped link is the first failure in a row, and a second one is allowed.
  | gaveUp text strikes exhausted =>
      obtain ⟨_, failures, _⟩ := queued.lost_of_strikes coherent leaves strikes
      have going := coherent.phase_ne_faulted_of_fails strikes.uneventful.fails
      have last := (bounded.recordFailure going).2.mp exhausted
      omega
  | paused text strikes again =>
      obtain ⟨⟨reason, rfl⟩, _, unsubscribed, traffic⟩ :=
        queued.lost_of_strikes coherent leaves strikes
      cases again
      exact ⟨unsubscribed, Or.inr ⟨rfl, traffic⟩⟩
  | rescanned text strikes lost =>
      obtain ⟨⟨reason, rfl⟩, _⟩ := queued.lost_of_strikes coherent leaves strikes
      cases lost
  | scanRetried waiting | subscribeRetried waiting =>
      rw [leaves.1] at queued
      cases (queued.connecting_of_retry coherent waiting).1
  | connectRetried waiting =>
      rw [leaves.1] at queued
      have phase : session.phase = .connecting := coherent.phase_of_retry waiting
      refine queuedAfter_of_answer sends rfl ?_
      simp only [leaves.2, Queued, phase]
      exact ⟨(queued.connecting_of_retry coherent waiting).2,
        Or.inl (.concat (List.forall_mem_nil _) _)⟩

theorem Move.device_eq (move : Move session call turn) : turn.session.device = session.device := by
  cases move with
  | _ => rfl

/-- The failures in a row never get to be more than the one that a dropped link is. -/
theorem Move.failures_le (move : Move session call turn) (coherent : Coherent session)
    (queued : Queued session subscription events) (leaves : Leaves events call rest)
    (few : session.backoff.failures ≤ 1) : turn.session.backoff.failures ≤ 1 := by
  cases move with
  | gaveUp text strikes | paused text strikes | rescanned text strikes =>
      have none := (queued.lost_of_strikes coherent leaves strikes).2.1
      exact Nat.le_trans (Nat.min_le_left _ _) (by omega)
  | started | subscribed => exact Nat.zero_le _
  | _ => exact few

/-- A session that was not started before a call was not started by it either. -/
theorem Move.unstarted (move : Move session call turn) (queued : Queued session subscription events)
    (leaves : Leaves events call rest) (idle : turn.session.phase = .idle)
    (unchecked : turn.session.adapterCheckPending = false) :
    session.phase = .idle ∧ session.adapterCheckPending = false ∧ call ≠ .start := by
  cases move with
  | ignored unheeded =>
      refine ⟨idle, unchecked, ?_⟩
      rintro rfl
      simp [heeds, show session.phase = .idle from idle, Phase.canStart] at unheeded
  | writeCompleted | writeFailed | scanRetried | connectRetried | subscribeRetried =>
      exact ⟨idle, unchecked, by simp⟩
  | written linkUp =>
      simp [show session.phase = .idle from idle, Phase.isLinkUp] at linkUp
  | adapterOff now text phase pending =>
      cases leaves
      simp only [Queued, phase, pending, if_true] at queued
      cases (List.forall_mem_cons.mp queued.search).1
  | noted now phase => cases phase.symm.trans idle
  | readCompleted | readFailed =>
      dsimp only at idle
      split at idle
      · cases idle
      · cases idle
  | @paused setback target =>
      cases target with
      | scan | connect | subscribe => cases idle
  | started => cases unchecked
  | _ => cases idle

end Moves

end TagFix.Session
