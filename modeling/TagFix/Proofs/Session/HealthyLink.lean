import TagFix.Proofs.Session.Epochs
import TagFix.Proofs.Session.Queue

/-!
# Sessions on a healthy link

A session and a simulated link that answers every operation make a closed system: whatever the
session asks for comes back to it through the queue of the link. In such a system nothing can fail
but a link that is dropped, and once the queue is empty the session has come to a stop. The main
statement is `steady_after`.
-/

namespace TagFix.Session

open Link (Characteristic Epoch Event Operation Simulated)

/-! ## The closed system -/

/-- A session and the link that it talks to. -/
structure World where
  session : Session
  link : Simulated

/-- What can happen next: the oldest event is delivered, the host makes a call, or something
happens to the tag. -/
inductive Step
  | deliver (now : Nat)
  | start
  | disconnect
  | write (characteristic : Characteristic) (data : List UInt8)
  | queuePayload (payload : List UInt8)
  | notify
  | drop (reason : String)
  | poll (now : Nat)

namespace World

/-- The link once the event that a call brings was taken from its queue. -/
def handOver (link : Simulated) : Call → Simulated
  | .event .. => { link with events := link.events.tail }
  | _ => link

def call (world : World) (call : Call) : World :=
  let turn := world.session.turn call
  ⟨turn.session, turn.issued.foldl Simulated.perform (handOver world.link call)⟩

/-- The next state. There is nothing to deliver from an empty queue, and a deadline is only looked
at when the queue is empty. -/
def step (world : World) : Step → World
  | .deliver now =>
      match world.link.events with
      | [] => world
      | event :: _ => world.call (.event event now)
  | .start => world.call .start
  | .disconnect => world.call .disconnect
  | .write characteristic data => world.call (.write characteristic data)
  | .queuePayload payload => { world with link := world.link.queuePayload payload }
  | .notify => { world with link := world.link.notify.1 }
  | .drop reason => { world with link := (world.link.drop reason).1 }
  | .poll now => if world.link.events = [] then world.call (.poll now) else world

def after (world : World) (steps : List Step) : World :=
  steps.foldl step world

/-- A session that was never started, and a link that advertises its device. -/
def fresh (device : Device) (settings : Config.Retry) : World :=
  ⟨Session.fresh device settings, Simulated.fresh (some device.id)⟩

end World

/-! ## Steps as calls -/

def Step.call? (events : List Event) : Step → Option Call
  | .deliver now => events.head?.map fun event => .event event now
  | .start => some .start
  | .disconnect => some .disconnect
  | .write characteristic data => some (.write characteristic data)
  | .poll now => if events = [] then some (.poll now) else none
  | .queuePayload _ | .notify | .drop _ => none

/-- A step that makes a call finds and leaves the queue as that call does. -/
theorem step_of_call? {world : World} {step : Step} {call : Call}
    (made : step.call? world.link.events = some call) :
    world.step step = world.call call ∧
      Leaves world.link.events call (World.handOver world.link call).events := by
  cases step with
  | deliver now =>
      cases waiting : world.link.events with
      | nil => simp [Step.call?, waiting] at made
      | cons event rest =>
          simp only [Step.call?, waiting, List.head?_cons, Option.map_some] at made
          cases made
          simp [World.step, Leaves, World.handOver, waiting]
  | start | disconnect | write =>
      cases made
      exact ⟨rfl, rfl⟩
  | poll now =>
      simp only [Step.call?] at made
      split at made
      · next empty =>
          cases made
          exact ⟨if_pos empty, empty, empty⟩
      · cases made
  | queuePayload | notify | drop => cases made

/-- A step that makes no call leaves the session as it is. -/
theorem step_of_call?_eq_none {world : World} {step : Step}
    (unmade : step.call? world.link.events = none) :
    world.step step = ⟨world.session, (world.step step).link⟩ := by
  cases step with
  | deliver now =>
      cases waiting : world.link.events with
      | nil => simp [World.step, waiting]
      | cons event rest => simp [Step.call?, waiting] at unmade
  | start | disconnect | write => cases unmade
  | poll now =>
      simp only [Step.call?] at unmade
      split at unmade
      · cases unmade
      · next waiting => simp [World.step, waiting]
  | queuePayload | notify | drop => rfl

/-! ## Healthy worlds -/

/-- What holds of a session on a healthy link in every state. -/
structure Healthy (limit : Nat) (world : World) : Prop where
  coherent : Coherent world.session
  bounded : Bounded limit world.session
  failures : world.session.backoff.failures ≤ 1
  advertised : world.link.advertised = some world.session.device.id
  isOpen : world.link.isOpen = true
  queued : Queued world.session world.link.subscription world.link.events

section Worlds

variable {limit : Nat} {world : World}

private theorem Healthy.canSend (healthy : Healthy limit world) : world.link.canSend = true := by
  simp [Simulated.canSend, healthy.isOpen, healthy.advertised]

private theorem Healthy.call (healthy : Healthy limit world) (several : 2 ≤ limit) {call : Call}
    (leaves : Leaves world.link.events call (World.handOver world.link call).events) :
    Healthy limit (world.call call) := by
  have move := move_turn world.session call
  have same : (World.handOver world.link call).subscription = world.link.subscription ∧
      (World.handOver world.link call).advertised = world.link.advertised ∧
        (World.handOver world.link call).isOpen = world.link.isOpen := by
    cases call with
    | _ => exact ⟨rfl, rfl, rfl⟩
  obtain ⟨subscription, advertised, isOpen⟩ := same
  obtain ⟨advertisedThen, isOpenThen⟩ :=
    Simulated.foldl_perform (World.handOver world.link call) (world.session.turn call).issued
  constructor
  case coherent => exact move.coherent healthy.coherent
  case bounded => exact move.tally.bounded healthy.coherent healthy.bounded
  case failures =>
    exact move.failures_le healthy.coherent healthy.queued leaves healthy.failures
  case advertised =>
    exact (advertisedThen.trans advertised).trans
      (healthy.advertised.trans (congrArg (some ·.id) move.device_eq.symm))
  case isOpen => exact (isOpenThen.trans isOpen).trans healthy.isOpen
  case queued =>
    refine move.queued healthy.coherent healthy.bounded several ?_ ?_ ?_ leaves
    · simp [Simulated.canSend, isOpen, advertised, healthy.isOpen, healthy.advertised]
    · rw [advertised, healthy.advertised]
    · rw [subscription]
      exact healthy.queued

private theorem Healthy.notify (healthy : Healthy limit world) :
    Healthy limit { world with link := world.link.notify.1 } := by
  unfold Simulated.notify
  cases subscription : world.link.subscription with
  | none => exact healthy
  | some epoch =>
      have queued := healthy.queued
      rw [subscription] at queued
      obtain ⟨linkUp, rfl⟩ := queued.linkUp_of_subscribed
      have linked := (queued.linked_of_isLinkUp linkUp).concat .notification rfl rfl
      simp only [Simulated.send_eq healthy.canSend]
      refine { healthy with queued := ?_ }
      simp only [subscription]
      exact queued.append linkUp linked

private theorem Healthy.drop (healthy : Healthy limit world) (reason : String) :
    Healthy limit { world with link := (world.link.drop reason).1 } := by
  unfold Simulated.drop
  cases subscription : world.link.subscription with
  | none => exact healthy
  | some epoch =>
      have queued := healthy.queued
      have sends : Simulated.canSend { world.link with subscription := none } = true :=
        healthy.canSend
      rw [subscription] at queued
      obtain ⟨linkUp, rfl⟩ := queued.linkUp_of_subscribed
      simp only [Simulated.send_eq sends]
      exact { healthy with
        queued := queued.append linkUp ((queued.linked_of_isLinkUp linkUp).dropped reason) }

private theorem Healthy.step (healthy : Healthy limit world) (several : 2 ≤ limit) (step : Step) :
    Healthy limit (world.step step) := by
  cases made : step.call? world.link.events with
  | some call =>
      obtain ⟨same, leaves⟩ := step_of_call? made
      rw [same]
      exact healthy.call several leaves
  | none =>
      cases step with
      | queuePayload => exact { healthy with }
      | notify => exact healthy.notify
      | drop reason => exact healthy.drop reason
      | start | disconnect | write => cases made
      | deliver now =>
          rw [Step.call?, Option.map_eq_none_iff, List.head?_eq_none_iff] at made
          simpa [World.step, made] using healthy
      | poll now =>
          have waiting : world.link.events ≠ [] := by
            intro empty
            simp [Step.call?, empty] at made
          simpa [World.step, waiting] using healthy

/-- A session that stands idle without an adapter check was not started in the last step. -/
theorem Healthy.unstarted (healthy : Healthy limit world) {step : Step}
    (idle : (world.step step).session.phase = .idle)
    (unchecked : (world.step step).session.adapterCheckPending = false) :
    world.session.phase = .idle ∧ world.session.adapterCheckPending = false ∧ step ≠ .start := by
  cases made : step.call? world.link.events with
  | some call =>
      obtain ⟨same, leaves⟩ := step_of_call? made
      rw [same] at idle unchecked
      obtain ⟨before, unchecked, unstarted⟩ :=
        (move_turn world.session call).unstarted healthy.queued leaves idle unchecked
      refine ⟨before, unchecked, ?_⟩
      rintro rfl
      cases made
      exact unstarted rfl
  | none =>
      rw [step_of_call?_eq_none made] at idle unchecked
      refine ⟨idle, unchecked, ?_⟩
      rintro rfl
      cases made

end Worlds

/-! ## An event at the head of the queue -/

def Call.isRequest : Call → Bool
  | .start | .disconnect | .write .. => true
  | .event .. | .poll _ => false

/-- That a session was subscribed in an epoch and was perhaps asked to disconnect since. -/
def WasSubscribed (epoch : Epoch) (session : Session) : Prop :=
  session.phase = .subscribed ∧ session.epoch = epoch ∨
    session.phase = .disconnecting ∧ session.epoch = epoch + 1

private theorem Move.wasSubscribed {session : Session} {call : Call} {turn : Turn} {epoch : Epoch}
    (move : Move session call turn) (requested : call.isRequest = true)
    (before : WasSubscribed epoch session) : WasSubscribed epoch turn.session := by
  cases move with
  | ignored | written => exact before
  | disconnecting text linking =>
      rcases before with ⟨_, same⟩ | ⟨phase, _⟩
      · exact Or.inr ⟨rfl, congrArg (· + 1) same⟩
      · simp [phase, Phase.isLinking, Phase.isLinkUp] at linking
  | started text startable =>
      rcases before with ⟨phase, _⟩ | ⟨phase, _⟩
      · simp [phase, Phase.canStart] at startable
      · simp [phase, Phase.canStart] at startable
  | cancelled idle | scanStopped text idle =>
      rcases before with ⟨phase, _⟩ | ⟨phase, _⟩
      · cases phase.symm.trans idle
      · cases phase.symm.trans idle
  | gaveUp text strikes | paused text strikes | rescanned text strikes =>
      cases strikes with
      | _ => cases requested
  | _ => cases requested

section Worlds

variable {limit : Nat} {world : World} {event : Event} {epoch : Epoch}

/-- Unless an event is delivered, the head of the queue stays. -/
theorem Healthy.head?_step (healthy : Healthy limit world)
    (first : world.link.events.head? = some event) {step : Step}
    (undelivered : ∀ now, step ≠ .deliver now) :
    (world.step step).link.events.head? = some event := by
  cases step with
  | deliver now => exact absurd rfl (undelivered now)
  | start | disconnect | write => exact Simulated.head?_foldl_perform healthy.canSend first _
  | queuePayload => exact first
  | notify =>
      simp only [World.step, Simulated.notify]
      split
      · exact Simulated.head?_send first _
      · exact first
  | drop reason =>
      simp only [World.step, Simulated.drop]
      split
      · apply Simulated.head?_send
        exact first
      · exact first
  | poll now =>
      have waiting : world.link.events ≠ [] := by
        intro empty
        simp [empty] at first
      simpa [World.step, waiting] using first

/-- While an event waits, a session that was subscribed can only be asked to disconnect. -/
theorem wasSubscribed_step (before : WasSubscribed epoch world.session)
    (waiting : world.link.events ≠ []) {step : Step} (undelivered : ∀ now, step ≠ .deliver now) :
    WasSubscribed epoch (world.step step).session := by
  cases step with
  | deliver now => exact absurd rfl (undelivered now)
  | start | disconnect | write => exact (move_turn world.session _).wasSubscribed rfl before
  | queuePayload | notify | drop => exact before
  | poll now => simpa [World.step, waiting] using before

private theorem device_step (world : World) (step : Step) :
    (world.step step).session.device = world.session.device := by
  cases made : step.call? world.link.events with
  | some call =>
      rw [(step_of_call? made).1]
      exact (move_turn world.session call).device_eq
  | none => rw [step_of_call?_eq_none made]

private theorem device_after (world : World) (steps : List Step) :
    (world.after steps).session.device = world.session.device := by
  induction steps generalizing world with
  | nil => rfl
  | cons step rest inductionHypothesis =>
      exact (inductionHypothesis (world.step step)).trans (device_step world step)

private theorem heads_after (healthy : Healthy limit world) (several : 2 ≤ limit)
    (first : world.link.events.head? = some event) (before : WasSubscribed epoch world.session)
    {later : List Step} (undelivered : ∀ now, .deliver now ∉ later) :
    Healthy limit (world.after later) ∧ (world.after later).link.events.head? = some event ∧
      WasSubscribed epoch (world.after later).session := by
  induction later generalizing world with
  | nil => exact ⟨healthy, first, before⟩
  | cons step rest inductionHypothesis =>
      have other : ∀ now, step ≠ .deliver now := by
        rintro now rfl
        exact undelivered now List.mem_cons_self
      have waiting : world.link.events ≠ [] := by
        intro empty
        simp [empty] at first
      exact inductionHypothesis (healthy.step several step) (healthy.head?_step first other)
        (wasSubscribed_step before waiting other)
        fun now member => undelivered now (List.mem_cons_of_mem _ member)

end Worlds

/-! ## Runs -/

/-- That the oldest event is a notification of the epoch of a session, and will make it read. -/
structure ReadsNext (session : Session) (world : World) : Prop where
  first : world.link.events.head? = some ⟨session.epoch, .notification⟩
  reading : ∀ now, (world.step (.deliver now)).session.phase = .awaitingRead
  issued : ∀ now, (world.step (.deliver now)).link.issued =
    world.link.issued ++ [.read session.device.id .location session.epoch]

/-- A healthy world at any time: no more than one failure in a row, and where nothing waits in the
queue the session has come to a stop, with nothing of its own under way. What the tag tells of then
is heard, and is acted on unless the session was ended before. -/
structure Steady (steps : List Step) (world : World) : Prop where
  failures : world.session.backoff.failures ≤ 1
  phase_ne_faulted : world.session.phase ≠ .faulted
  settled : world.link.events = [] →
    (world.session.phase = .idle ∧ .start ∉ steps) ∨ world.session.phase = .subscribed ∨
      world.session.phase = .disconnected ∨
        (world.session.phase = .connecting ∧ world.session.alarm? = some (.retry .connect))
  unwritten : world.link.events = [] → world.session.writeInFlight = false
  subscription : world.link.events = [] → world.session.phase = .subscribed →
    world.link.subscription = some world.session.epoch
  heard : world.link.events = [] → world.session.phase = .subscribed →
    world.link.notify.2 = true ∧
      ∀ later, (∀ now, .deliver now ∉ later) →
        ((world.step .notify).after later).session.epoch = world.session.epoch →
          ReadsNext world.session ((world.step .notify).after later)

section Worlds

variable {limit : Nat} {world : World}

private theorem Healthy.phase_ne_faulted (healthy : Healthy limit world) :
    world.session.phase ≠ .faulted := by
  intro faulted
  have queued := healthy.queued
  simp only [Queued, faulted] at queued

/-- With an empty queue a session can only be in a few phases. -/
theorem Healthy.settled (healthy : Healthy limit world) (empty : world.link.events = []) :
    (world.session.phase = .idle ∧ world.session.adapterCheckPending = false) ∨
      world.session.phase = .subscribed ∨ world.session.phase = .disconnected ∨
        (world.session.phase = .connecting ∧ world.session.alarm? = some (.retry .connect)) := by
  have queued := healthy.queued
  rw [empty] at queued
  unfold Queued at queued
  cases phase : world.session.phase <;> simp only [phase] at queued
  case idle =>
    refine Or.inl ⟨rfl, ?_⟩
    split at queued
    · cases queued.answered
    · next unchecked => exact Bool.eq_false_iff.mpr unchecked
  case scanning => cases queued.answered
  case connecting =>
    rcases queued.2 with ends | ⟨retrying, _⟩
    · exact absurd rfl ends.ne_nil
    · exact Or.inr (Or.inr (Or.inr ⟨rfl, retrying⟩))
  case subscribing => cases queued.1
  case subscribed => exact Or.inr (Or.inl rfl)
  case awaitingRead =>
    obtain ⟨_, _, _, _, answer⟩ := queued
    cases answer
  case disconnecting => exact absurd rfl queued.2.ne_nil
  case disconnected => exact Or.inr (Or.inr (Or.inl rfl))

private theorem Healthy.writeInFlight_eq_false (healthy : Healthy limit world)
    (empty : world.link.events = []) : world.session.writeInFlight = false := by
  by_cases linkUp : world.session.phase.isLinkUp = true
  · have written := (healthy.queued.linked_of_isLinkUp linkUp).written
    rw [empty] at written
    exact Bool.eq_false_iff.mpr fun inFlight => List.not_mem_nil (written inFlight)
  · exact healthy.coherent.write_eq_false (Bool.eq_false_iff.mpr linkUp)

private theorem Healthy.subscription_eq (healthy : Healthy limit world)
    (empty : world.link.events = []) (phase : world.session.phase = .subscribed) :
    world.link.subscription = some world.session.epoch := by
  have linked := healthy.queued.linked_of_isLinkUp (by simp [phase, Phase.isLinkUp])
  rw [empty] at linked
  rcases linked.subscribed with ⟨same, _⟩ | ⟨_, _, dropped⟩
  · exact same
  · cases dropped

/-- A notification that comes to a subscribed session makes it read. -/
theorem turn_notification {session : Session} (phase : session.phase = .subscribed) (now : Nat) :
    session.turn (.event ⟨session.epoch, .notification⟩ now) =
      ⟨{ session with phase := .awaitingRead },
        [.read session.device.id .location session.epoch],
        [.phaseChanged .subscribed .awaitingRead]⟩ := by
  simp [turn, handle, receive, phase, quiet, Turn.beginRead, Turn.enter, Turn.tell, Turn.update,
    Turn.issue]

private theorem Healthy.heard (healthy : Healthy limit world) (several : 2 ≤ limit)
    (empty : world.link.events = []) (phase : world.session.phase = .subscribed) :
    world.link.notify.2 = true ∧
      ∀ later, (∀ now, .deliver now ∉ later) →
        ((world.step .notify).after later).session.epoch = world.session.epoch →
          ReadsNext world.session ((world.step .notify).after later) := by
  have subscription := healthy.subscription_eq empty phase
  have notified : world.link.notify =
      (world.link.send ⟨world.session.epoch, .notification⟩, world.link.canSend) := by
    simp only [Simulated.notify, subscription]
  refine ⟨by rw [notified]; exact healthy.canSend, ?_⟩
  intro later undelivered unchanged
  have first : (world.step .notify).link.events.head? =
      some ⟨world.session.epoch, .notification⟩ := by
    simp [World.step, notified, Simulated.send_eq healthy.canSend, empty]
  obtain ⟨still, waiting, was⟩ := heads_after (healthy.step several .notify) several first
    (Or.inl ⟨phase, rfl⟩) undelivered
  have device := device_after (world.step .notify) later
  generalize (world.step .notify).after later = there at *
  have subscribed : there.session.phase = .subscribed := by
    -- Only the end of the session could have kept it from listening, but that is a new epoch.
    rcases was with ⟨subscribed, _⟩ | ⟨_, next⟩
    · exact subscribed
    · exact absurd (next.symm.trans unchanged) (ne_add_one _)
  obtain ⟨rest, queue⟩ : ∃ rest, there.link.events =
      ⟨there.session.epoch, .notification⟩ :: rest := by
    rw [unchanged]
    exact List.head?_eq_some_iff.mp waiting
  have delivered : ∀ now, there.step (.deliver now) =
      there.call (.event ⟨there.session.epoch, .notification⟩ now) := by
    simp only [World.step, queue, implies_true]
  constructor
  case first => exact waiting
  case reading =>
    intro now
    rw [delivered, World.call, turn_notification subscribed]
  case issued =>
    intro now
    have sends : (World.handOver there.link
        (.event ⟨there.session.epoch, .notification⟩ now)).canSend = true := still.canSend
    simp only [delivered, World.call, turn_notification subscribed, List.foldl_cons,
      List.foldl_nil, Simulated.perform_eq sends]
    rw [unchanged, device]
    rfl

end Worlds

section Runs

variable (device : Device) (settings : Config.Retry)

private theorem healthy_fresh : Healthy (failureLimit settings) (World.fresh device settings) where
  coherent := fresh_coherent device settings
  bounded := bounded_fresh device settings
  failures := Nat.zero_le _
  advertised := rfl
  isOpen := rfl
  queued := ⟨rfl, rfl⟩

private theorem healthy_after (several : 2 ≤ failureLimit settings) (steps : List Step) :
    Healthy (failureLimit settings) ((World.fresh device settings).after steps) := by
  induction steps using List.reverseRecOn with
  | nil => exact healthy_fresh device settings
  | append_singleton steps step inductionHypothesis =>
      rw [World.after, List.foldl_append]
      exact inductionHypothesis.step several step

/-- A session that stands idle without an adapter check was never started. -/
theorem start_not_mem (several : 2 ≤ failureLimit settings) (steps : List Step)
    (idle : ((World.fresh device settings).after steps).session.phase = .idle)
    (unchecked :
      ((World.fresh device settings).after steps).session.adapterCheckPending = false) :
    .start ∉ steps := by
  induction steps using List.reverseRecOn with
  | nil => exact List.not_mem_nil
  | append_singleton steps step inductionHypothesis =>
      rw [World.after, List.foldl_append] at idle unchecked
      obtain ⟨before, uncheckedBefore, other⟩ :=
        (healthy_after device settings several steps).unstarted idle unchecked
      rw [List.mem_append, List.mem_singleton, not_or]
      exact ⟨inductionHypothesis before uncheckedBefore, other.symm⟩

/-- On a healthy link, where more than one failure in a row is allowed, no session is ever given up,
and it never waits for anything but the host, the tag or the time once its queue is empty. -/
theorem steady_after (several : 2 ≤ settings.maxConsecutiveFailures.toNat) (steps : List Step) :
    Steady steps ((World.fresh device settings).after steps) := by
  have allowed : 2 ≤ failureLimit settings := Nat.le_trans several (Nat.le_max_left _ _)
  have healthy := healthy_after device settings allowed steps
  constructor
  case failures => exact healthy.failures
  case phase_ne_faulted => exact healthy.phase_ne_faulted
  case settled =>
    intro empty
    refine (healthy.settled empty).imp_left fun unstarted => ⟨unstarted.1, ?_⟩
    exact start_not_mem device settings allowed steps unstarted.1 unstarted.2
  case unwritten => exact healthy.writeInFlight_eq_false
  case subscription => exact healthy.subscription_eq
  case heard => exact healthy.heard allowed

end Runs

/-- A run in which the link is dropped during a read and made again after the pause. -/
def droppedLink : List Step :=
  [.start, .deliver 0, .deliver 100, .deliver 200, .deliver 300, .notify, .write .ranging [1],
    .deliver 400, .drop "gone", .deliver 410, .deliver 420, .deliver 430, .poll 1000, .deliver 1100,
    .deliver 1200]

theorem steady_after_droppedLink :
    2 ≤ ({} : Config.Retry).maxConsecutiveFailures.toNat ∧
      Steady droppedLink ((World.fresh ⟨"tag", "Tag"⟩ {}).after droppedLink) ∧
        ((World.fresh ⟨"tag", "Tag"⟩ {}).after droppedLink).session.phase = .subscribed ∧
          ((World.fresh ⟨"tag", "Tag"⟩ {}).after droppedLink).link.events = [] :=
  have several : 2 ≤ ({} : Config.Retry).maxConsecutiveFailures.toNat := by decide
  ⟨several, steady_after _ _ several _, by decide, by decide⟩

end TagFix.Session
