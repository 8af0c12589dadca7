import TagFix.Proofs.Session.Coherence

/-!
# The scan and the connection of a run

What a run starts on the radio it also ends: a scan before the session goes on to connect, a
connection before it looks for the tag again or comes to rest. The main statement is `radio_after`.
-/

namespace TagFix

open Link (Operation Signal)

namespace Session

/-! ## What the radio is doing -/

/-- Something that starts or ends what the radio does. -/
inductive RadioEntry
  | heard (signal : Signal)
  | issued (operation : Operation)

/-- What is open on the radio. -/
structure Radio where
  scan : Bool
  link : Bool

namespace Radio

def idle : Radio := ⟨false, false⟩

private theorem eq_of_closed {radio : Radio} (unscanned : radio.scan = false)
    (unlinked : radio.link = false) : radio = idle := by
  obtain ⟨scan, link⟩ := radio
  simp only at unscanned unlinked
  rw [unscanned, unlinked, idle]

@[simp]
def note (radio : Radio) : RadioEntry → Radio
  | .issued (.startScan _) => { radio with scan := true }
  | .issued .stopScan => { radio with scan := false }
  | .heard (.scanFailed _) => { radio with scan := false }
  | .issued (.connect ..) => { radio with link := true }
  | .issued (.disconnect ..) => { radio with link := false }
  | .heard (.connectFailed _) => { radio with link := false }
  | .heard (.linkLost _) => { radio with link := false }
  | _ => radio

def after (radio : Radio) (history : List RadioEntry) : Radio :=
  history.foldl note radio

/-- Whether an entry starts nothing that is open already. -/
@[simp]
def admits (radio : Radio) : RadioEntry → Bool
  | .issued (.startScan _) => !radio.scan
  | .issued (.connect ..) => !radio.link
  | _ => true

/-- Whether nothing is started twice in a history, and at no point of it there is a scan beside a
link. -/
@[simp]
def orderly (radio : Radio) : List RadioEntry → Bool
  | [] => !(radio.scan && radio.link)
  | entry :: rest =>
      !(radio.scan && radio.link) && radio.admits entry && (radio.note entry).orderly rest

@[simp]
theorem after_nil (radio : Radio) : radio.after [] = radio := rfl

@[simp]
theorem after_cons (radio : Radio) (entry : RadioEntry) (rest : List RadioEntry) :
    radio.after (entry :: rest) = (radio.note entry).after rest := rfl

theorem after_append (radio : Radio) (earlier later : List RadioEntry) :
    radio.after (earlier ++ later) = (radio.after earlier).after later :=
  List.foldl_append

/-- A history is in order just when both its parts are, the later one from where the earlier one
ends. -/
theorem orderly_append (radio : Radio) (earlier later : List RadioEntry) :
    radio.orderly (earlier ++ later) = true ↔
      radio.orderly earlier = true ∧ (radio.after earlier).orderly later = true := by
  induction earlier generalizing radio with
  | nil =>
      cases later with
      | nil => simp
      | cons entry rest => simp [and_assoc]
  | cons entry rest inductionHypothesis =>
      simp only [List.cons_append, orderly, after_cons, Bool.and_eq_true, inductionHypothesis,
        and_assoc]

/-- There is never a scan beside a link. -/
theorem not_both_of_orderly {radio : Radio} {history : List RadioEntry}
    (orderly : radio.orderly history = true) : ¬ (radio.scan = true ∧ radio.link = true) := by
  rintro ⟨scan, link⟩
  cases history with
  | nil | cons entry rest => simp [scan, link] at orderly

private theorem admits_of_orderly {radio : Radio} {entry : RadioEntry} {rest : List RadioEntry}
    (orderly : radio.orderly (entry :: rest) = true) : radio.admits entry = true := by
  simp only [Radio.orderly, Bool.and_eq_true] at orderly
  exact orderly.1.2

end Radio

def RadioEntry.isSilent : RadioEntry → Bool
  | .issued (.startScan _) | .issued .stopScan | .issued (.connect ..) | .issued (.disconnect ..)
  | .heard (.scanFailed _) | .heard (.connectFailed _) | .heard (.linkLost _) => false
  | _ => true

private theorem Radio.note_of_isSilent (radio : Radio) {entry : RadioEntry}
    (silent : entry.isSilent = true) : radio.note entry = radio ∧ radio.admits entry = true := by
  cases entry with
  | heard signal =>
      cases signal with
      | scanFailed | connectFailed | linkLost => cases silent
      | _ => exact ⟨rfl, rfl⟩
  | issued operation =>
      cases operation with
      | startScan | stopScan | connect | disconnect => cases silent
      | _ => exact ⟨rfl, rfl⟩

private theorem Radio.orderly_of_silent {radio : Radio} (apart : (radio.scan && radio.link) = false)
    {entries : List RadioEntry} (silent : ∀ entry ∈ entries, entry.isSilent = true) :
    radio.orderly entries = true ∧ radio.after entries = radio := by
  induction entries with
  | nil => exact ⟨by simp [apart], rfl⟩
  | cons entry rest inductionHypothesis =>
      rw [List.forall_mem_cons] at silent
      obtain ⟨unchanged, admitted⟩ := radio.note_of_isSilent silent.1
      obtain ⟨inOrder, same⟩ := inductionHypothesis silent.2
      rw [orderly, after_cons, apart, admitted, unchanged, inOrder]
      exact ⟨rfl, same⟩

/-- The signal that a call is, where it is acted on. -/
def heard (session : Session) (call : Call) : List RadioEntry :=
  match call with
  | .event event _ => if session.heeds call then [.heard event.signal] else []
  | _ => []

def Moment.radio (moment : Moment) : List RadioEntry :=
  moment.session.heard moment.call ++ moment.turn.issued.map .issued

/-- What a run has to do with the radio, in order. -/
def radioHistory (run : List Moment) : List RadioEntry :=
  run.flatMap Moment.radio

/-- Whether a call brings no signal that is of the radio. -/
def Call.isSilent : Call → Bool
  | .event ⟨_, signal⟩ _ => (RadioEntry.heard signal).isSilent
  | _ => true

private theorem heard_of_unheeded {session : Session} {call : Call}
    (unheeded : session.heeds call = false) : session.heard call = [] := by
  cases call with
  | event event now => simp [heard, unheeded]
  | _ => rfl

private theorem silent_heard (session : Session) {call : Call} (silent : call.isSilent = true) :
    ∀ entry ∈ session.heard call, entry.isSilent = true := by
  cases call with
  | event event now =>
      dsimp only [heard]
      split
      · exact List.forall_mem_singleton.mpr silent
      · exact List.forall_mem_nil _
  | _ => exact List.forall_mem_nil _

private theorem heard_event {session : Session} {signal : Signal} (now : Nat)
    (accepted : session.acceptsSignal signal = true) :
    session.heard (.event ⟨session.epoch, signal⟩ now) = [.heard signal] := by
  simp [heard, heeds, accepted]

/-! ## What a session knows of the radio -/

/-- What is open fits the phase, and while it is only awaited also the deadline. -/
structure Radio.Fits (radio : Radio) (session : Session) : Prop where
  scanning : radio.scan = true → session.alarm? = some .scanTimeout
  linking : radio.link = true → session.phase.isLinking = true
  connecting : radio.link = true → session.phase = .connecting →
    session.alarm? = some .connectTimeout

private theorem isLinkUp_of_read (session : Session) :
    (if session.notificationPending then Phase.awaitingRead else .subscribed).isLinkUp = true := by
  split
  · rfl
  · rfl

private theorem silent_nextRead (session : Session) :
    ∀ operation ∈ session.nextRead, (RadioEntry.issued operation).isSilent = true := by
  unfold nextRead
  split
  · exact List.forall_mem_singleton.mpr rfl
  · exact List.forall_mem_nil _

/-- What a call does to the radio is in order and leaves what the session knows of. -/
def Radio.Keeps (radio : Radio) (entries : List RadioEntry) (session : Session) : Prop :=
  radio.orderly entries = true ∧ (radio.after entries).Fits session

section Moves

variable {radio : Radio} {session : Session} {call : Call} {turn : Turn}

private theorem Radio.Keeps.append {earlier later : List RadioEntry}
    (inOrder : radio.orderly earlier = true) (keeps : (radio.after earlier).Keeps later session) :
    radio.Keeps (earlier ++ later) session := by
  rw [Radio.Keeps, Radio.orderly_append, Radio.after_append]
  exact ⟨⟨inOrder, keeps.1⟩, keeps.2⟩

private theorem Radio.Fits.phase_of_scan (fits : radio.Fits session) (coherent : Coherent session)
    (scan : radio.scan = true) : session.phase = .scanning := by
  have alarm := fits.scanning scan
  obtain ⟨deadline, waiting, kind⟩ := Option.map_eq_some_iff.mp alarm
  obtain ⟨due, _⟩ := deadline
  cases kind
  exact coherent.scanning_of_scanTimeout waiting

private theorem Radio.Fits.scan_eq_false (fits : radio.Fits session) (coherent : Coherent session)
    (phase : session.phase ≠ .scanning) : radio.scan = false :=
  Bool.eq_false_iff.mpr (mt (fits.phase_of_scan coherent) phase)

private theorem Radio.Fits.link_eq_false (fits : radio.Fits session)
    (unlinked : session.phase.isLinking = false) : radio.link = false :=
  Bool.eq_false_iff.mpr (mt fits.linking (Bool.eq_false_iff.mp unlinked))

private theorem Radio.Fits.eq_idle (fits : radio.Fits session) (coherent : Coherent session)
    (unscanned : session.phase ≠ .scanning) (unlinked : session.phase.isLinking = false) :
    radio = .idle :=
  Radio.eq_of_closed (fits.scan_eq_false coherent unscanned) (fits.link_eq_false unlinked)

private theorem Radio.Fits.eq_idle_of_canStart (fits : radio.Fits session)
    (coherent : Coherent session) (startable : session.phase.canStart = true) : radio = .idle := by
  have still : ∀ {phase : Phase}, phase.canStart = true →
      phase ≠ .scanning ∧ phase.isLinking = false := by
    intro phase startable
    cases phase with
    | idle | disconnected | faulted => exact ⟨nofun, rfl⟩
    | _ => cases startable
  exact fits.eq_idle coherent (still startable).1 (still startable).2

private theorem Radio.Fits.not_both (fits : radio.Fits session) (coherent : Coherent session) :
    (radio.scan && radio.link) = false := by
  cases scan : radio.scan with
  | false => rfl
  | true =>
      have phase := fits.phase_of_scan coherent scan
      exact fits.link_eq_false (by simp [phase, Phase.isLinking, Phase.isLinkUp])

/-! ## What the moves do to the radio -/

/-- What a setback brings, and what is cleaned up after it. -/
def Setback.traces (session : Session) (call : Call) (setback : Setback) : List RadioEntry :=
  session.heard call ++ (setback.cleanup session).map .issued

/-- A setback ends the scan, and the link unless only the subscription has failed. -/
theorem Strikes.after_traces {setback : Setback} {now : Nat}
    (strikes : session.Strikes setback call now) (coherent : Coherent session)
    (fits : radio.Fits session) :
    radio.orderly (setback.traces session call) = true ∧
      (radio.after (setback.traces session call)).scan = false ∧
      ((radio.after (setback.traces session call)).link = true →
        session.phase = .subscribing ∧ ∃ reason, setback = .subscribeFailed reason) := by
  have apart := fits.not_both coherent
  cases strikes with
  | scanFailed phase =>
      have unlinked := fits.link_eq_false (by simp [phase, Phase.isLinking, Phase.isLinkUp])
      rw [Setback.traces, heard_event _ (by simp [acceptsSignal, phase])]
      simp [Setback.cleanup, unlinked]
  | scanTimedOut waiting =>
      have phase := coherent.scanning_of_scanTimeout waiting
      have unlinked := fits.link_eq_false (by simp [phase, Phase.isLinking, Phase.isLinkUp])
      simp [Setback.traces, heard, Setback.cleanup, unlinked]
  | connectFailed phase =>
      have unscanned := fits.scan_eq_false coherent (by simp [phase])
      rw [Setback.traces, heard_event _ (by simp [acceptsSignal, phase])]
      simp [Setback.cleanup, unscanned]
  | connectTimedOut waiting =>
      have phase := coherent.connecting_of_connectTimeout waiting
      have unscanned := fits.scan_eq_false coherent (by simp [phase])
      simp [Setback.traces, heard, Setback.cleanup, unscanned]
  | subscribeFailed phase =>
      have unscanned := fits.scan_eq_false coherent (by simp [phase])
      rw [Setback.traces, heard_event _ (by simp [acceptsSignal, phase])]
      simp [Setback.cleanup, unscanned, phase]
  | linkLost linkUp =>
      have unscanned := fits.scan_eq_false coherent (by
        intro phase
        simp [phase, Phase.isLinkUp] at linkUp)
      rw [Setback.traces, heard_event _ (by simp [acceptsSignal, linkUp])]
      simp [Setback.cleanup, unscanned]

/-- A scan that is renewed had no link to end. -/
theorem Strikes.hangUp_eq {setback : Setback} {now : Nat}
    (strikes : session.Strikes setback call now) (coherent : Coherent session) :
    setback.hangUp session = session.hangUp := by
  cases strikes with
  | scanTimedOut waiting =>
      have phase := coherent.scanning_of_scanTimeout waiting
      simp [Setback.hangUp, hangUp, phase, Phase.isLinkUp]
  | _ => rfl

/-- Nothing is open after a setback, once also the link that was up is ended. -/
theorem Strikes.after_hangUp {setback : Setback} {now : Nat}
    (strikes : session.Strikes setback call now) (coherent : Coherent session)
    (fits : radio.Fits session) :
    radio.orderly (setback.traces session call ++ session.hangUp.map .issued) = true ∧
      radio.after (setback.traces session call ++ session.hangUp.map .issued) = .idle := by
  obtain ⟨inOrder, scan, failed⟩ := strikes.after_traces coherent fits
  rw [Radio.orderly_append, Radio.after_append]
  cases up : session.phase.isLinkUp with
  | true => exact ⟨⟨inOrder, by simp [hangUp, up, scan]⟩, by simp [hangUp, up, Radio.idle, scan]⟩
  | false =>
      have link : (radio.after (setback.traces session call)).link = false :=
        Bool.eq_false_iff.mpr (by
          intro link
          simp [(failed link).1, Phase.isLinkUp] at up)
      exact ⟨⟨inOrder, by simp [hangUp, up, scan]⟩,
        by simp [hangUp, up, Radio.eq_of_closed scan link]⟩

private theorem Radio.Fits.of_idle (unscanned : radio.scan = false)
    (unlinked : radio.link = false) :
    radio.Fits session :=
  ⟨by simp [unscanned], by simp [unlinked], by simp [unlinked]⟩

private theorem Radio.Fits.of_linkUp (unscanned : radio.scan = false)
    (linkUp : session.phase.isLinkUp = true) : radio.Fits session where
  scanning := by simp [unscanned]
  linking _ := Phase.isLinking_of_isLinkUp linkUp
  connecting _ phase := by simp [phase, Phase.isLinkUp] at linkUp

private theorem Radio.Fits.kept {after : Session} (fits : radio.Fits session)
    (phase : after.phase = session.phase) (alarm : after.alarm? = session.alarm?) :
    radio.Fits after := by
  refine ⟨?_, ?_, ?_⟩
  · rw [alarm]
    exact fits.scanning
  · rw [phase]
    exact fits.linking
  · rw [phase, alarm]
    exact fits.connecting

/-! ## Moves -/

/-- A call that has nothing to do with the radio only has to leave what is open to the phase. -/
theorem Radio.Fits.keeps_of_silent {after : Session} (fits : radio.Fits after)
    (apart : (radio.scan && radio.link) = false) {operations : List Operation}
    (silent : call.isSilent = true)
    (unissued : ∀ operation ∈ operations, (RadioEntry.issued operation).isSilent = true) :
    radio.Keeps (session.heard call ++ operations.map .issued) after := by
  have entries : ∀ entry ∈ session.heard call ++ operations.map .issued,
      entry.isSilent = true := by
    rw [List.forall_mem_append]
    refine ⟨session.silent_heard silent, ?_⟩
    rw [List.forall_mem_map]
    exact unissued
  obtain ⟨inOrder, same⟩ := Radio.orderly_of_silent apart entries
  refine ⟨inOrder, ?_⟩
  rw [same]
  exact fits

private theorem Radio.keeps_startScan {epoch : Link.Epoch}
    (alarm : session.alarm? = some .scanTimeout) :
    Radio.idle.Keeps [.issued (.startScan epoch)] session :=
  ⟨rfl, fun _ => alarm, nofun, nofun⟩

private theorem Radio.keeps_connect {device : String} {epoch : Link.Epoch}
    (phase : session.phase = .connecting) (alarm : session.alarm? = some .connectTimeout) :
    Radio.idle.Keeps [.issued (.connect device epoch)] session :=
  ⟨rfl, nofun, fun _ => by simp [phase, Phase.isLinking], fun _ _ => alarm⟩

/-- Whatever is open waits for its timeout, so nothing is open in a pause before a scan or an attempt
to connect. -/
theorem Radio.Fits.eq_idle_of_retry {due : Nat} {target : RetryTarget} (fits : radio.Fits session)
    (coherent : Coherent session) (waiting : session.deadline = some ⟨due, .retry target⟩)
    (relinks : target ≠ .subscribe) : radio = .idle := by
  have phase := coherent.phase_of_retry waiting
  have paused : session.alarm? = some (.retry target) := by rw [alarm?, waiting]; rfl
  have scan : radio.scan = false := by
    refine Bool.eq_false_iff.mpr fun scan => ?_
    cases paused.symm.trans (fits.scanning scan)
  refine Radio.eq_of_closed scan (Bool.eq_false_iff.mpr fun link => ?_)
  cases target with
  | scan =>
      have linking := fits.linking link
      rw [phase] at linking
      cases linking
  | connect => cases paused.symm.trans (fits.connecting link phase)
  | subscribe => exact absurd rfl relinks

/-- Only a failed subscription leaves the link, and it is tried again over that link. -/
theorem Strikes.keeps_paused {setback : Setback} {target : RetryTarget} {now : Nat}
    (strikes : session.Strikes setback call now) (coherent : Coherent session)
    (fits : radio.Fits session) (again : setback.retry? = some target) {after : Session}
    (phase : after.phase = target.phase) :
    radio.Keeps (setback.traces session call) after := by
  obtain ⟨inOrder, scan, failed⟩ := strikes.after_traces coherent fits
  cases link : (radio.after (setback.traces session call)).link with
  | false => exact ⟨inOrder, .of_idle scan link⟩
  | true =>
      obtain ⟨_, reason, rfl⟩ := failed link
      have resubscribes : target = .subscribe := by
        rw [Setback.retry?] at again
        split at again
        · exact (Option.some.inj again).symm
        · cases again
      rw [resubscribes] at phase
      exact ⟨inOrder, .of_linkUp scan (by rw [phase]; rfl)⟩

private theorem Strikes.keeps_gaveUp {setback : Setback} {now : Nat}
    (strikes : session.Strikes setback call now) (coherent : Coherent session)
    (fits : radio.Fits session) (after : Session) :
    radio.Keeps (session.heard call ++ (setback.cleanup session ++ session.hangUp).map .issued)
      after := by
  obtain ⟨inOrder, ended⟩ := strikes.after_hangUp coherent fits
  rw [List.map_append, ← List.append_assoc, ← Setback.traces, Radio.Keeps, ended]
  exact ⟨inOrder, .of_idle rfl rfl⟩

private theorem Strikes.keeps_rescanned {setback : Setback} {now : Nat}
    (strikes : session.Strikes setback call now) (coherent : Coherent session)
    (fits : radio.Fits session) {epoch : Link.Epoch} {after : Session}
    (alarm : after.alarm? = some .scanTimeout) :
    radio.Keeps (session.heard call ++ (setback.cleanup session ++ setback.hangUp session ++
      [Operation.startScan epoch]).map .issued) after := by
  obtain ⟨inOrder, ended⟩ := strikes.after_hangUp coherent fits
  rw [strikes.hangUp_eq coherent, List.map_append, List.map_append, ← List.append_assoc,
    ← List.append_assoc, ← Setback.traces]
  refine Radio.Keeps.append inOrder ?_
  rw [ended]
  exact Radio.keeps_startScan alarm

private theorem Move.keeps_radio (move : Move session call turn) (coherent : Coherent session)
    (fits : radio.Fits session) :
    radio.Keeps (session.heard call ++ turn.issued.map .issued) turn.session := by
  have apart := fits.not_both coherent
  have unscanned : session.phase ≠ .scanning → radio.scan = false := fits.scan_eq_false coherent
  have unlinked : session.phase.isLinking = false → radio.link = false := fits.link_eq_false
  cases move with
  | ignored unheeded =>
      rw [heard_of_unheeded unheeded]
      exact ⟨by simp [quiet, apart], fits⟩
  | started text startable =>
      obtain rfl := fits.eq_idle_of_canStart coherent startable
      exact Radio.Fits.keeps_of_silent (.of_idle rfl rfl) rfl rfl
        (List.forall_mem_singleton.mpr rfl)
  | cancelled phase | adapterOff now text phase | unlinked now text phase
  | unlinkFailed reason now text phase =>
      obtain rfl := fits.eq_idle coherent (by simp [phase]) (by rw [phase]; rfl)
      exact Radio.Fits.keeps_of_silent (.of_idle rfl rfl) rfl rfl (List.forall_mem_nil _)
  | scanStopped text phase =>
      have link := unlinked (by rw [phase]; rfl)
      exact ⟨by simp [heard, link], .of_idle rfl link⟩
  | disconnecting text linking =>
      have scan := unscanned (Phase.ne_of_isLinking linking rfl)
      exact ⟨by simp [heard, scan], .of_idle scan rfl⟩
  | written linkUp =>
      refine Radio.Fits.keeps_of_silent ?_ apart rfl (List.forall_mem_singleton.mpr rfl)
      exact fits.kept rfl rfl
  | writeCompleted | writeFailed =>
      refine Radio.Fits.keeps_of_silent ?_ apart rfl (List.forall_mem_nil _)
      exact fits.kept rfl rfl
  | adapterReady now text phase pending =>
      obtain rfl := fits.eq_idle coherent (by simp [phase]) (by rw [phase]; rfl)
      rw [heard_event _ (by simp [acceptsSignal, phase, pending])]
      exact Radio.Keeps.append rfl (Radio.keeps_startScan rfl)
  | found now text phase =>
      have link := unlinked (by rw [phase]; rfl)
      rw [heard_event _ (by simp [acceptsSignal, phase])]
      exact ⟨by simp [link], by simp, fun _ => rfl, fun _ _ => rfl⟩
  | linked now text phase | readBegun now phase =>
      have scan := unscanned (by simp [phase])
      exact Radio.Fits.keeps_of_silent (.of_linkUp scan rfl) apart rfl
        (List.forall_mem_singleton.mpr rfl)
  | subscribed now text phase | noted now phase =>
      have scan := unscanned (by simp [phase])
      exact Radio.Fits.keeps_of_silent (.of_linkUp scan (by simp [phase, Phase.isLinkUp])) apart rfl
        (List.forall_mem_nil _)
  | readCompleted data now phase | readFailed reason now text phase =>
      have scan := unscanned (by simp [phase])
      refine Radio.Fits.keeps_of_silent (.of_linkUp scan ?_) apart rfl session.silent_nextRead
      exact isLinkUp_of_read session
  | gaveUp text strikes => exact strikes.keeps_gaveUp coherent fits _
  | paused text strikes again => exact strikes.keeps_paused coherent fits again rfl
  | rescanned text strikes => exact strikes.keeps_rescanned coherent fits rfl
  | scanRetried waiting =>
      obtain rfl := fits.eq_idle_of_retry coherent waiting (by decide)
      exact Radio.keeps_startScan rfl
  | connectRetried waiting =>
      obtain rfl := fits.eq_idle_of_retry coherent waiting (by decide)
      exact Radio.keeps_connect (coherent.phase_of_retry waiting) rfl
  | subscribeRetried waiting =>
      have phase : session.phase = .subscribing := coherent.phase_of_retry waiting
      have scan := unscanned (by simp [phase])
      exact Radio.Fits.keeps_of_silent (.of_linkUp scan (by simp [phase, Phase.isLinkUp])) apart rfl
        (List.forall_mem_singleton.mpr rfl)

end Moves

theorem radioHistory_concat (run : List Moment) (moment : Moment) :
    radioHistory (run ++ [moment]) = radioHistory run ++ moment.radio := by
  simp [radioHistory]

/-! ## Runs -/

section Runs

variable (device : Device) (settings : Config.Retry) (calls : List Call)

private theorem keeps_radio_after :
    Radio.idle.Keeps (radioHistory ((fresh device settings).moments calls))
      ((fresh device settings).after calls) := by
  induction calls using List.reverseRecOn with
  | nil => exact ⟨rfl, .of_idle rfl rfl⟩
  | append_singleton calls call inductionHypothesis =>
      obtain ⟨inOrder, fits⟩ := inductionHypothesis
      have coherent := coherent_after device settings calls
      rw [moments_concat, radioHistory_concat, after_concat]
      exact .append inOrder ((move_turn _ call).keeps_radio coherent fits)

/-- How the radio of a run stands between two calls, and how its history went. -/
structure Tidy (history : List RadioEntry) (session : Session) : Prop where
  scanning_of_scan : (Radio.idle.after history).scan = true → session.phase = .scanning
  linking_of_link : (Radio.idle.after history).link = true →
    session.phase ∈ [.connecting, .subscribing, .subscribed, .awaitingRead]
  not_both : ∀ earlier later, history = earlier ++ later →
    ¬ ((Radio.idle.after earlier).scan = true ∧ (Radio.idle.after earlier).link = true)
  one_scan : ∀ earlier epoch later, history = earlier ++ .issued (.startScan epoch) :: later →
    (Radio.idle.after earlier).scan = false
  one_link : ∀ earlier device epoch later,
    history = earlier ++ .issued (.connect device epoch) :: later →
      (Radio.idle.after earlier).link = false

/-- Between any two calls of any run a scan that is open is the one that the session waits for, and
a link that is open is the one that it is making or using. Nothing is opened twice, and at no point
of the run there is a scan beside a link. -/
theorem radio_after :
    Tidy (radioHistory ((fresh device settings).moments calls))
      ((fresh device settings).after calls) := by
  obtain ⟨inOrder, fits⟩ := keeps_radio_after device settings calls
  have coherent := coherent_after device settings calls
  constructor
  case scanning_of_scan => exact fits.phase_of_scan coherent
  case linking_of_link =>
    intro link
    have linking := fits.linking link
    cases phase : ((fresh device settings).after calls).phase with
    | connecting | subscribing | subscribed | awaitingRead => decide
    | connected => exact absurd phase coherent.phase_ne_connected
    | _ =>
        rw [phase] at linking
        cases linking
  case not_both =>
    intro earlier later split
    rw [split, Radio.orderly_append] at inOrder
    exact Radio.not_both_of_orderly inOrder.2
  case one_scan =>
    intro earlier epoch later split
    rw [split, Radio.orderly_append] at inOrder
    simpa using Radio.admits_of_orderly inOrder.2
  case one_link =>
    intro earlier target epoch later split
    rw [split, Radio.orderly_append] at inOrder
    simpa using Radio.admits_of_orderly inOrder.2

end Runs

example : Radio.idle.after (radioHistory ((fresh ⟨"tag", "Tag"⟩ {}).moments
    [.start, .event ⟨1, .adapterState true⟩ 0, .event ⟨1, .deviceDiscovered "tag"⟩ 100])) =
      ⟨false, true⟩ := rfl

end Session

end TagFix
