import TagFix.Link.Simulated

/-!
# The simulated link

What an operation does to a simulated link that has someone to answer to: the answer joins the end
of the queue, and only a subscription or a disconnection changes who is notified.
-/

namespace TagFix.Link

def Signal.endsRead : Signal → Bool
  | .readCompleted _ | .readFailed _ => true
  | _ => false

namespace Simulated

variable {link : Simulated}

@[simp]
theorem events_effect (operation : Operation) : (link.effect operation).events = link.events := by
  cases operation with
  | _ => rfl

@[simp]
theorem advertised_effect (operation : Operation) :
    (link.effect operation).advertised = link.advertised := by
  cases operation with
  | _ => rfl

@[simp]
theorem isOpen_effect (operation : Operation) :
    (link.effect operation).isOpen = link.isOpen := by
  cases operation with
  | _ => rfl

theorem send_eq (sends : link.canSend = true) (event : Event) :
    link.send event = { link with events := link.events ++ [event] } :=
  if_pos sends

/-- The link after an operation, field by field. -/
theorem perform_eq (sends : link.canSend = true) (operation : Operation) :
    link.perform operation =
      { link.effect operation with
        issued := link.issued ++ [operation]
        events := link.events ++ (link.answer? operation).toList } := by
  simp only [canSend] at sends
  unfold perform
  cases link.answer? operation with
  | none | some event => simp [send, canSend, sends]

@[simp]
theorem advertised_perform (operation : Operation) :
    (link.perform operation).advertised = link.advertised := by
  unfold perform send
  cases link.answer? operation with
  | none | some event => simp [apply_ite]

@[simp]
theorem isOpen_perform (operation : Operation) :
    (link.perform operation).isOpen = link.isOpen := by
  unfold perform send
  cases link.answer? operation with
  | none | some event => simp [apply_ite]

/-- Operations neither change what the link advertises nor close it. -/
theorem foldl_perform (link : Simulated) (operations : List Operation) :
    (operations.foldl perform link).advertised = link.advertised ∧
      (operations.foldl perform link).isOpen = link.isOpen := by
  induction operations generalizing link with
  | nil => exact ⟨rfl, rfl⟩
  | cons operation rest inductionHypothesis =>
      obtain ⟨advertised, isOpen⟩ := inductionHypothesis (link.perform operation)
      exact ⟨advertised.trans (advertised_perform operation),
        isOpen.trans (isOpen_perform operation)⟩

theorem canSend_perform (sends : link.canSend = true) (operation : Operation) :
    (link.perform operation).canSend = true := by
  simpa [canSend] using sends

/-! ## The oldest event -/

theorem head?_send {oldest : Event} (first : link.events.head? = some oldest) (event : Event) :
    (link.send event).events.head? = some oldest := by
  unfold send
  split
  · simp [first]
  · exact first

/-- Answers line up behind the oldest event. -/
theorem head?_foldl_perform {oldest : Event} (sends : link.canSend = true)
    (first : link.events.head? = some oldest) (operations : List Operation) :
    (operations.foldl perform link).events.head? = some oldest := by
  induction operations generalizing link with
  | nil => exact first
  | cons operation rest inductionHypothesis =>
      refine inductionHypothesis (canSend_perform sends operation) ?_
      simp [perform_eq sends, first]

/-! ## Reads -/

/-- A read is answered, with a payload or a failure. -/
theorem answer?_read (device : String) (characteristic : Characteristic) (epoch : Epoch) :
    ∃ signal, signal.endsRead = true ∧
      link.answer? (.read device characteristic epoch) = some ⟨epoch, signal⟩ := by
  cases payloads : link.payloads with
  | nil => exact ⟨.readFailed "no data queued", rfl, by simp [answer?, payloads]⟩
  | cons data rest => exact ⟨.readCompleted data, rfl, by simp [answer?, payloads]⟩

end Simulated

end TagFix.Link
