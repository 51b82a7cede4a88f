import EventPipeline.Hub

namespace EventPipeline

/-!
# The ledger of the queue

Every event that joins the queue leaves it once, in its turn, or is still pending.

* `Intake.appended`, `Hub.appended` — the events that a step adds to the queue, told from the step
  and from the click that it completes.
* `Intake.removed`, `Hub.removed` — the events that a step takes out: the answer to taking the
  oldest event, what a flush drops, and what the handler was given by a delivery.
* `Traced.gather_conserved` — a balance that every step keeps is kept by every run.

The balance of one step (`Intake.ledger_step`, `Hub.ledger_step`) says that what was pending and is
added equals what is taken out and pending afterwards, as lists.  A run that starts with no event
has the balance of all its steps.
-/

/-! ### Runs -/

/-- **Run.**  If each step takes out of `pending` and puts into it what `removed` and `added` say,
    at the front and at the back, then so does a run. -/
theorem Traced.gather_conserved {ε σ κ ρ γ : Type} (perform : σ → κ → Traced ε (ρ × σ))
    (pending : σ → List γ) (added removed : σ → κ → List γ)
    (hstep : ∀ s c, pending s ++ added s c = removed s c ++ pending (perform s c).value.2)
    (s : σ) (steps : List κ) :
    pending s ++ gather perform added s steps
      = gather perform removed s steps ++ pending (runAll perform s steps).value.2 := by
  induction steps generalizing s with
  | nil => exact List.append_nil _
  | cons c rest ih =>
    calc pending s ++ (added s c ++ gather perform added (perform s c).value.2 rest)
        = removed s c ++ (pending (perform s c).value.2
            ++ gather perform added (perform s c).value.2 rest) := by
          rw [← List.append_assoc, hstep, List.append_assoc]
      _ = removed s c ++ (gather perform removed (perform s c).value.2 rest
            ++ pending (runAll perform (perform s c).value.2 rest).value.2) := by rw [ih]
      _ = gather perform removed s (c :: rest)
            ++ pending (runAll perform s (c :: rest)).value.2 := (List.append_assoc _ _ _).symm

/-! ### The intake -/

namespace Intake

/-- The event that an answer hands out. -/
def Reply.events : Reply → List Event
  | .event e? => e?.toList
  | .done | .synthesized _ | .settings _ => []

/-- The events that a step adds to the queue. -/
def appended (i : Intake) : Command → List Event
  | .push e => [e]
  | .press e => e :: (i.clicks.process i.settings e).value.1.toList
  | .synthesize e => (i.clicks.process i.settings e).value.1.toList
  | .pop | .peek | .flush | .settings | .setSettings _ | .setTime _ | .setDistance _ => []

/-- The events that a step takes out of the queue: those it answers with, or those it drops. -/
def removed (i : Intake) : Command → List Event
  | .pop => (i.perform .pop).value.1.events
  | .flush => i.queue.toList
  | .push _ | .press _ | .synthesize _ | .peek | .settings | .setSettings _ | .setTime _
  | .setDistance _ => []

/-- **Step of an intake.** -/
theorem ledger_step (i : Intake) (c : Command) :
    i.queue.toList ++ i.appended c = i.removed c ++ (i.perform c).value.2.queue.toList := by
  cases c with
  | push e => exact (toList_queue_push i e).symm
  | press e => exact (toList_queue_press i e).symm
  | synthesize e => exact (toList_queue_synthesize i e).symm
  | pop =>
    show i.queue.toList ++ [] = i.pop.1.toList ++ i.pop.2.queue.toList
    rw [fst_pop, toList_queue_pop, List.append_nil]
    -- What is taken is the head of the queue, if it has one, and the tail stays.
    cases i.queue.toList <;> rfl
  | flush =>
    show i.queue.toList ++ [] = i.queue.toList ++ i.queue.clear.toList
    rw [EventQueue.toList_clear]
  | peek => exact List.append_nil _
  | settings => exact List.append_nil _
  | setSettings s => exact List.append_nil _
  | setTime millis => exact List.append_nil _
  | setDistance pixels => exact List.append_nil _

/-- An intake has a pending event exactly if the number of them is not zero. -/
theorem hasPending_iff (i : Intake) : i.hasPending = true ↔ i.pending ≠ 0 := by
  rw [hasPending, EventQueue.hasPending_iff, pending, ← EventQueue.length_toList, ne_eq, ne_eq,
    List.length_eq_zero_iff]

end Intake

/-! ### The hub -/

namespace Hub

variable {δ : Type}

/-- The events that the handler was given, in their order. -/
def handled (trace : List (Effect δ)) : List Event := trace.filterMap Effect.handledEvent?

/-- The handler's events are told from what is not in the log. -/
theorem handled_unlogged (trace : List (Effect δ)) :
    handled (Effect.unlogged trace) = handled trace := by
  induction trace with
  | nil => rfl
  | cons x rest ih =>
    cases x with
    | logged record => exact ih
    | handled e data => exact congrArg (e :: ·) ih
    | tornDown data => exact ih

/-- The events that a step adds to the queue. -/
def appended (h : Hub δ) : Command δ → List Event
  | .intake c => h.intake.appended c
  | .dispatcher _ | .devices _ | .deliverPending => []

/-- The events that a step takes out of the queue: those the intake gives up, or those a delivery
    gives to the handler. -/
def removed (h : Hub δ) : Command δ → List Event
  | .intake c => h.intake.removed c
  | .deliverPending => handled (h.perform .deliverPending).trace
  | .dispatcher _ | .devices _ => []

theorem trace_perform_deliverPending (h : Hub δ) :
    (h.perform .deliverPending).trace = h.deliverPending.trace :=
  List.append_nil _

/-- Without a handler a delivery does nothing. -/
theorem perform_deliverPending_of_not_hasHandler {h : Hub δ}
    (hnone : h.dispatcher.hasHandler = false) :
    h.perform .deliverPending = pure (.delivered 0, h) := by
  rw [perform, deliverPending, hnone]
  rfl

/-- With a handler a delivery empties the queue, and counts and hands over what was in it. -/
theorem perform_deliverPending_of_hasHandler {h : Hub δ} (hlive : h.dispatcher.hasHandler = true) :
    (h.perform .deliverPending).value.1 = .delivered h.intake.pending ∧
      (h.perform .deliverPending).value.2.intake
        = { h.intake with queue := h.intake.queue.clear } ∧
      handled (h.perform .deliverPending).trace = h.intake.queue.toList := by
  rw [trace_perform_deliverPending, perform, deliverPending_eq, if_pos hlive]
  refine ⟨rfl, rfl, ?_⟩
  rw [Traced.trace_bind, Traced.trace_pure, List.append_nil]
  exact h.dispatcher.handled_dispatchAll _ hlive

/-- A step on the dispatcher leaves the intake as it is. -/
theorem intake_perform_dispatcher (h : Hub δ) (c : Dispatcher.Command δ) :
    (h.perform (.dispatcher c)).value.2.intake = h.intake := rfl

/-- **Step of a hub.** -/
theorem ledger_step (h : Hub δ) (c : Command δ) :
    h.intake.queue.toList ++ h.appended c
      = h.removed c ++ (h.perform c).value.2.intake.queue.toList := by
  cases c with
  | intake c => exact h.intake.ledger_step c
  | dispatcher c => exact List.append_nil _
  | devices c => exact List.append_nil _
  | deliverPending =>
    -- The handler, if there is one, was given exactly what the queue has lost.
    show h.intake.queue.toList ++ [] = handled (h.perform .deliverPending).trace ++ _
    by_cases hlive : h.dispatcher.hasHandler = true
    · obtain ⟨-, hintake, hhandled⟩ := perform_deliverPending_of_hasHandler hlive
      rw [hintake, hhandled, EventQueue.toList_clear]
    · rw [perform_deliverPending_of_not_hasHandler (Bool.eq_false_iff.mpr hlive)]
      exact List.append_nil _

/-- **The queue loses, doubles and reorders nothing.**  In every run from a new hub, the events that
    left the queue, followed by those still pending, are the events that were added to it.  In every
    state, looking ahead shows the event that is taken next and changes nothing, a step on the
    dispatcher does not touch the intake, and the number of pending events is that of the events in
    the queue.  A delivery without a handler does nothing; one with a handler gives it all that was
    pending, says how many events that were, and leaves the queue empty. -/
theorem run_conserves_queue (settings : ClickSettings) (steps : List (Command δ)) :
    Traced.gather perform removed (withSettings settings) steps
          ++ (run (withSettings settings) steps).value.2.intake.queue.toList
        = Traced.gather perform appended (withSettings settings) steps ∧
      ∀ h : Hub δ,
        (h.perform (.intake .peek)).value.1 = (h.perform (.intake .pop)).value.1 ∧
        (h.perform (.intake .peek)).value.2 = h ∧
        (∀ c, (h.perform (.dispatcher c)).value.2.intake = h.intake) ∧
        h.intake.pending = h.intake.queue.toList.length ∧
        (h.intake.hasPending = true ↔ h.intake.pending ≠ 0) ∧
        (h.dispatcher.hasHandler = false →
          h.perform .deliverPending = pure (.delivered 0, h)) ∧
        (h.dispatcher.hasHandler = true →
          (h.perform .deliverPending).value.1 = .delivered h.intake.pending ∧
          (h.perform .deliverPending).value.2.intake.queue.toList = [] ∧
          handled (h.perform .deliverPending).trace = h.intake.queue.toList) := by
  constructor
  · exact (Traced.gather_conserved perform (fun h : Hub δ => h.intake.queue.toList) appended removed
      ledger_step (withSettings settings) steps).symm
  · intro h
    refine ⟨?_, rfl, h.intake_perform_dispatcher, h.intake.queue.length_toList.symm,
      h.intake.hasPending_iff, perform_deliverPending_of_not_hasHandler, fun hlive => ?_⟩
    · show Reply.intake (.event h.intake.peek?) = .intake (.event h.intake.pop.1)
      rw [Intake.peek?, EventQueue.peek?_eq_head?, Intake.fst_pop]
    · obtain ⟨hcount, hintake, hhandled⟩ := perform_deliverPending_of_hasHandler hlive
      exact ⟨hcount, by rw [hintake, EventQueue.toList_clear], hhandled⟩

end Hub

end EventPipeline
