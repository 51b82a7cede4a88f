import EventPipeline.Intake

namespace EventPipeline

/-!
# A flushed intake

A flush drops the pending events and forgets the presses, but the row in which the events stood
stays.  So a flushed intake is in general another state than the intake that starts under its
thresholds (`Intake.flush_eq_withSettings_iff`).  No sequence of steps and questions tells the two
apart.

* `Intake.View`, `Intake.view` — what can be asked of an intake between two steps.
* `Intake.SameContents` — two intakes that differ at most in how their events are stored.
* `Intake.SameOutcome` — two outcomes that no one can tell apart.

Every step answers and reports the same on intakes with the same contents, and leaves the same
contents behind (`Intake.SameContents.perform`).  Hence so does a run (`Intake.SameContents.run`).
-/

/-! ### Queues with the same events -/

/-- How a queue stores its events does not show in the event that is taken next. -/
theorem EventQueue.peek?_congr {q q' : EventQueue} (h : q.toList = q'.toList) :
    q.peek? = q'.peek? := by
  rw [peek?_eq_head?, peek?_eq_head?, h]

/-- Nor does it show in how many events there are. -/
theorem EventQueue.size_congr {q q' : EventQueue} (h : q.toList = q'.toList) :
    q.size = q'.size := by
  rw [← length_toList, ← length_toList, h]

/-- Nor in whether there is one. -/
theorem EventQueue.hasPending_congr {q q' : EventQueue} (h : q.toList = q'.toList) :
    q.hasPending = q'.hasPending := by
  rw [Bool.eq_iff_iff, hasPending_iff, hasPending_iff, h]

namespace Intake

/-! ### What can be asked -/

/-- The answers to all questions that can be asked of an intake. -/
structure View where
  /-- The oldest pending event. -/
  next? : Option Event
  /-- How many events are pending. -/
  pending : Nat
  /-- Whether an event is pending. -/
  hasPending : Bool
  /-- The presses that are remembered. -/
  clicks : ClickHistory
  /-- The thresholds. -/
  settings : ClickSettings
deriving DecidableEq, Repr

/-- What an intake answers to all questions. -/
def view (i : Intake) : View where
  next? := i.peek?
  pending := i.pending
  hasPending := i.hasPending
  clicks := i.clicks
  settings := i.settings

/-! ### Intakes with the same contents -/

/-- Two intakes that differ at most in how their events are stored. -/
structure SameContents (i j : Intake) : Prop where
  /-- The same events are pending, in the same order. -/
  events_eq : i.queue.toList = j.queue.toList
  /-- The same presses are remembered. -/
  clicks_eq : i.clicks = j.clicks
  /-- The same thresholds are in force. -/
  settings_eq : i.settings = j.settings

/-- Two outcomes that tell the same, with intakes of the same contents. -/
structure SameOutcome {α : Type} (t t' : Traced LogRecord (α × Intake)) : Prop where
  /-- The answers are the same. -/
  answer_eq : t.value.1 = t'.value.1
  /-- The same was reported. -/
  trace_eq : t.trace = t'.trace
  /-- The intakes have the same contents. -/
  contents : t.value.2.SameContents t'.value.2

namespace SameContents

variable {i j : Intake}

/-- All questions are answered from the contents. -/
theorem view_eq (h : i.SameContents j) : i.view = j.view := by
  have hnext : i.peek? = j.peek? := EventQueue.peek?_congr h.events_eq
  have hpending : i.pending = j.pending := EventQueue.size_congr h.events_eq
  have hsome : i.hasPending = j.hasPending := EventQueue.hasPending_congr h.events_eq
  rw [view, view, hnext, hpending, hsome, h.clicks_eq, h.settings_eq]

theorem push (h : i.SameContents j) (e : Event) :
    (i.push e).value.SameContents (j.push e).value where
  events_eq := by rw [toList_queue_push, toList_queue_push, h.events_eq]
  clicks_eq := h.clicks_eq
  settings_eq := h.settings_eq

theorem withClicks (h : i.SameContents j) (clicks : ClickHistory) :
    { i with clicks }.SameContents { j with clicks } where
  events_eq := h.events_eq
  clicks_eq := rfl
  settings_eq := h.settings_eq

theorem pushClick (h : i.SameContents j) (click : Option Event) :
    (i.pushClick click).value.SameContents (j.pushClick click).value ∧
      (i.pushClick click).trace = (j.pushClick click).trace := by
  cases click with
  | none => exact ⟨h, rfl⟩
  | some click => exact ⟨h.push click, rfl⟩

theorem pop (h : i.SameContents j) : i.pop.1 = j.pop.1 ∧ i.pop.2.SameContents j.pop.2 := by
  refine ⟨?_, ?_, h.clicks_eq, h.settings_eq⟩
  · rw [fst_pop, fst_pop, h.events_eq]
  · rw [toList_queue_pop, toList_queue_pop, h.events_eq]

theorem flush (h : i.SameContents j) : i.flush.SameContents j.flush where
  events_eq := by rw [Intake.flush, Intake.flush, EventQueue.toList_clear, EventQueue.toList_clear]
  clicks_eq := rfl
  settings_eq := h.settings_eq

/-- The thresholds are changed alike. -/
theorem changeSettings (h : i.SameContents j) (change : ClickSettings → ClickSettings) :
    (i.setSettings (change i.settings)).SameContents (j.setSettings (change j.settings)) where
  events_eq := h.events_eq
  clicks_eq := h.clicks_eq
  settings_eq := congrArg change h.settings_eq

/-- What becomes of an event depends on the presses and the thresholds alone. -/
theorem process_eq (h : i.SameContents j) (e : Event) :
    i.clicks.process i.settings e = j.clicks.process j.settings e := by
  rw [h.clicks_eq, h.settings_eq]

/-- The click that an event completes is queued alike, if there is one. -/
theorem synthesize (h : i.SameContents j) (e : Event) :
    SameOutcome (i.synthesize e) (j.synthesize e) := by
  rw [Intake.synthesize, Intake.synthesize, h.process_eq]
  obtain ⟨⟨click, clicks⟩, reported⟩ := j.clicks.process j.settings e
  obtain ⟨hcontents, htrace⟩ := (h.withClicks clicks).pushClick click
  exact ⟨rfl, congrArg (fun later => reported ++ (later ++ [])) htrace, hcontents⟩

/-- So are a press and the click behind it. -/
theorem press (h : i.SameContents j) (e : Event) :
    (i.press e).value.SameContents (j.press e).value ∧ (i.press e).trace = (j.press e).trace := by
  rw [Intake.press, Intake.press, h.process_eq]
  obtain ⟨⟨click, clicks⟩, reported⟩ := j.clicks.process j.settings e
  obtain ⟨hcontents, htrace⟩ := ((h.withClicks clicks).push e).pushClick click
  exact ⟨hcontents, congrArg (fun later => reported ++ (.queued e.kind e.time :: later)) htrace⟩

/-- **Step.**  A step answers the same on both intakes, it reports the same, and both have the same
    contents after it. -/
theorem perform (h : i.SameContents j) (c : Command) :
    SameOutcome (i.perform c) (j.perform c) := by
  cases c with
  | push e => exact ⟨rfl, rfl, h.push e⟩
  | press e =>
    obtain ⟨hcontents, htrace⟩ := h.press e
    exact ⟨rfl, congrArg (· ++ []) htrace, hcontents⟩
  | synthesize e =>
    obtain ⟨hanswer, htrace, hcontents⟩ := h.synthesize e
    exact ⟨congrArg Reply.synthesized hanswer, congrArg (· ++ []) htrace, hcontents⟩
  | pop => exact ⟨congrArg Reply.event h.pop.1, rfl, h.pop.2⟩
  | peek => exact ⟨congrArg Reply.event (EventQueue.peek?_congr h.events_eq), rfl, h⟩
  | flush => exact ⟨rfl, rfl, h.flush⟩
  | settings => exact ⟨congrArg Reply.settings h.settings_eq, rfl, h⟩
  | setSettings s => exact ⟨rfl, rfl, h.changeSettings fun _ => s⟩
  | setTime millis => exact ⟨rfl, rfl, h.changeSettings ({ · with doubleClickTime := millis })⟩
  | setDistance pixels =>
    exact ⟨rfl, rfl, h.changeSettings ({ · with doubleClickDistance := pixels })⟩

/-- **Run.**  The same steps answer and report the same from both intakes, and lead to the same
    contents. -/
theorem run (h : i.SameContents j) (steps : List Command) :
    SameOutcome (i.run steps) (j.run steps) := by
  induction steps generalizing i j with
  | nil => exact ⟨rfl, rfl, h⟩
  | cons c rest ih =>
    have hfirst := h.perform c
    have hrest := ih hfirst.contents
    refine ⟨?_, ?_, hrest.contents⟩
    · show (i.perform c).value.1 :: ((i.perform c).value.2.run rest).value.1 =
        (j.perform c).value.1 :: ((j.perform c).value.2.run rest).value.1
      rw [hfirst.answer_eq, hrest.answer_eq]
    · rw [Intake.run, Intake.run, Traced.trace_runAll_cons, Traced.trace_runAll_cons]
      show (i.perform c).trace ++ ((i.perform c).value.2.run rest).trace =
        (j.perform c).trace ++ ((j.perform c).value.2.run rest).trace
      rw [hfirst.trace_eq, hrest.trace_eq]

end SameContents

/-! ### The flush -/

/-- A flushed intake has the contents of the one that starts under its thresholds. -/
theorem sameContents_flush (i : Intake) : i.flush.SameContents (withSettings i.settings) where
  events_eq := i.queue.toList_clear
  clicks_eq := rfl
  settings_eq := rfl

/-- A flushed intake is the one that starts under its thresholds only if no event has ever joined
    its queue.  Otherwise the row in which the events stood is still there. -/
theorem flush_eq_withSettings_iff (i : Intake) :
    i.flush = withSettings i.settings ↔ i.queue = ∅ := by
  rw [← i.queue.clear_eq_empty_iff]
  constructor
  · intro h
    exact congrArg queue h
  · intro h
    rw [flush, h]
    rfl

/-- **A flush makes a fresh intake.**  No event is pending after it, no press is remembered, and the
    thresholds stay in force.  Whatever was pending, and whatever was pressed before, steps after a
    flush give the answers and the log that the same steps give from the intake that starts under
    these thresholds, and before and after each of them every question is answered the same. -/
theorem run_flush (i : Intake) (steps : List Command) :
    i.flush.view = ⟨none, 0, false, ∅, i.settings⟩ ∧
      (i.flush.run steps).value.1 = ((withSettings i.settings).run steps).value.1 ∧
      (i.flush.run steps).trace = ((withSettings i.settings).run steps).trace ∧
      ∀ n, (i.flush.run (steps.take n)).value.2.view =
        ((withSettings i.settings).run (steps.take n)).value.2.view := by
  have h := i.sameContents_flush
  exact ⟨h.view_eq, (h.run steps).answer_eq, (h.run steps).trace_eq,
    fun n => (h.run (steps.take n)).contents.view_eq⟩

end Intake

end EventPipeline
