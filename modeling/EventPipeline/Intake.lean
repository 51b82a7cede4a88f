import EventPipeline.Click.History
import EventPipeline.Queue

namespace EventPipeline

/-!
# Taking events in

The intake is where a platform's events enter. It keeps the queue of pending events, the click
history, and the click thresholds.

* `Intake.push`, `Intake.press` — queueing an event; the second adds the click that a press
  completes.
* `Intake.synthesize` — queueing only the click that an event completes.
* `Intake.pop`, `Intake.peek?`, `Intake.flush` — taking, looking ahead, dropping everything.
* `Intake.perform`, `Intake.run` — one step on an intake, named by an `Intake.Command`, and the
  steps of a list.
-/

/-- The queue of pending events with what is needed to recognise clicks. -/
structure Intake where
  /-- The pending events. -/
  queue : EventQueue := ∅
  /-- The presses that a later press may complete a click with. -/
  clicks : ClickHistory := ∅
  /-- The click thresholds. -/
  settings : ClickSettings := {}
deriving DecidableEq, Repr

namespace Intake

/-- The intake without an event and without a press, under the given thresholds. -/
def withSettings (settings : ClickSettings) : Intake := { settings }

/-- Queues an event. -/
def push (i : Intake) (e : Event) : Traced LogRecord Intake := do
  Traced.emit (.queued e.kind e.time)
  return { i with queue := i.queue.push e }

/-- Queues the event that reports a completed click, if there is one. -/
def pushClick (i : Intake) : Option Event → Traced LogRecord Intake
  | none => return i
  | some click => do
    Traced.emit (.synthesized click.kind click.button)
    i.push click

/-- Queues the click that an event completes, and says whether there was one. The event itself is
    not queued. -/
def synthesize (i : Intake) (e : Event) : Traced LogRecord (Bool × Intake) := do
  let (click, clicks) ← i.clicks.process i.settings e
  let i ← { i with clicks }.pushClick click
  return (click.isSome, i)

/-- Queues a button press of the user, and after it the click that it completes. -/
def press (i : Intake) (e : Event) : Traced LogRecord Intake := do
  let (click, clicks) ← i.clicks.process i.settings e
  let i ← { i with clicks }.push e
  i.pushClick click

/-- Queues an event of the user: a button press with the click that it completes, any other event
    alone. -/
def accept (i : Intake) (e : Event) : Traced LogRecord Intake :=
  if e.kind = .buttonPress then i.press e else i.push e

/-- The intake once an input was translated into an event of the user, or into none. -/
def offer (i : Intake) : Option Event → Intake
  | none => i
  | some e => (i.accept e).value

/-- Takes the oldest pending event. -/
def pop (i : Intake) : Option Event × Intake :=
  let (e?, queue) := i.queue.pop
  (e?, { i with queue })

/-- The oldest pending event. -/
def peek? (i : Intake) : Option Event := i.queue.peek?

/-- How many events are pending. -/
def pending (i : Intake) : Nat := i.queue.size

/-- Whether an event is pending. -/
def hasPending (i : Intake) : Bool := i.queue.hasPending

/-- Drops the pending events and the click history. -/
def flush (i : Intake) : Intake := { i with queue := i.queue.clear, clicks := ∅ }

/-- The intake under other thresholds. -/
def setSettings (i : Intake) (settings : ClickSettings) : Intake := { i with settings }

/-- The intake under another time threshold. -/
def setTime (i : Intake) (millis : UInt32) : Intake :=
  { i with settings.doubleClickTime := millis }

/-- The intake under another distance threshold. -/
def setDistance (i : Intake) (pixels : UInt32) : Intake :=
  { i with settings.doubleClickDistance := pixels }

/-! ### What each operation does to the parts -/

section

variable (i : Intake) (e : Event)

@[simp] theorem toList_queue_push : (i.push e).value.queue.toList = i.queue.toList ++ [e] :=
  EventQueue.toList_push i.queue e

@[simp] theorem clicks_push : (i.push e).value.clicks = i.clicks := rfl

@[simp] theorem settings_push : (i.push e).value.settings = i.settings := rfl

@[simp] theorem trace_push : (i.push e).trace = [.queued e.kind e.time] := rfl

theorem toList_queue_pushClick (click : Option Event) :
    (i.pushClick click).value.queue.toList = i.queue.toList ++ click.toList := by
  cases click with
  | none => exact (List.append_nil _).symm
  | some click => exact toList_queue_push i click

@[simp] theorem clicks_pushClick (click : Option Event) :
    (i.pushClick click).value.clicks = i.clicks := by
  cases click <;> rfl

@[simp] theorem settings_pushClick (click : Option Event) :
    (i.pushClick click).value.settings = i.settings := by
  cases click <;> rfl

theorem clicks_synthesize :
    (i.synthesize e).value.2.clicks = (i.clicks.process i.settings e).value.2 :=
  clicks_pushClick _ _

theorem settings_synthesize : (i.synthesize e).value.2.settings = i.settings :=
  settings_pushClick _ _

theorem toList_queue_synthesize :
    (i.synthesize e).value.2.queue.toList =
      i.queue.toList ++ (i.clicks.process i.settings e).value.1.toList :=
  toList_queue_pushClick _ _

/-- The click that a press completes stands right behind the press. -/
theorem toList_queue_press :
    (i.press e).value.queue.toList =
      i.queue.toList ++ e :: (i.clicks.process i.settings e).value.1.toList := by
  have h := toList_queue_pushClick
    ({ i with clicks := (i.clicks.process i.settings e).value.2 }.push e).value
    (i.clicks.process i.settings e).value.1
  rw [toList_queue_push, List.append_assoc] at h
  exact h

theorem clicks_press :
    (i.press e).value.clicks = (i.clicks.process i.settings e).value.2 :=
  clicks_pushClick _ _

theorem settings_press : (i.press e).value.settings = i.settings :=
  settings_pushClick _ _

theorem fst_pop : i.pop.1 = i.queue.toList.head? := EventQueue.fst_pop i.queue

theorem toList_queue_pop : i.pop.2.queue.toList = i.queue.toList.tail :=
  EventQueue.toList_snd_pop i.queue

/-- An intake without a pending event stays as it is. -/
theorem pop_of_toList_eq_nil {i : Intake} (h : i.queue.toList = []) : i.pop = (none, i) := by
  rw [pop, EventQueue.pop_of_toList_eq_nil h]

/-- The oldest event of an intake is taken from the front of its queue. -/
theorem pop_of_toList_eq_cons {i : Intake} {e : Event} {rest : List Event}
    (h : i.queue.toList = e :: rest) :
    i.pop = (some e, { i with queue := i.queue.pop.2 }) := by
  have hhead : i.queue.pop.1 = some e := by rw [EventQueue.fst_pop, h]; rfl
  rw [pop, ← hhead]

/-- What an event taken from the queue leaves behind. -/
theorem toList_queue_of_pop {i rest : Intake} {e : Event} (taken : i.pop = (some e, rest)) :
    i.queue.toList = e :: rest.queue.toList := by
  have hhead : i.queue.toList.head? = some e := by rw [← fst_pop, taken]
  have htail : rest.queue.toList = i.queue.toList.tail := by rw [← toList_queue_pop, taken]
  obtain ⟨later, hlater⟩ := List.head?_eq_some_iff.mp hhead
  rw [htail, hlater]
  rfl

/-- One event fewer is pending once one was taken. -/
theorem pending_of_pop {i rest : Intake} {e : Event} (taken : i.pop = (some e, rest)) :
    i.pending = rest.pending + 1 := by
  have hlen := congrArg List.length (toList_queue_of_pop taken)
  rwa [List.length_cons, EventQueue.length_toList, EventQueue.length_toList] at hlen

end

/-! ### Steps -/

/-- A step on an intake. -/
inductive Command where
  /-- Queues an event. -/
  | push (e : Event)
  /-- Queues an event and the click that it completes. -/
  | press (e : Event)
  /-- Queues the click that an event completes. -/
  | synthesize (e : Event)
  /-- Takes the oldest event. -/
  | pop
  /-- Asks for the oldest event. -/
  | peek
  /-- Drops the pending events and the click history. -/
  | flush
  /-- Asks for the thresholds. -/
  | settings
  /-- Changes both thresholds. -/
  | setSettings (s : ClickSettings)
  /-- Changes the time threshold. -/
  | setTime (millis : UInt32)
  /-- Changes the distance threshold. -/
  | setDistance (pixels : UInt32)
deriving DecidableEq, Repr

/-- What a step on an intake answers. -/
inductive Reply where
  /-- Nothing. -/
  | done
  /-- The event asked for, if one is pending. -/
  | event (e : Option Event)
  /-- Whether a click was queued. -/
  | synthesized (clicked : Bool)
  /-- The thresholds. -/
  | settings (s : ClickSettings)
deriving DecidableEq, Repr

/-- The answer to a step, and the intake after it. -/
def perform (i : Intake) : Command → Traced LogRecord (Reply × Intake)
  | .push e => (.done, ·) <$> i.push e
  | .press e => (.done, ·) <$> i.press e
  | .synthesize e => (fun (clicked, i) => (.synthesized clicked, i)) <$> i.synthesize e
  | .pop => let (e?, i) := i.pop; return (.event e?, i)
  | .peek => return (.event i.peek?, i)
  | .flush => return (.done, i.flush)
  | .settings => return (.settings i.settings, i)
  | .setSettings s => return (.done, i.setSettings s)
  | .setTime millis => return (.done, i.setTime millis)
  | .setDistance pixels => return (.done, i.setDistance pixels)

/-- The answers to the steps of a list, and the intake after them. -/
def run (i : Intake) (steps : List Command) : Traced LogRecord (List Reply × Intake) :=
  Traced.runAll perform i steps

end Intake

end EventPipeline
