import EventPipeline.Device
import EventPipeline.Dispatcher
import EventPipeline.Intake

namespace EventPipeline

/-!
# Intake, handler and devices of one main loop

* `Hub` — what one main loop needs: the intake, the handler, and the known devices.
* `Hub.drain`, `Hub.deliverPending` — giving every pending event to the handler.
* `Hub.perform`, `Hub.run` — one step on a hub, named by a `Hub.Command`, and the steps of a list.
-/

/-- What one main loop needs. The type `δ` is that of the handlers' data. -/
structure Hub (δ : Type) where
  /-- Where events enter. -/
  intake : Intake := {}
  /-- Where events are delivered. -/
  dispatcher : Dispatcher δ := ∅
  /-- The known devices. -/
  devices : DeviceTable := .initial

namespace Hub

variable {δ : Type}

/-- The hub without an event and without a handler, under the given thresholds. -/
def withSettings (settings : ClickSettings) : Hub δ := { intake := .withSettings settings }

/-- Takes the oldest event and gives it to the handler until none is pending, and says how many
    there were. -/
def drain (h : Hub δ) : Traced (Effect δ) (Nat × Hub δ) :=
  match _ : h.intake.pop with
  | (none, intake) => return (0, { h with intake })
  | (some e, intake) => do
    Traced.emit (.logged (.dispatching e.kind))
    let (_, dispatcher) ← h.dispatcher.dispatch e
    let (count, h) ← drain { h with intake, dispatcher }
    return (count + 1, h)
termination_by h.intake.pending
decreasing_by
  have hfewer := Intake.pending_of_pop ‹_›
  show intake.pending < h.intake.pending
  omega

/-- Gives every pending event to the handler, oldest first, and says how many there were. Without
    a handler the events stay pending. -/
def deliverPending (h : Hub δ) : Traced (Effect δ) (Nat × Hub δ) :=
  if h.dispatcher.hasHandler then h.drain else return (0, h)

/-- Without a pending event there is nothing to deliver. -/
theorem drain_of_toList_eq_nil {h : Hub δ} (hnone : h.intake.queue.toList = []) :
    h.drain = pure (0, h) := by
  have hpop := Intake.pop_of_toList_eq_nil hnone
  rw [drain]
  split
  · rename_i intake htaken
    rw [hpop] at htaken
    obtain ⟨-, rfl⟩ := Prod.mk.inj htaken
    rfl
  · rename_i e intake htaken
    rw [hpop] at htaken
    exact absurd (Prod.mk.inj htaken).1 (by simp)

/-- The oldest event is delivered first, and the rest after it. -/
theorem drain_of_toList_eq_cons {h : Hub δ} {e : Event} {rest : List Event}
    (hsome : h.intake.queue.toList = e :: rest) :
    h.drain = (do
      Traced.emit (.logged (.dispatching e.kind))
      let (_, dispatcher) ← h.dispatcher.dispatch e
      let (count, h) ← drain { h with intake.queue := h.intake.queue.pop.2, dispatcher }
      return (count + 1, h)) := by
  have hpop := Intake.pop_of_toList_eq_cons hsome
  rw [drain]
  split
  · rename_i intake htaken
    rw [hpop] at htaken
    exact absurd (Prod.mk.inj htaken).1 (by simp)
  · rename_i e' intake htaken
    rw [hpop] at htaken
    obtain ⟨he, rfl⟩ := Prod.mk.inj htaken
    obtain rfl := Option.some.inj he
    rfl

/-- Taking the events one by one gives the handler all of them in their order, and counts them. -/
theorem drain_eq (h : Hub δ) :
    h.drain = (do
      let dispatcher ← h.dispatcher.dispatchAll h.intake.queue.toList
      return (h.intake.pending, { h with intake.queue := h.intake.queue.clear, dispatcher })) := by
  generalize hevents : h.intake.queue.toList = events
  induction events generalizing h with
  | nil =>
    have hpending : h.intake.pending = 0 := by
      rw [Intake.pending, ← EventQueue.length_toList, hevents]
      rfl
    rw [drain_of_toList_eq_nil hevents, hpending, EventQueue.clear_of_toList_eq_nil hevents]
    rfl
  | cons e rest ih =>
    have hrest : h.intake.queue.pop.2.toList = rest := by
      rw [EventQueue.toList_snd_pop, hevents]
      rfl
    have hpending : h.intake.pending = h.intake.queue.pop.2.size + 1 := by
      rw [Intake.pending, ← EventQueue.length_toList, ← EventQueue.length_toList, hrest, hevents]
      rfl
    have hlater := ih { h with intake.queue := h.intake.queue.pop.2,
                               dispatcher := (h.dispatcher.dispatch e).value.2 } hrest
    rw [drain_of_toList_eq_cons hevents, hpending]
    apply Traced.ext
    · simp only [Traced.value_bind, hlater, Dispatcher.dispatchAll, EventQueue.clear_snd_pop]
      rfl
    · simp only [Traced.trace_bind, hlater, Dispatcher.dispatchAll, Traced.trace_pure,
        List.append_nil]

/-- With a handler a delivery gives it all pending events, without one it does nothing. -/
theorem deliverPending_eq (h : Hub δ) :
    h.deliverPending =
      if h.dispatcher.hasHandler then do
        let dispatcher ← h.dispatcher.dispatchAll h.intake.queue.toList
        return (h.intake.pending, { h with intake.queue := h.intake.queue.clear, dispatcher })
      else
        return (0, h) := by
  rw [deliverPending, drain_eq]

/-- Gives an event to the handler without queueing it, and says whether there is a handler. -/
def dispatch (h : Hub δ) (e : Event) : Traced (Effect δ) (Bool × Hub δ) := do
  let (found, dispatcher) ← h.dispatcher.dispatch e
  return (found, { h with dispatcher })

/-- Queues an event of the user, with the click that it completes. -/
def accept (h : Hub δ) (e : Event) : Traced LogRecord (Hub δ) := do
  let intake ← h.intake.accept e
  return { h with intake }

/-- The hub once an input was translated into an event of the user, or into none. -/
def offer (h : Hub δ) (e? : Option Event) : Hub δ := { h with intake := h.intake.offer e? }

/-! ### Steps -/

/-- A step on a hub. -/
inductive Command (δ : Type) where
  /-- A step on the intake. -/
  | intake (c : Intake.Command)
  /-- A step on the dispatcher. -/
  | dispatcher (c : Dispatcher.Command δ)
  /-- A step on the device table. -/
  | devices (c : DeviceTable.Command)
  /-- Gives every pending event to the handler. -/
  | deliverPending

/-- What a step on a hub answers. -/
inductive Reply where
  /-- The answer of the intake. -/
  | intake (r : Intake.Reply)
  /-- The answer of the dispatcher. -/
  | dispatcher (r : Dispatcher.Reply)
  /-- The answer of the device table. -/
  | devices (r : DeviceTable.Reply)
  /-- How many events were delivered. -/
  | delivered (count : Nat)
deriving DecidableEq, Repr

/-- The answer to a step, and the hub after it. -/
def perform (h : Hub δ) : Command δ → Traced (Effect δ) (Reply × Hub δ)
  | .intake c => do
    let (r, intake) ← (h.intake.perform c).mapTrace .logged
    return (.intake r, { h with intake })
  | .dispatcher c => do
    let (r, dispatcher) ← h.dispatcher.perform c
    return (.dispatcher r, { h with dispatcher })
  | .devices c =>
    let (r, devices) := h.devices.perform c
    return (.devices r, { h with devices })
  | .deliverPending => do
    let (count, h) ← h.deliverPending
    return (.delivered count, h)

/-- The answers to the steps of a list, and the hub after the last one. -/
def run (h : Hub δ) (steps : List (Command δ)) : Traced (Effect δ) (List Reply × Hub δ) :=
  Traced.runAll perform h steps

theorem trace_run_cons (h : Hub δ) (c : Command δ) (rest : List (Command δ)) :
    (h.run (c :: rest)).trace = (h.perform c).trace ++ ((h.perform c).value.2.run rest).trace :=
  Traced.trace_runAll_cons perform h c rest

end Hub

end EventPipeline
