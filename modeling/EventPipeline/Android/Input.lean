import EventPipeline.Android.Key
import EventPipeline.Hub

namespace EventPipeline

/-!
# Feeding Android's input into a hub

* `Android.Input` — how many inputs had no event.
* `Android.Command.event?` — the event for an input.
* `Android.Input.acceptMotion`, `Android.Input.acceptKey` — queueing the event for an input.
* `Android.Input.perform` — one input, named by an `Android.Command`.
-/

namespace Android

/-- What is kept between the inputs of Android. -/
structure Input where
  /-- How many inputs had no event. -/
  dropped : Nat := 0
deriving DecidableEq, Repr

/-- An input of Android. -/
inductive Command where
  /-- A motion aimed at a stage. -/
  | motion (m : Motion) (stage : Option StageId)
  /-- A key press or release aimed at a stage. -/
  | key (k : Key) (stage : Option StageId)

/-- The event for an input, if it has one, aimed at the stage of the input. -/
def Command.event? (pointer : DeviceId) : Command → Option Event
  | .motion m stage => (m.toEvent? pointer).map (·.aimedAt stage)
  | .key k stage => k.toEvent?.map (·.aimedAt stage)

/-- The devices once the core pointer has followed an input to its stage. Only motions have one to
    follow. -/
def Command.follow (devices : DeviceTable) : Command → DeviceTable
  | .motion _ stage => (devices.setStage devices.pointer stage).2
  | .key .. => devices

namespace Input

variable {δ : Type}

/-- Queues the event for a motion, and says whether there is one. The core pointer follows the
    motion to its stage. -/
def acceptMotion (i : Input) (hub : Hub δ) (m : Motion) (stage : Option StageId) :
    Traced LogRecord (Bool × Input × Hub δ) := do
  let pointer := hub.devices.pointer
  let (_, devices) := hub.devices.setStage pointer stage
  let hub := { hub with devices }
  match m.toEvent? pointer with
  | none =>
    Traced.emit (.untranslatedMotion m.action)
    return (false, { i with dropped := i.dropped + 1 }, hub)
  | some e =>
    let e := e.aimedAt stage
    Traced.emit (.touch e.kind e.position)
    let hub ← hub.accept e
    return (true, i, hub)

/-- Queues the event for a key press or release, and says whether there is one. -/
def acceptKey (i : Input) (hub : Hub δ) (k : Key) (stage : Option StageId) :
    Traced LogRecord (Bool × Input × Hub δ) := do
  match k.toEvent? with
  | none =>
    Traced.emit (.untranslatedKey k.action)
    return (false, { i with dropped := i.dropped + 1 }, hub)
  | some e =>
    let hub ← hub.accept (e.aimedAt stage)
    return (true, i, hub)

/-- Whether an input had an event, and what is kept after it. -/
def perform (i : Input) (hub : Hub δ) : Command → Traced LogRecord (Bool × Input × Hub δ)
  | .motion m stage => i.acceptMotion hub m stage
  | .key k stage => i.acceptKey hub k stage

/-- An input moves the core pointer to its stage, and then does to a hub what the event for it
    does. -/
theorem hub_perform (i : Input) (hub : Hub δ) (c : Command) :
    (i.perform hub c).value.2.2 =
      ({ hub with devices := c.follow hub.devices } : Hub δ).offer
        (c.event? hub.devices.pointer) := by
  cases c with
  | motion m stage =>
    simp only [perform, acceptMotion, Command.event?]
    cases m.toEvent? hub.devices.pointer <;> rfl
  | key k stage =>
    simp only [perform, acceptKey, Command.event?]
    cases k.toEvent? <;> rfl

/-- What is kept once an input was translated into an event or into none. -/
def tally (i : Input) : Option Event → Input
  | some _ => i
  | none => { i with dropped := i.dropped + 1 }

theorem input_perform (i : Input) (hub : Hub δ) (c : Command) :
    (i.perform hub c).value.2.1 = i.tally (c.event? hub.devices.pointer) := by
  cases c with
  | motion m stage =>
    simp only [perform, acceptMotion, Command.event?]
    cases m.toEvent? hub.devices.pointer <;> rfl
  | key k stage =>
    simp only [perform, acceptKey, Command.event?]
    cases k.toEvent? <;> rfl

/-- An input does to an intake what the event for it does. -/
theorem intake_perform (i : Input) (hub : Hub δ) (c : Command) :
    (i.perform hub c).value.2.2.intake = hub.intake.offer (c.event? hub.devices.pointer) :=
  congrArg Hub.intake (i.hub_perform hub c)

end Input

end Android

end EventPipeline
