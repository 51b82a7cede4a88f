import EventPipeline.Desktop.Key
import EventPipeline.Hub
import EventPipeline.Rounding

namespace EventPipeline

/-!
# Feeding a desktop's input into a hub

A desktop reports modifier keys, the cursor and the buttons apart from each other. What was
reported last is kept, so that each event can be made complete.

* `Desktop.MouseButton`, `Desktop.KeyboardModifiers`, `Desktop.WheelDelta` — what is reported.
* `Desktop.Input` — what was reported last.
* `Desktop.Input.event?` — the event that a report makes complete.
* `Desktop.Input.moveCursor`, `Desktop.Input.mouse`, `Desktop.Input.wheel`, `Desktop.Input.key` —
  queueing the event for a report.
* `Desktop.Input.perform` — one report, named by a `Desktop.Command`.
-/

namespace Desktop

/-- A button of a mouse. -/
inductive MouseButton where
  /-- The left button. -/
  | left
  /-- The middle button. -/
  | middle
  /-- The right button. -/
  | right
  /-- The button that goes back. -/
  | back
  /-- The button that goes forward. -/
  | forward
  /-- Another button, by its number. -/
  | other (number : UInt16)
deriving DecidableEq, Repr

/-- The number of a button, counted from `1`. The numbers between the right button and the one
    that goes back belong to the wheel. -/
def MouseButton.number : MouseButton → UInt32
  | left => 1
  | middle => 2
  | right => 3
  | back => 8
  | forward => 9
  | other number => number.toUInt32

/-- The modifier keys of a keyboard that are down. -/
structure KeyboardModifiers where
  /-- A shift key. -/
  shift : Bool := false
  /-- A control key. -/
  control : Bool := false
  /-- An alt key. -/
  alt : Bool := false
  /-- A super key. -/
  super : Bool := false
deriving DecidableEq, Repr

/-- The modifier keys as they stand in an event. -/
def KeyboardModifiers.toModifiers (k : KeyboardModifiers) : Modifiers :=
  .unionAll [.onlyIf k.shift .shift, .onlyIf k.control .control, .onlyIf k.alt .mod1,
    .onlyIf k.super .super]

/-- How far a wheel turned: to the right and up if positive. -/
inductive WheelDelta where
  /-- A turn counted in lines. -/
  | lines (dx dy : Float32)
  /-- A turn counted in pixels. -/
  | pixels (dx dy : Float)

namespace WheelDelta

/-- The first of the four directions that applies. Up and down come before left and right. -/
def choose (up down left right : Bool) : Option ScrollDirection :=
  if up then some .up
  else if down then some .down
  else if left then some .left
  else if right then some .right
  else none

/-- The direction of a turn, if it went anywhere. A turn to the left is negative. -/
def direction? : WheelDelta → Option ScrollDirection
  | lines dx dy => choose (dy > 0) (dy < 0) (dx < 0) (dx > 0)
  | pixels dx dy => choose (dy > 0) (dy < 0) (dx < 0) (dx > 0)

end WheelDelta

/-- What a desktop reported last to a stage. -/
structure Input where
  /-- The stage that events are aimed at. -/
  stage : Option StageId := none
  /-- The modifier keys that are down. -/
  keyboard : KeyboardModifiers := {}
  /-- Where the cursor is. -/
  cursor : Point := .origin
  /-- The buttons that are down. -/
  held : Modifiers := ∅
deriving DecidableEq, Repr

/-- A report of a desktop. -/
inductive Command where
  /-- The reports are for another stage from now on, and nothing has been reported yet. -/
  | restart (stage : Option StageId)
  /-- The modifier keys changed. -/
  | modifiers (k : KeyboardModifiers)
  /-- The cursor moved. -/
  | cursor (x y : Float) (time : Timestamp)
  /-- A button went down or up. -/
  | mouse (pressed : Bool) (button : MouseButton) (time : Timestamp)
  /-- A wheel turned. -/
  | wheel (delta : WheelDelta) (time : Timestamp)
  /-- A key went down or up, and typed a text or none. -/
  | key (pressed : Bool) (key : DesktopKey) (text : Option String) (time : Timestamp)

namespace Input

variable {δ : Type}

/-- The modifier keys and buttons that are down. -/
def modifiers (i : Input) : Modifiers := i.keyboard.toModifiers ∪ i.held

/-- What is known once the cursor has moved. -/
def movedTo (i : Input) (x y : Float) : Input :=
  { i with cursor := ⟨truncateDouble x, truncateDouble y⟩ }

/-! ### The events of the reports -/

/-- A motion to where the cursor is. -/
def motionEvent (i : Input) (pointer : DeviceId) (time : Timestamp) : Event :=
  .motion { time, modifiers := i.modifiers, position := i.cursor, device := pointer }

/-- A press or a release of a button. It carries the buttons that were down before it. -/
def buttonEvent (i : Input) (pointer : DeviceId) (pressed : Bool) (button : MouseButton)
    (time : Timestamp) : Event :=
  let data : ButtonData :=
    { time, modifiers := i.modifiers, position := i.cursor, button := button.number, clicks := 1,
      device := pointer }
  if pressed then .buttonPress data else .buttonRelease data

/-- A scroll step. -/
def scrollEvent (i : Input) (direction : ScrollDirection) (time : Timestamp) : Event :=
  .scroll { time, modifiers := i.modifiers, position := i.cursor, direction }

/-- A press or a release of a key. The first character of the typed text goes with it. -/
def keyEvent (i : Input) (pressed : Bool) (key : DesktopKey) (text : Option String)
    (time : Timestamp) : Event :=
  let typed := text.bind fun t => t.toList.head?
  let data : KeyData :=
    { time, modifiers := i.modifiers, symbol := key.symbol, hardwareCode := 0
      character := (typed.map (·.val)).getD 0 }
  if pressed then .keyPress data else .keyRelease data

/-- The event that a report makes complete, if it has one, aimed at the stage. -/
def event? (i : Input) (pointer : DeviceId) (c : Command) : Option Event :=
  let complete : Option Event :=
    match c with
    | .restart _ | .modifiers _ => none
    | .cursor x y time => (i.movedTo x y).motionEvent pointer time
    | .mouse pressed button time => i.buttonEvent pointer pressed button time
    | .wheel delta time => delta.direction?.map fun direction => i.scrollEvent direction time
    | .key pressed key text time => i.keyEvent pressed key text time
  complete.map (·.aimedAt i.stage)

/-! ### Queueing them -/

/-- Queues an event aimed at the stage. -/
def queue (i : Input) (hub : Hub δ) (e : Event) : Traced LogRecord (Hub δ) :=
  hub.accept (e.aimedAt i.stage)

/-- Queues a motion to where the cursor is now. -/
def moveCursor (i : Input) (hub : Hub δ) (x y : Float) (time : Timestamp) :
    Traced LogRecord (Input × Hub δ) := do
  let i := i.movedTo x y
  let hub ← i.queue hub (i.motionEvent hub.devices.pointer time)
  return (i, hub)

/-- Queues a press or a release of a button, and notes that the button is down or up. -/
def mouse (i : Input) (hub : Hub δ) (pressed : Bool) (button : MouseButton) (time : Timestamp) :
    Traced LogRecord (Input × Hub δ) := do
  let mask := Modifiers.ofButton button.number
  let hub ← i.queue hub (i.buttonEvent hub.devices.pointer pressed button time)
  return ({ i with held := if pressed then i.held ∪ mask else i.held \ mask }, hub)

/-- Queues a scroll step, and says whether the wheel turned at all. -/
def wheel (i : Input) (hub : Hub δ) (delta : WheelDelta) (time : Timestamp) :
    Traced LogRecord (Bool × Hub δ) := do
  match delta.direction? with
  | none => return (false, hub)
  | some direction =>
    let hub ← i.queue hub (i.scrollEvent direction time)
    return (true, hub)

/-- Queues a press or a release of a key. -/
def key (i : Input) (hub : Hub δ) (pressed : Bool) (key : DesktopKey) (text : Option String)
    (time : Timestamp) : Traced LogRecord (Hub δ) := do
  if key.symbol = .void then
    Traced.emit (.noKeySymbol key)
  i.queue hub (i.keyEvent pressed key text time)

/-- Whether a report queued an event, and what is kept after it. -/
def perform (i : Input) (hub : Hub δ) : Command → Traced LogRecord (Bool × Input × Hub δ)
  | .restart stage => return (false, { stage }, hub)
  | .modifiers k => return (false, { i with keyboard := k }, hub)
  | .cursor x y time => (true, ·) <$> i.moveCursor hub x y time
  | .mouse pressed button time => (true, ·) <$> i.mouse hub pressed button time
  | .wheel delta time => (fun (turned, hub) => (turned, i, hub)) <$> i.wheel hub delta time
  | .key pressed key text time => (true, i, ·) <$> i.key hub pressed key text time

/-- A report does to a hub what the event does that it makes complete. -/
theorem hub_perform (i : Input) (hub : Hub δ) (c : Command) :
    (i.perform hub c).value.2.2 = hub.offer (i.event? hub.devices.pointer c) := by
  cases c with
  | restart stage => rfl
  | modifiers k => rfl
  | cursor x y time => rfl
  | mouse pressed button time => rfl
  | wheel delta time =>
    rw [perform, Traced.value_map, wheel, event?]
    cases delta.direction? <;> rfl
  | key pressed key text time =>
    rw [perform, Traced.value_map, Input.key]
    split <;> rfl

/-- What is kept of a report does not depend on the hub that it is queued in. -/
theorem input_perform_eq (i : Input) (hub other : Hub δ) (c : Command) :
    (i.perform hub c).value.2.1 = (i.perform other c).value.2.1 := by
  cases c <;> rfl

end Input

end Desktop

end EventPipeline
