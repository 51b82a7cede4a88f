import EventPipeline.Event.Basic
import EventPipeline.Rounding

namespace EventPipeline

/-!
# Motions reported by Android

* `Android.timeOfNanos`, `Android.modifiers` — the clock and the modifier keys of Android.
* `Android.Motion` — a touch or a scroll as Android reports it.
* `Android.Motion.toEvent?` — the event for a motion, if it has one.
-/

namespace Android

/-- The milliseconds of a time in nanoseconds. Fractions are cut off toward zero, and the count
    wraps after `2 ^ 32`. -/
def timeOfNanos (nanos : Int64) : Timestamp := UInt32.ofInt (nanos.toInt.tdiv 1000000)

/-- The bits of Android's modifier state that have a counterpart. -/
def modifierBits : List (UInt32 × Modifiers) :=
  [(0x1, .shift), (0x2, .mod1), (0x4, .mod5), (0x1000, .control), (0x10000, .metaKey),
   (0x100000, .lock)]

/-- The modifier keys in a modifier state of Android. -/
def modifiers (metaState : UInt32) : Modifiers :=
  .unionAll <| modifierBits.map fun (bit, m) => .onlyIf (metaState &&& bit != 0) m

/-- A touch or a scroll as Android reports it. -/
structure Motion where
  /-- What happened, with the number of a further finger above the lowest byte. -/
  action : Int32 := 0
  /-- When it happened, in nanoseconds. -/
  timeNanos : Int64 := 0
  /-- Where the first finger was, from the left. -/
  x : Float32 := 0
  /-- Where the first finger was, from the top. -/
  y : Float32 := 0
  /-- The modifier keys that were down. -/
  metaState : UInt32 := 0
  /-- How far a scroll went sideways, to the right if positive. -/
  horizontalScroll : Float32 := 0
  /-- How far a scroll went up or down, up if positive. -/
  verticalScroll : Float32 := 0

/-- What a motion of Android says, as far as there is an event for it. -/
inductive MotionAction where
  /-- The first finger touched the screen. -/
  | down
  /-- The last finger left the screen. -/
  | up
  /-- A finger moved on the screen. -/
  | move
  /-- A wheel turned. -/
  | scroll
deriving DecidableEq, Repr

/-- The action that a number stands for. Only its lowest byte counts. -/
def MotionAction.ofNumber? (n : Int32) : Option MotionAction :=
  match (n &&& 0xff).toInt with
  | 0 => some .down
  | 1 => some .up
  | 2 => some .move
  | 8 => some .scroll
  | _ => none

/-- The kind of event that an action makes. -/
def MotionAction.kind : MotionAction → EventKind
  | down => .buttonPress
  | up => .buttonRelease
  | move => .motion
  | scroll => .scroll

/-- The direction of a scroll, by the axis on which it went farther, and up or down if it went
    equally far on both. A scroll that went nowhere has none. -/
def directionOf? (horizontal vertical : Float32) : Option ScrollDirection :=
  if horizontal == 0 && vertical == 0 then none
  else if vertical.abs ≥ horizontal.abs then
    some (if vertical > 0 then .up else .down)
  else
    some (if horizontal > 0 then .right else .left)

namespace Motion

/-- Where the first finger was, in whole pixels. -/
def position (m : Motion) : Point := ⟨truncateSingle m.x, truncateSingle m.y⟩

/-- The event for a motion, reported by the given pointer. A touch counts as the first button, and
    a finger that moves holds it down. -/
def toEvent? (m : Motion) (pointer : Option DeviceId) : Option Event := do
  let time := timeOfNanos m.timeNanos
  let modifiers := Android.modifiers m.metaState
  let position := m.position
  let touch : ButtonData :=
    { time, modifiers, position, button := 1, clicks := 1, device := pointer }
  match ← MotionAction.ofNumber? m.action with
  | .down => return .buttonPress touch
  | .up => return .buttonRelease touch
  | .move =>
    return .motion { time, modifiers := modifiers ∪ .button1, position, device := pointer }
  | .scroll =>
    let direction ← directionOf? m.horizontalScroll m.verticalScroll
    return .scroll { time, modifiers, position, direction }

/-- The event for a motion is of the kind that its action makes. -/
theorem kind_of_toEvent? {m : Motion} {pointer : Option DeviceId} {e : Event}
    (he : m.toEvent? pointer = some e) :
    ∃ action, MotionAction.ofNumber? m.action = some action ∧ e.kind = action.kind := by
  rw [toEvent?] at he
  obtain ⟨action, haction, he⟩ := Option.bind_eq_some_iff.mp he
  refine ⟨action, haction, ?_⟩
  cases action with
  | down => obtain rfl := Option.some.inj he; rfl
  | up => obtain rfl := Option.some.inj he; rfl
  | move => obtain rfl := Option.some.inj he; rfl
  | scroll =>
    obtain ⟨direction, -, he⟩ := Option.bind_eq_some_iff.mp he
    obtain rfl := Option.some.inj he
    rfl

end Motion

end Android

end EventPipeline
