import EventPipeline.Event.Kind
import EventPipeline.Handle
import EventPipeline.Keysym.Basic
import EventPipeline.Modifiers
import EventPipeline.Point

namespace EventPipeline

/-!
# What events carry

* `KeyData`, `ButtonData`, `MotionData`, `ScrollData` — what an event of each family carries.
* `Payload` — one of these, or nothing.
* `Payload.blank` — the payload of a family with every part zero.
-/

/-- The time of an event in milliseconds. It wraps after `2 ^ 32` of them. -/
abbrev Timestamp := UInt32

/-- What an event about a key carries. -/
structure KeyData where
  /-- When it happened. -/
  time : Timestamp := 0
  /-- The modifier keys and buttons that were down. -/
  modifiers : Modifiers := ∅
  /-- The symbol of the key. -/
  symbol : Keysym := 0
  /-- The number that the hardware gives the key. -/
  hardwareCode : UInt16 := 0
  /-- The code point of the character that the platform reported, `0` for none. -/
  character : UInt32 := 0
deriving DecidableEq, Repr

/-- What an event about a pointer button carries. -/
structure ButtonData where
  /-- When it happened. -/
  time : Timestamp := 0
  /-- The modifier keys and buttons that were down. -/
  modifiers : Modifiers := ∅
  /-- Where the pointer was. -/
  position : Point := .origin
  /-- The button, counted from `1`. -/
  button : UInt32 := 0
  /-- How many clicks the platform counted. -/
  clicks : UInt32 := 0
  /-- The device that the button is on. -/
  device : Option DeviceId := none
deriving DecidableEq, Repr

/-- What an event about a moving pointer carries. -/
structure MotionData where
  /-- When it happened. -/
  time : Timestamp := 0
  /-- The modifier keys and buttons that were down. -/
  modifiers : Modifiers := ∅
  /-- Where the pointer was. -/
  position : Point := .origin
  /-- The device that moved. -/
  device : Option DeviceId := none
deriving DecidableEq, Repr

/-- What an event about a scroll step carries. -/
structure ScrollData where
  /-- When it happened. -/
  time : Timestamp := 0
  /-- The modifier keys and buttons that were down. -/
  modifiers : Modifiers := ∅
  /-- Where the pointer was. -/
  position : Point := .origin
  /-- The way of the step. -/
  direction : ScrollDirection := .up
deriving DecidableEq, Repr

/-- What an event carries. -/
inductive Payload where
  /-- Nothing. -/
  | nothing
  /-- A key. -/
  | key (data : KeyData)
  /-- A pointer button. -/
  | button (data : ButtonData)
  /-- A pointer that moved. -/
  | motion (data : MotionData)
  /-- A scroll step. -/
  | scroll (data : ScrollData)
deriving DecidableEq, Repr

namespace Payload

/-- The family of events that carry such a payload. -/
def family : Payload → EventFamily
  | nothing => .nothing
  | key _ => .key
  | button _ => .button
  | motion _ => .motion
  | scroll _ => .scroll

/-- The payload of a family with every part zero. -/
def blank : EventFamily → Payload
  | .nothing => nothing
  | .key => key {}
  | .button => button {}
  | .motion => motion {}
  | .scroll => scroll {}

@[simp] theorem family_blank (f : EventFamily) : (blank f).family = f := by
  cases f <;> rfl

end Payload

end EventPipeline
