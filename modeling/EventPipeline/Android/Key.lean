import EventPipeline.Android.Motion
import EventPipeline.Keysym.Names

namespace EventPipeline

/-!
# Keys reported by Android

* `Android.symbolOfCode` — the key symbol of a key code.
* `Android.Key` — a key press or release as Android reports it.
* `Android.Key.toEvent?` — the event for it, if it has one.
-/

namespace Android

/-- The key symbols of the key codes that do not run in a row. -/
def symbolsByCode : List (Nat × Keysym) :=
  [(19, .up), (20, .down), (21, .left), (22, .right), (55, 0x2c), (56, 0x2e), (57, .altLeft),
   (58, .altRight), (59, .shiftLeft), (60, .shiftRight), (61, .tab), (62, 0x20), (66, .enter),
   (67, .backspace), (68, 0x60), (69, 0x2d), (70, 0x3d), (71, 0x5b), (72, 0x5d), (73, 0x5c),
   (74, 0x3b), (75, 0x27), (76, 0x2f), (82, .menu), (92, .pageUp), (93, .pageDown),
   (111, .escape), (112, .delete), (113, .controlLeft), (114, .controlRight), (115, .capsLock),
   (117, .metaLeft), (118, .metaRight), (121, .pause), (122, .home), (123, .lineEnd),
   (124, .insert), (143, .numLock), (160, .keypadEnter)]

/-- The key symbol of a key code, the placeholder for a code without one. Digits, letters and
    function keys have codes in a row. -/
def symbolOfCode (code : UInt32) : Keysym :=
  if 7 ≤ code && code ≤ 16 then 0x30 + (code - 7)
  else if 29 ≤ code && code ≤ 54 then 0x61 + (code - 29)
  else if 131 ≤ code && code ≤ 142 then .functionKey (code - 131)
  else (symbolsByCode.lookup code.toNat).getD .void

/-- A key press or release as Android reports it. -/
structure Key where
  /-- What happened. -/
  action : Int32 := 0
  /-- The key code of Android. -/
  code : UInt32 := 0
  /-- The number that the hardware gives the key. -/
  scanCode : Int32 := 0
  /-- The modifier keys that were down. -/
  metaState : UInt32 := 0
  /-- When it happened, in nanoseconds. -/
  timeNanos : Int64 := 0
  /-- The code point of the key's character, `0` if it is not known. -/
  character : UInt32 := 0
deriving DecidableEq, Repr

namespace Key

/-- The symbol of the key. A key code without one leaves the symbol to the character. -/
def symbol (k : Key) : Keysym :=
  let listed := symbolOfCode k.code
  if listed = .void && k.character != 0 then .ofCodePoint k.character else listed

/-- The number that the hardware gives the key, `0` if 16 bits cannot hold it. -/
def hardwareCode (k : Key) : UInt16 :=
  let n := k.scanCode.toInt
  if 0 ≤ n ∧ n < 65536 then UInt16.ofNat n.toNat else 0

/-- The event for a key press or release. A repeated key counts as pressed. -/
def toEvent? (k : Key) : Option Event :=
  let data : KeyData :=
    { time := timeOfNanos k.timeNanos, modifiers := Android.modifiers k.metaState
      symbol := k.symbol, hardwareCode := k.hardwareCode, character := k.character }
  match k.action.toInt with
  | 0 | 2 => some (.keyPress data)
  | 1 => some (.keyRelease data)
  | _ => none

/-- The event for a key is a press or a release of a key. -/
theorem kind_of_toEvent? {k : Key} {e : Event} (he : k.toEvent? = some e) :
    e.kind = .keyPress ∨ e.kind = .keyRelease := by
  rw [toEvent?] at he
  split at he
  · obtain rfl := Option.some.inj he; exact .inl rfl
  · obtain rfl := Option.some.inj he; exact .inl rfl
  · obtain rfl := Option.some.inj he; exact .inr rfl
  · exact absurd he (by simp)

end Key

end Android

end EventPipeline
