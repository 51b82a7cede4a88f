import EventPipeline.Event.Payload

namespace EventPipeline

/-!
# Events

An event is one input occurrence in a form that no longer depends on the platform: a key, a
pointer button, a motion, a scroll step, or nothing.

* `Event` — a kind with a payload of the kind's family, flags, and the stage aimed at.
* `Event.keyPress` … `Event.scroll`, `Event.blank` — making events.
* `Event.withKind?` — the same event under another kind of its family.
* `Event.time`, `Event.position`, `Event.button`, … — reading events. Every accessor is total: a
  part that the event does not have reads as zero or as none.
-/

/-- Marks on an event. Bits without a meaning are kept. -/
structure EventFlags where
  /-- The marks as bits. -/
  bits : UInt32 := 0
deriving DecidableEq, Repr

namespace EventFlags

/-- The mark of an event that the toolkit made itself. -/
def synthetic : EventFlags := ⟨1⟩

/-- Whether all marks of `b` are in `a`. -/
def contains (a b : EventFlags) : Bool := a.bits &&& b.bits == b.bits

end EventFlags

/-- One input occurrence. -/
@[ext] structure Event where
  /-- What happened. -/
  kind : EventKind
  /-- The marks on the event. -/
  flags : EventFlags := {}
  /-- The stage that the event is aimed at. -/
  stage : Option StageId := none
  /-- What the event carries. -/
  payload : Payload
  /-- The payload is one of the kind's family. -/
  family_eq : payload.family = kind.family := by rfl
deriving DecidableEq, Repr

namespace Event

/-! ### Making events -/

/-- The event of a kind with every part of its payload zero. -/
def blank (kind : EventKind) : Event where
  kind := kind
  payload := .blank kind.family
  family_eq := Payload.family_blank kind.family

/-- The event that stands for no event. -/
def nothing : Event := blank .nothing

instance : Inhabited Event := ⟨nothing⟩

/-- A key went down. -/
def keyPress (data : KeyData) : Event := { kind := .keyPress, payload := .key data }

/-- A key went up. -/
def keyRelease (data : KeyData) : Event := { kind := .keyRelease, payload := .key data }

/-- A button went down. -/
def buttonPress (data : ButtonData) : Event := { kind := .buttonPress, payload := .button data }

/-- A button went up. -/
def buttonRelease (data : ButtonData) : Event :=
  { kind := .buttonRelease, payload := .button data }

/-- The pointer moved. -/
def motion (data : MotionData) : Event := { kind := .motion, payload := .motion data }

/-- A scroll step. -/
def scroll (data : ScrollData) : Event := { kind := .scroll, payload := .scroll data }

/-- The event aimed at a stage, or at none. -/
def aimedAt (e : Event) (stage : Option StageId) : Event := { e with stage }

/-- The event with other marks. -/
def marked (e : Event) (flags : EventFlags) : Event := { e with flags }

/-- The same event under another kind, if both kinds are of one family. -/
def withKind? (e : Event) (kind : EventKind) : Option Event :=
  if same : e.kind.family = kind.family then
    some { e with kind, family_eq := e.family_eq.trans same }
  else
    none

/-- Another kind of the same family changes the kind alone. -/
theorem withKind?_eq_some_iff {e f : Event} {kind : EventKind} :
    e.withKind? kind = some f ↔
      f.kind = kind ∧ f.flags = e.flags ∧ f.stage = e.stage ∧ f.payload = e.payload := by
  unfold withKind?
  split
  · rw [Option.some.injEq, Event.ext_iff]
    constructor
    · intro h
      exact ⟨h.1.symm, h.2.1.symm, h.2.2.1.symm, h.2.2.2.symm⟩
    · intro h
      exact ⟨h.1.symm, h.2.1.symm, h.2.2.1.symm, h.2.2.2.symm⟩
  · rename_i differ
    constructor
    · intro h
      exact absurd h (by simp)
    · rintro ⟨rfl, _, _, hp⟩
      exact absurd (e.family_eq.symm.trans (hp ▸ f.family_eq)) differ

theorem isSome_withKind? {e : Event} {kind : EventKind} :
    (e.withKind? kind).isSome = true ↔ e.kind.family = kind.family := by
  unfold withKind?
  split <;> simp_all

/-! ### Reading events -/

/-- What the event carries about a key. -/
def key? (e : Event) : Option KeyData :=
  match e.payload with
  | .key data => some data
  | _ => none

/-- What the event carries about a button. -/
def button? (e : Event) : Option ButtonData :=
  match e.payload with
  | .button data => some data
  | _ => none

/-- What the event carries about a motion. -/
def motion? (e : Event) : Option MotionData :=
  match e.payload with
  | .motion data => some data
  | _ => none

/-- What the event carries about a scroll step. -/
def scroll? (e : Event) : Option ScrollData :=
  match e.payload with
  | .scroll data => some data
  | _ => none

/-- Whether the toolkit made the event itself. -/
def isSynthetic (e : Event) : Bool := e.flags.contains .synthetic

/-- When the event happened, `0` for an event without a time. -/
def time (e : Event) : Timestamp :=
  match e.payload with
  | .nothing => 0
  | .key data => data.time
  | .button data => data.time
  | .motion data => data.time
  | .scroll data => data.time

/-- The modifier keys and buttons that were down. -/
def modifiers (e : Event) : Modifiers :=
  match e.payload with
  | .nothing => ∅
  | .key data => data.modifiers
  | .button data => data.modifiers
  | .motion data => data.modifiers
  | .scroll data => data.modifiers

/-- Where the pointer was, the origin for an event without a position. -/
def position (e : Event) : Point :=
  match e.payload with
  | .button data => data.position
  | .motion data => data.position
  | .scroll data => data.position
  | .nothing | .key _ => .origin

/-- The button, `0` for an event without one. -/
def button (e : Event) : UInt32 := (e.button?.map (·.button)).getD 0

/-- How many clicks the platform counted. -/
def clicks (e : Event) : UInt32 := (e.button?.map (·.clicks)).getD 0

/-- The device that a button is on or that moved. -/
def device (e : Event) : Option DeviceId :=
  match e.payload with
  | .button data => data.device
  | .motion data => data.device
  | .nothing | .key _ | .scroll _ => none

/-- The symbol of the key, `0` for an event without one. -/
def keySymbol (e : Event) : Keysym := (e.key?.map (·.symbol)).getD 0

/-- The number that the hardware gives the key. -/
def hardwareCode (e : Event) : UInt16 := (e.key?.map (·.hardwareCode)).getD 0

/-- The code point of the character that the key's symbol stands for, `0` for none. -/
def keyCharacter (e : Event) : UInt32 := (e.key?.map (·.symbol.toCodePoint)).getD 0

/-- The code point of the character that the platform reported for the key, `0` for none. -/
def textCharacter (e : Event) : UInt32 := (e.key?.map (·.character)).getD 0

/-- The way of a scroll step. -/
def direction? (e : Event) : Option ScrollDirection := e.scroll?.map (·.direction)

/-- Puts the event's coordinates into those of the two places that are given, and leaves a place
    that is not given alone. -/
def writePosition (e : Event) (x y : Option Int32) : Option Int32 × Option Int32 :=
  (x.map fun _ => e.position.x, y.map fun _ => e.position.y)

end Event

end EventPipeline
