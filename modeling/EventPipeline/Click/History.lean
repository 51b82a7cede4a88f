import EventPipeline.Event.Basic
import EventPipeline.Log
import EventPipeline.Trace

namespace EventPipeline

/-!
# Double and triple clicks

The history remembers up to two button presses. A new press is first held against the one before
the latest, within twice the double click time, for a triple click, and then against the latest
for a double click. A triple click clears the history, a press that completes nothing leaves only
itself behind. Presses are never forgotten for their age: one that is too old fails the test on
the time.

* `Press` — what is remembered of a button press.
* `Press.follows` — whether a press is close enough to an earlier one.
* `ClickHistory.press` — the click that a press completes, and the history after it.
* `ClickHistory.process` — the same for an event, with the event that reports the click.
* `ClickHistory.perform`, `ClickHistory.run` — one step on a history, named by a
  `ClickHistory.Command`, and the steps of a list on the empty one.
-/

/-- What is remembered of a button press. -/
@[ext] structure Press where
  /-- When it happened. -/
  time : Timestamp
  /-- The button. -/
  button : UInt32
  /-- Where the pointer was. -/
  position : Point
deriving DecidableEq, Repr

namespace Press

/-- The press that an event reports. -/
def ofEvent (e : Event) : Press := ⟨e.time, e.button, e.position⟩

theorem ofEvent_buttonPress (data : ButtonData) :
    ofEvent (.buttonPress data) = ⟨data.time, data.button, data.position⟩ := rfl

/-- Whether a press came before `window` milliseconds had passed since an earlier one. A press
    with an earlier time always did. The sum is taken in 64 bits, where it cannot wrap. -/
def inWindow (p earlier : Press) (window : UInt64) : Bool :=
  decide (p.time.toUInt64 < earlier.time.toUInt64 + window)

/-- Whether a press is close enough to an earlier one to belong to the same click: in time, in
    place, and by the same button. -/
def follows (p earlier : Press) (window : UInt64) (distance : UInt32) : Bool :=
  p.inWindow earlier window && p.button == earlier.button &&
    p.position.near distance earlier.position

/-- The test on the time is the one on whole numbers, as long as the sum fits in 64 bits. It does
    for every time and every threshold, also a doubled one. -/
theorem inWindow_iff (p earlier : Press) (window : UInt64)
    (h : earlier.time.toNat + window.toNat < 18446744073709551616) :
    p.inWindow earlier window = true ↔ p.time.toNat < earlier.time.toNat + window.toNat := by
  rw [inWindow, decide_eq_true_iff, UInt64.lt_iff_toNat_lt, UInt64.toNat_add,
    UInt32.toNat_toUInt64, UInt32.toNat_toUInt64, Nat.mod_eq_of_lt h]

/-- The window of a triple click is twice that of a double click, also in 64 bits. -/
theorem toNat_doubled (limit : UInt32) : (2 * limit.toUInt64).toNat = 2 * limit.toNat := by
  have hlimit := limit.toNat_lt
  rw [UInt64.toNat_mul, UInt32.toNat_toUInt64]
  exact Nat.mod_eq_of_lt (by show 2 * limit.toNat < 18446744073709551616; omega)

/-- The window of a double click, and the doubled one of a triple click, are those of whole
    numbers. -/
theorem follows_iff (p earlier : Press) {window : UInt64} (times : Nat) (limit distance : UInt32)
    (htimes : times ≤ 2) (hwindow : window.toNat = times * limit.toNat) :
    p.follows earlier window distance = true ↔
      p.button = earlier.button ∧ p.time.toNat < earlier.time.toNat + times * limit.toNat ∧
        (p.position.x.toInt - earlier.position.x.toInt).natAbs ≤ distance.toNat ∧
        (p.position.y.toInt - earlier.position.y.toInt).natAbs ≤ distance.toNat := by
  have htime := earlier.time.toNat_lt
  have hlimit := limit.toNat_lt
  have hbound : times * limit.toNat ≤ 2 * limit.toNat := Nat.mul_le_mul_right _ htimes
  rw [follows, Bool.and_eq_true, Bool.and_eq_true, inWindow_iff p earlier window (by omega),
    hwindow, beq_iff_eq, Point.near_iff, and_comm (a := _ < _), and_assoc]

end Press

/-- The button presses that a later press may complete a click with. -/
@[ext] structure ClickHistory where
  /-- The latest press. -/
  latest : Option Press := none
  /-- The press before it, if both make up a double click. -/
  previous : Option Press := none
deriving DecidableEq, Repr

namespace ClickHistory

/-- The history without a press. -/
def empty : ClickHistory := {}

instance : EmptyCollection ClickHistory := ⟨empty⟩

/-- The click that a press completes, and the history after it. -/
def press (h : ClickHistory) (s : ClickSettings) (p : Press) :
    Option Multiplicity × ClickHistory :=
  let window := s.doubleClickTime.toUInt64
  if h.previous.any fun q => p.follows q (2 * window) s.doubleClickDistance then
    (some .triple, ∅)
  else if h.latest.any fun q => p.follows q window s.doubleClickDistance then
    (some .double, ⟨some p, h.latest⟩)
  else
    (none, ⟨some p, none⟩)

/-- The event that reports the click an event completes, if it does, and the history after it.
    Only a single press of a button can complete a click or change the history. -/
def process (h : ClickHistory) (s : ClickSettings) (e : Event) :
    Traced LogRecord (Option Event × ClickHistory) :=
  if e.kind = .buttonPress then
    match h.press s (.ofEvent e) with
    | (none, after) => return (none, after)
    | (some m, after) => do
      Traced.emit (.click m e.button e.position)
      return (e.withKind? m.kind, after)
  else
    return (none, h)

/-! ### What a press can do -/

/-- A press completes a triple click and clears the history, or it completes a double click and is
    remembered with the press before it, or it is remembered alone. -/
theorem press_cases (h : ClickHistory) (s : ClickSettings) (p : Press) :
    (∃ q, h.previous = some q ∧
        p.follows q (2 * s.doubleClickTime.toUInt64) s.doubleClickDistance = true ∧
        h.press s p = (some .triple, ∅)) ∨
      (∃ q, h.latest = some q ∧
        p.follows q s.doubleClickTime.toUInt64 s.doubleClickDistance = true ∧
        h.press s p = (some .double, ⟨some p, some q⟩)) ∨
      h.press s p = (none, ⟨some p, none⟩) := by
  rw [press]
  split
  · rename_i htriple
    obtain ⟨q, hq, hfollows⟩ := (Option.any_eq_true _ _).mp htriple
    exact .inl ⟨q, hq, hfollows, rfl⟩
  · split
    · rename_i hdouble
      obtain ⟨q, hq, hfollows⟩ := (Option.any_eq_true _ _).mp hdouble
      exact .inr (.inl ⟨q, hq, hfollows, by rw [hq]⟩)
    · exact .inr (.inr rfl)

/-- An event can be reported as either click that it completes, with nothing changed but its
    kind. -/
theorem exists_withKind?_of_press {e : Event} (hpress : e.kind = .buttonPress) (m : Multiplicity) :
    ∃ f, e.withKind? m.kind = some f ∧ f.kind = m.kind ∧ f.flags = e.flags ∧ f.stage = e.stage ∧
      f.payload = e.payload := by
  have hsome : (e.withKind? m.kind).isSome = true :=
    Event.isSome_withKind?.mpr (by rw [hpress]; cases m <;> rfl)
  obtain ⟨f, hf⟩ := Option.isSome_iff_exists.mp hsome
  exact ⟨f, hf, Event.withKind?_eq_some_iff.mp hf⟩

/-- What is reported of a click is of the click's kind. -/
theorem map_kind_bind_withKind? {e : Event} (hpress : e.kind = .buttonPress)
    (m? : Option Multiplicity) :
    (m?.bind fun m => e.withKind? m.kind).map (·.kind) = m?.map (·.kind) := by
  cases m? with
  | none => rfl
  | some m =>
    obtain ⟨f, hf, hkind, -⟩ := exists_withKind?_of_press hpress m
    rw [Option.bind_some, hf, Option.map_some, Option.map_some, hkind]

/-- What an event does that is a press. -/
theorem value_process_of_press (h : ClickHistory) (s : ClickSettings) {e : Event}
    (hpress : e.kind = .buttonPress) :
    (h.process s e).value = ((h.press s (.ofEvent e)).1.bind fun m => e.withKind? m.kind,
      (h.press s (.ofEvent e)).2) := by
  rw [process, if_pos hpress]
  rcases h.press s (.ofEvent e) with ⟨_ | m, after⟩ <;> rfl

/-- The answer to a press is of the kind of the click that it completes. -/
theorem map_kind_process (h : ClickHistory) (s : ClickSettings) {e : Event}
    (hpress : e.kind = .buttonPress) :
    (h.process s e).value.1.map (·.kind) = (h.press s (.ofEvent e)).1.map (·.kind) := by
  rw [value_process_of_press h s hpress]
  exact map_kind_bind_withKind? hpress _

/-- An event that is no press does nothing. -/
theorem process_of_kind_ne (h : ClickHistory) (s : ClickSettings) {e : Event}
    (hother : e.kind ≠ .buttonPress) : h.process s e = pure (none, h) :=
  if_neg hother

/-! ### Steps -/

/-- A step on a history. -/
inductive Command where
  /-- Gives an event to the history, under the thresholds now in force. -/
  | process (s : ClickSettings) (e : Event)
  /-- Forgets all presses. -/
  | reset
deriving DecidableEq, Repr

/-- The event that reports the click a step completes, if it does, and the history after it. -/
def perform (h : ClickHistory) : Command → Traced LogRecord (Option Event × ClickHistory)
  | .process s e => h.process s e
  | .reset => return (none, ∅)

/-- The answers to the steps of a list, from the empty history on, and the history after them. -/
def run (steps : List Command) : Traced LogRecord (List (Option Event) × ClickHistory) :=
  Traced.runAll perform ∅ steps

end ClickHistory

end EventPipeline
