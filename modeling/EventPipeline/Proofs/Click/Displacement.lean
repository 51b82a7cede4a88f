import EventPipeline.Click.History
import Mathlib.Data.List.Forall2

namespace EventPipeline

/-!
# Clicks under a displacement

Which clicks are made is told from how the presses lie to each other: by the time and the distance
between two of them, and by whether they are of one button.  When something happens, where, and
which button it is does not matter.

* `Displacement` — a shift of the clock and of both axes, with other numbers for the buttons.
* `Press.IsDisplaced`, `Event.IsDisplaced`, `ClickHistory.Command.IsDisplaced` — a press, an event
  and a step beside those that they are after the displacement.  Whatever an event carries that no
  click is told from may be another.
* `ClickHistory.IsDisplaced` — the same of two histories, slot by slot.

A displacement changes no test on two presses (`Press.follows_isDisplaced`).  Hence a press does the
same to displaced histories (`ClickHistory.press_isDisplaced`), and so does a run of steps
(`ClickHistory.runAll_isDisplaced`).
-/

/-- A shift of the clock and of both axes, with other numbers for the buttons. -/
structure Displacement where
  /-- How much later everything happens, in milliseconds. -/
  time : Int
  /-- How far everything lies to the right. -/
  x : Int
  /-- How far everything lies down. -/
  y : Int
  /-- The other number of a button. -/
  rename : UInt32 → UInt32
  /-- Two buttons never get the same number. -/
  rename_injective : Function.Injective rename

/-! ### Two presses -/

/-- A press beside the displaced one, in whole numbers.  So the displacement leads neither the time
    nor a coordinate out of its range. -/
structure Press.IsDisplaced (d : Displacement) (p p' : Press) : Prop where
  time_eq : (p'.time.toNat : Int) = p.time.toNat + d.time
  x_eq : p'.position.x.toInt = p.position.x.toInt + d.x
  y_eq : p'.position.y.toInt = p.position.y.toInt + d.y
  button_eq : p'.button = d.rename p.button

/-- A displacement changes no test on two presses, be it for a double or for a triple click. -/
theorem Press.follows_isDisplaced {d : Displacement} {p p' q q' : Press} (hp : p.IsDisplaced d p')
    (hq : q.IsDisplaced d q') {window : UInt64} (times : Nat) (limit distance : UInt32)
    (htimes : times ≤ 2) (hwindow : window.toNat = times * limit.toNat) :
    p'.follows q' window distance = p.follows q window distance := by
  have hbutton : p'.button = q'.button ↔ p.button = q.button := by
    rw [hp.button_eq, hq.button_eq]
    exact d.rename_injective.eq_iff
  have htime : p'.time.toNat < q'.time.toNat + times * limit.toNat ↔
      p.time.toNat < q.time.toNat + times * limit.toNat := by
    have hlater := hp.time_eq
    have hearlier := hq.time_eq
    omega
  have hx : p'.position.x.toInt - q'.position.x.toInt =
      p.position.x.toInt - q.position.x.toInt := by
    rw [hp.x_eq, hq.x_eq]
    omega
  have hy : p'.position.y.toInt - q'.position.y.toInt =
      p.position.y.toInt - q.position.y.toInt := by
    rw [hp.y_eq, hq.y_eq]
    omega
  rw [Bool.eq_iff_iff, follows_iff p' q' times limit distance htimes hwindow,
    follows_iff p q times limit distance htimes hwindow, hbutton, htime, hx, hy]

/-- An event beside one of the same kind.  If it is a press of a button, the other one is the
    displaced press, and the rest of what they carry is arbitrary. -/
structure Event.IsDisplaced (d : Displacement) (e e' : Event) : Prop where
  kind_eq : e'.kind = e.kind
  press : e.kind = .buttonPress → (Press.ofEvent e).IsDisplaced d (.ofEvent e')

namespace ClickHistory

variable {d : Displacement}

/-- A history beside the displaced one: the same slots are empty, and the others hold displaced
    presses. -/
structure IsDisplaced (d : Displacement) (h h' : ClickHistory) : Prop where
  latest : Option.Rel (Press.IsDisplaced d) h.latest h'.latest
  previous : Option.Rel (Press.IsDisplaced d) h.previous h'.previous

/-- A step beside the displaced one, under the same thresholds. -/
inductive Command.IsDisplaced (d : Displacement) : Command → Command → Prop
  | process (s : ClickSettings) {e e' : Event} (he : e.IsDisplaced d e') :
    IsDisplaced d (.process s e) (.process s e')
  | reset : IsDisplaced d .reset .reset

/-! ### One step -/

theorem isDisplaced_empty : IsDisplaced d ∅ ∅ := ⟨.none, .none⟩

/-- A test that comes out the same for displaced presses does so for displaced slots. -/
theorem any_isDisplaced {slot slot' : Option Press}
    (hslot : Option.Rel (Press.IsDisplaced d) slot slot') {test test' : Press → Bool}
    (htest : ∀ q q', Press.IsDisplaced d q q' → test' q' = test q) :
    slot'.any test' = slot.any test := by
  cases hslot with
  | none => rfl
  | some hq => exact htest _ _ hq

/-- **Press.**  A displaced press completes the same click of a displaced history, and leaves a
    displaced history behind. -/
theorem press_isDisplaced {h h' : ClickHistory} (hh : h.IsDisplaced d h') (s : ClickSettings)
    {p p' : Press} (hp : p.IsDisplaced d p') :
    (h'.press s p').1 = (h.press s p).1 ∧ IsDisplaced d (h.press s p).2 (h'.press s p').2 := by
  have htriple := any_isDisplaced hh.previous fun q q' hq =>
    Press.follows_isDisplaced hp hq 2 s.doubleClickTime s.doubleClickDistance (Nat.le_refl 2)
      (Press.toNat_doubled s.doubleClickTime)
  have hdouble := any_isDisplaced hh.latest fun q q' hq =>
    Press.follows_isDisplaced hp hq 1 s.doubleClickTime s.doubleClickDistance (Nat.le_succ 1)
      ((UInt32.toNat_toUInt64 _).trans (Nat.one_mul _).symm)
  rw [press, press, htriple, hdouble]
  split
  · exact ⟨rfl, isDisplaced_empty⟩
  · split
    · exact ⟨rfl, .some hp, hh.latest⟩
    · exact ⟨rfl, .some hp, .none⟩

/-- **Step.**  A displaced step is answered by an event of the same kind, or by none where the other
    is, and leaves a displaced history behind. -/
theorem perform_isDisplaced {h h' : ClickHistory} (hh : h.IsDisplaced d h') {c c' : Command}
    (hc : c.IsDisplaced d c') :
    (h'.perform c').value.1.map (·.kind) = (h.perform c).value.1.map (·.kind) ∧
      IsDisplaced d (h.perform c).value.2 (h'.perform c').value.2 := by
  cases hc with
  | reset => exact ⟨rfl, isDisplaced_empty⟩
  | @process s e e' he =>
    show (h'.process s e').value.1.map (·.kind) = (h.process s e).value.1.map (·.kind) ∧
      IsDisplaced d (h.process s e).value.2 (h'.process s e').value.2
    by_cases hpress : e.kind = .buttonPress
    · have hpress' : e'.kind = .buttonPress := he.kind_eq.trans hpress
      obtain ⟨hclick, hafter⟩ := press_isDisplaced hh s (he.press hpress)
      constructor
      · rw [map_kind_process h' s hpress', map_kind_process h s hpress, hclick]
      · rw [value_process_of_press h' s hpress', value_process_of_press h s hpress]
        exact hafter
    · -- No other event is answered or remembered.
      have hother : e'.kind ≠ .buttonPress := fun hpress' => hpress (he.kind_eq.symm.trans hpress')
      rw [process_of_kind_ne h s hpress, process_of_kind_ne h' s hother]
      exact ⟨rfl, hh⟩

/-! ### Runs -/

/-- **Run.**  What holds of one step holds of every run. -/
theorem runAll_isDisplaced {h h' : ClickHistory} (hh : h.IsDisplaced d h')
    {steps steps' : List Command} (hsteps : List.Forall₂ (Command.IsDisplaced d) steps steps') :
    (Traced.runAll perform h' steps').value.1.map (·.map (·.kind))
        = (Traced.runAll perform h steps).value.1.map (·.map (·.kind)) ∧
      IsDisplaced d (Traced.runAll perform h steps).value.2
        (Traced.runAll perform h' steps').value.2 := by
  induction hsteps generalizing h h' with
  | nil => exact ⟨rfl, hh⟩
  | @cons c c' rest rest' hc _ ih =>
    obtain ⟨hanswer, hafter⟩ := perform_isDisplaced hh hc
    obtain ⟨hanswers, hlast⟩ := ih hafter
    exact ⟨congrArg₂ List.cons hanswer hanswers, hlast⟩

/-- **Clicks are told from how the presses lie to each other.**  Take two runs of the same steps,
    except that the presses of the second are those of the first at another time, at another place
    and under other numbers of the buttons, each changed alike in all of them, while anything else
    that the events carry is arbitrary.  Then each step is answered in the second run by an event of
    the same kind as in the first, or in both by none.  After each step the same slots of both
    histories are empty, and the others of the second hold the displaced presses of the first. -/
theorem run_isDisplaced (d : Displacement) {steps steps' : List Command}
    (hsteps : List.Forall₂ (Command.IsDisplaced d) steps steps') :
    (run steps').value.1.map (·.map (·.kind)) = (run steps).value.1.map (·.map (·.kind)) ∧
      ∀ n, IsDisplaced d (run (steps.take n)).value.2 (run (steps'.take n)).value.2 := by
  constructor
  · exact (runAll_isDisplaced isDisplaced_empty hsteps).1
  · intro n
    have htaken : List.Forall₂ (Command.IsDisplaced d) (steps.take n) (steps'.take n) :=
      List.forall₂_take n hsteps
    exact (runAll_isDisplaced isDisplaced_empty htaken).2

/-- From the least time and number of a button to the greatest, and from the origin to the corner on
    the right above. -/
def toLimits : Displacement where
  time := 4294967095
  x := 2147483642
  y := -2147483648
  rename := (· + 0xffffffff)
  rename_injective := fun _ _ => (UInt32.add_left_inj _).mp

/-- Presses of button `0` from time `0` on, close to the origin, with a motion between them. -/
def fromZero : List Command :=
  [.process {} (.buttonPress {}), .process {} (.motion {}),
   .process {} (.buttonPress { time := 100, position := ⟨3, 2⟩ }),
   .process {} (.buttonPress { time := 200, position := ⟨5, 5⟩ })]

/-- The same presses of the button with the greatest number until the last moment of the clock, with
    other marks, modifier keys and devices. -/
def untilLimits : List Command :=
  let data : ButtonData :=
    { time := 4294967095, modifiers := .shift, position := ⟨2147483642, -2147483648⟩,
      button := 0xffffffff, clicks := 2, device := some (.first 1) }
  [.process {} (.buttonPress data), .process {} (.motion { time := 7, modifiers := .lock }),
   .process {} ((Event.buttonPress
      { data with time := 4294967195, position := ⟨2147483645, -2147483646⟩ }).marked .synthetic),
   .process {} ((Event.buttonPress
      { data with time := 4294967295, position := ⟨2147483647, -2147483643⟩ }).aimedAt
        (some (.first 3)))]

/-- At the limits of all numbers three presses make a double and then a triple click, as they do
    from zero on, and the history is the displaced one in between. -/
theorem run_isDisplaced_toLimits :
    List.Forall₂ (Command.IsDisplaced toLimits) fromZero untilLimits ∧
      (run untilLimits).value.1.map (·.map (·.kind))
        = [none, none, some .doublePress, some .triplePress] ∧
      IsDisplaced toLimits (run (fromZero.take 3)).value.2 (run (untilLimits.take 3)).value.2 := by
  have hsteps : List.Forall₂ (Command.IsDisplaced toLimits) fromZero untilLimits :=
    .cons (.process {} ⟨rfl, fun _ => ⟨by decide, by decide, by decide, by decide⟩⟩) <|
    .cons (.process {} ⟨rfl, fun hpress => absurd hpress (by decide)⟩) <|
    .cons (.process {} ⟨rfl, fun _ => ⟨by decide, by decide, by decide, by decide⟩⟩) <|
    .cons (.process {} ⟨rfl, fun _ => ⟨by decide, by decide, by decide, by decide⟩⟩) .nil
  obtain ⟨hkinds, hslots⟩ := run_isDisplaced toLimits hsteps
  have hzero : (run fromZero).value.1.map (·.map (·.kind))
      = [none, none, some .doublePress, some .triplePress] := by
    decide
  exact ⟨hsteps, hkinds.trans hzero, hslots 3⟩

end ClickHistory

end EventPipeline
