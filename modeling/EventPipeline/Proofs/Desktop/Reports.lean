import EventPipeline.Proofs.Queue.Input

namespace EventPipeline

/-!
# What a desktop has reported

A desktop reports the modifier keys, the cursor and the buttons apart from each other.  What an
event carries is told here from the list of all reports, without what is kept between them.

* `Desktop.Command.kind?` — the kind of event that a report makes complete.
* `Desktop.Reports` — the reports for a stage, the latest first.
* `Desktop.Reports.keyboard`, `Desktop.Reports.cursor`, `Desktop.Reports.isDown` — what the latest
  report about the modifier keys, the cursor or a button says.
* `Desktop.Reports.input` — the input that keeps what the list says.
* `Desktop.Reports.Completes` — an event is what a report makes of the reports before it.

One report turns the input of a list into that of the longer list (`Desktop.Reports.input_perform`),
so every run of a session keeps the input of the reports so far (`Session.desktop_run`).
-/

/-- A button beyond the first five has no bit. -/
theorem Modifiers.ofButton_of_not_mem {n : UInt32} (hbeyond : n ∉ [1, 2, 3, 4, 5]) :
    ofButton n = ∅ := by
  have hne : ∀ m : UInt32, m ∈ [1, 2, 3, 4, 5] → n.toNat ≠ m.toNat := fun m hm hnm =>
    hbeyond (UInt32.toNat.inj hnm ▸ hm)
  rw [ofButton]
  split
  · exact absurd ‹_› (hne 1 (by decide))
  · exact absurd ‹_› (hne 2 (by decide))
  · exact absurd ‹_› (hne 3 (by decide))
  · exact absurd ‹_› (hne 4 (by decide))
  · exact absurd ‹_› (hne 5 (by decide))
  · rfl

namespace Desktop

/-! ### What one report says -/

namespace Command

/-- The modifier keys that a report says are down. -/
def keyboard? : Command → Option KeyboardModifiers
  | modifiers k => some k
  | _ => none

/-- Where a report says the cursor is, in whole pixels. -/
def position? : Command → Option Point
  | cursor x y _ => some ⟨truncateDouble x, truncateDouble y⟩
  | _ => none

/-- Whether a report says that the button of a number is down, if it is about that button. -/
def button? (number : UInt32) : Command → Option Bool
  | mouse pressed button _ => if button.number = number then some pressed else none
  | _ => none

/-- When a report was made. -/
def time? : Command → Option Timestamp
  | restart _ | modifiers _ => none
  | cursor _ _ time | mouse _ _ time | wheel _ time | key _ _ _ time => some time

/-- The kind of the event that a report makes complete, if it makes one so. -/
def kind? : Command → Option EventKind
  | restart _ | modifiers _ => none
  | cursor .. => some .motion
  | mouse pressed _ _ => some (if pressed then .buttonPress else .buttonRelease)
  | wheel delta _ => delta.direction?.map fun _ => .scroll
  | key pressed _ _ _ => some (if pressed then .keyPress else .keyRelease)

end Command

/-- A report makes an event complete exactly if it has a kind, which is the kind of the event. -/
theorem Input.map_kind_event? (i : Input) (pointer : DeviceId) (c : Command) :
    (i.event? pointer c).map (·.kind) = c.kind? := by
  cases c with
  | restart stage => rfl
  | modifiers k => rfl
  | cursor x y time => rfl
  | mouse pressed button time => cases pressed <;> rfl
  | wheel delta time =>
    rw [event?, Command.kind?]
    cases delta.direction? <;> rfl
  | key pressed key text time => cases pressed <;> rfl

/-- A report answers whether it made an event complete. -/
theorem Input.queued_perform {δ : Type} (i : Input) (hub : Hub δ) (c : Command) :
    (i.perform hub c).value.1 = c.kind?.isSome := by
  cases c with
  | wheel delta time =>
    rw [perform, Traced.value_map, wheel, Command.kind?]
    cases delta.direction? <;> rfl
  | restart stage => rfl
  | modifiers k => rfl
  | cursor x y time => rfl
  | mouse pressed button time => rfl
  | key pressed key text time => rfl

/-! ### What a list of reports says -/

/-- The reports for a stage. -/
structure Reports where
  /-- The stage. -/
  stage : Option StageId := none
  /-- The reports since the stage was chosen, the latest first. -/
  past : List Command := []

namespace Reports

variable {δ : Type}

/-- The reports after one more. -/
def note (r : Reports) : Command → Reports
  | .restart stage => { stage }
  | c => { r with past := c :: r.past }

/-- The modifier keys that are down by the latest report about them. -/
def keyboard (r : Reports) : KeyboardModifiers := (r.past.findSome? (·.keyboard?)).getD {}

/-- Where the cursor is by the latest report about it. -/
def cursor (r : Reports) : Point := (r.past.findSome? (·.position?)).getD .origin

/-- Whether the latest report about the button of a number says that it is down. -/
def isDown (r : Reports) (number : UInt32) : Bool :=
  (r.past.findSome? (·.button? number)).getD false

/-- The first five buttons, as far as they are down. -/
def held (r : Reports) : Modifiers :=
  .unionAll [.onlyIf (r.isDown 1) .button1, .onlyIf (r.isDown 2) .button2,
    .onlyIf (r.isDown 3) .button3, .onlyIf (r.isDown 4) .button4, .onlyIf (r.isDown 5) .button5]

/-- The modifier keys and buttons that are down. -/
def modifiers (r : Reports) : Modifiers := r.keyboard.toModifiers ∪ r.held

/-- The input that keeps what the reports say. -/
def input (r : Reports) : Input := ⟨r.stage, r.keyboard, r.cursor, r.held⟩

/-- An event is what a report makes of the reports before it. -/
structure Completes (r : Reports) (c : Command) (e : Event) : Prop where
  /-- The report decides the kind and the time. -/
  kind_eq : c.kind? = some e.kind
  time_eq : c.time? = some e.time
  /-- The event is aimed at the stage. -/
  stage_eq : e.stage = r.stage
  /-- It carries what was down before the report. -/
  modifiers_eq : e.modifiers = r.modifiers
  /-- It is where the cursor is by now, unless it is about a key. -/
  position_eq : e.kind.family ≠ .key → e.position = (r.note c).cursor

/-! ### One report -/

/-- A report about a button changes what the list says about this button alone. -/
theorem isDown_note_mouse (r : Reports) (pressed : Bool) (button : MouseButton) (time : Timestamp)
    (number : UInt32) :
    (r.note (.mouse pressed button time)).isDown number =
      if button.number = number then pressed else r.isDown number := by
  show (List.findSome? (·.button? number) (.mouse pressed button time :: r.past)).getD false = _
  rw [List.findSome?_cons, Command.button?]
  by_cases hnumber : button.number = number
  · rw [if_pos hnumber, if_pos hnumber]
    rfl
  · rw [if_neg hnumber, if_neg hnumber]
    rfl

/-- A press adds the bit of its button to those held, a release takes it away. -/
theorem held_note_mouse (r : Reports) (pressed : Bool) (button : MouseButton) (time : Timestamp) :
    (r.note (.mouse pressed button time)).held =
      if pressed then r.held ∪ .ofButton button.number else r.held \ .ofButton button.number := by
  simp only [held, isDown_note_mouse]
  generalize button.number = n
  generalize r.isDown 1 = down1, r.isDown 2 = down2, r.isDown 3 = down3, r.isDown 4 = down4,
    r.isDown 5 = down5
  by_cases hfive : n ∈ [1, 2, 3, 4, 5]
  · -- The bits of the first five buttons are apart.
    simp only [List.mem_cons, List.not_mem_nil, or_false] at hfive
    revert pressed down1 down2 down3 down4 down5
    rcases hfive with rfl | rfl | rfl | rfl | rfl <;> decide +kernel
  · -- A button beyond them is not held, whatever is reported about it.
    have hnone := Modifiers.ofButton_of_not_mem hfive
    simp only [List.mem_cons, List.not_mem_nil, or_false, not_or] at hfive
    obtain ⟨h1, h2, h3, h4, h5⟩ := hfive
    rw [hnone, if_neg h1, if_neg h2, if_neg h3, if_neg h4, if_neg h5]
    revert pressed down1 down2 down3 down4 down5
    decide +kernel

/-- The input for a stage that is new keeps that nothing has been reported. -/
theorem input_new (stage : Option StageId) : (Reports.mk stage []).input = { stage } := by
  have hheld : (Reports.mk stage []).held = ∅ := by
    show Modifiers.unionAll [.onlyIf false .button1, .onlyIf false .button2,
      .onlyIf false .button3, .onlyIf false .button4, .onlyIf false .button5] = ∅
    decide
  rw [input, hheld]
  rfl

/-- **Step.**  A report turns the input of a list into the input of the list with the report. -/
theorem input_perform (r : Reports) (hub : Hub δ) (c : Command) :
    (r.input.perform hub c).value.2.1 = (r.note c).input := by
  cases c with
  | mouse pressed button time =>
    show { r.input with held := if pressed then r.held ∪ .ofButton button.number
                                else r.held \ .ofButton button.number } = _
    rw [← r.held_note_mouse pressed button time]
    rfl
  | restart stage => exact (input_new stage).symm
  | modifiers k => rfl
  | cursor x y time => rfl
  | wheel delta time => rfl
  | key pressed key text time => rfl

/-- The event that a report makes complete is told from the list of the reports before it. -/
theorem completes_of_event? {r : Reports} {pointer : DeviceId} {c : Command} {e : Event}
    (he : r.input.event? pointer c = some e) : r.Completes c e := by
  have hkind : c.kind? = some e.kind := by
    rw [← r.input.map_kind_event? pointer c, he, Option.map_some]
  obtain ⟨f, hf, rfl⟩ := Option.map_eq_some_iff.mp he
  cases c with
  | restart stage => exact absurd hf (by simp)
  | modifiers k => exact absurd hf (by simp)
  | cursor x y time =>
    obtain rfl := Option.some.inj hf
    exact ⟨hkind, rfl, rfl, rfl, fun _ => rfl⟩
  | mouse pressed button time =>
    obtain rfl := Option.some.inj hf
    cases pressed with
    | true => exact ⟨hkind, rfl, rfl, rfl, fun _ => rfl⟩
    | false => exact ⟨hkind, rfl, rfl, rfl, fun _ => rfl⟩
  | wheel delta time =>
    obtain ⟨direction, -, rfl⟩ := Option.map_eq_some_iff.mp hf
    exact ⟨hkind, rfl, rfl, rfl, fun _ => rfl⟩
  | key pressed key text time =>
    obtain rfl := Option.some.inj hf
    cases pressed with
    | true => exact ⟨hkind, rfl, rfl, rfl, fun hfamily => absurd rfl hfamily⟩
    | false => exact ⟨hkind, rfl, rfl, rfl, fun hfamily => absurd rfl hfamily⟩

end Reports

end Desktop

/-! ### Runs -/

namespace Session

variable {δ : Type}

/-- The report of a desktop that a step is, if it is one. -/
def Command.report? : Command δ → Option Desktop.Command
  | .desktop c => some c
  | .hub _ | .android _ => none

/-- The reports after some steps. -/
def reportsAfter (r : Desktop.Reports) (steps : List (Command δ)) : Desktop.Reports :=
  (steps.filterMap Command.report?).foldl .note r

/-- **Run.**  After every run the session keeps the input of the reports so far. -/
theorem desktop_run (s : Session δ) {r : Desktop.Reports} (hinput : s.desktop = r.input)
    (steps : List (Command δ)) :
    (s.run steps).value.2.desktop = (reportsAfter r steps).input := by
  induction steps generalizing s r with
  | nil => exact hinput
  | cons c rest ih =>
    cases c with
    | hub c => exact ih (s.perform (.hub c)).value.2 hinput
    | android c => exact ih (s.perform (.android c)).value.2 hinput
    | desktop c =>
      refine ih (s.perform (.desktop c)).value.2 ?_
      show (s.desktop.perform s.hub c).value.2.1 = (r.note c).input
      rw [hinput, r.input_perform]

/-- **Events of a desktop.**  Let an input for a stage be new at the start of a run, in which other
    steps may come between the reports.  Then every further report that makes an event complete adds
    this event and no other, but for the click that a press completes; what the event carries is
    told from the reports so far.  A report that makes none complete answers so and changes nothing
    in the hub, and if a wheel went nowhere, it changes nothing at all. -/
theorem run_completes_reports (s : Session δ) (stage : Option StageId)
    (steps : List (Command δ)) (c : Desktop.Command) :
    let t := ({ s with desktop := { stage } }.run steps).value.2
    let r := reportsAfter { stage } steps
    (c.kind?.isSome = true →
      (t.perform (.desktop c)).value.1 = .queued true ∧
      ∃ (e : Event) (click? : Option Event),
        (t.perform (.desktop c)).value.2.pending = t.pending ++ e :: click?.toList ∧
        r.Completes c e ∧ ∀ f, click? = some f → f.IsClickOf e) ∧
    (c.kind? = none →
      (t.perform (.desktop c)).value.1 = .queued false ∧
      (t.perform (.desktop c)).value.2.hub = t.hub) ∧
    ∀ delta time, c = .wheel delta time → delta.direction? = none →
      t.perform (.desktop c) = pure (.queued false, t) := by
  intro t r
  have hinput : t.desktop = r.input :=
    desktop_run { s with desktop := { stage } } (Desktop.Reports.input_new stage).symm steps
  have hqueued : (t.perform (.desktop c)).value.1 = .queued c.kind?.isSome :=
    congrArg Reply.queued (t.desktop.queued_perform t.hub c)
  have hkind : (t.event? (.desktop c)).map (·.kind) = c.kind? :=
    t.desktop.map_kind_event? t.hub.devices.pointer c
  refine ⟨fun hsome => ?_, fun hnone => ?_, ?_⟩
  · -- The event is that of the list, since the session keeps the input of the list.
    rw [← hkind, Option.isSome_map] at hsome
    obtain ⟨e, he⟩ := Option.isSome_iff_exists.mp hsome
    obtain ⟨click?, hpending, hclick⟩ := exists_pending_eq_append rfl he
    refine ⟨?_, e, click?, hpending, ?_, hclick⟩
    · rw [hqueued, ← hkind, he]
      rfl
    · have hevent : r.input.event? t.hub.devices.pointer c = some e := by
        rw [← hinput]
        exact he
      exact Desktop.Reports.completes_of_event? hevent
  · refine ⟨by rw [hqueued, hnone]; rfl, ?_⟩
    have hnoEvent : t.desktop.event? t.hub.devices.pointer c = none := by
      rw [← Option.map_eq_none_iff, t.desktop.map_kind_event?, hnone]
    show (t.desktop.perform t.hub c).value.2.2 = t.hub
    rw [Desktop.Input.hub_perform, hnoEvent]
    rfl
  · rintro delta time rfl hturn
    rw [perform, Desktop.Input.perform, Desktop.Input.wheel, hturn]
    rfl

end Session

end EventPipeline
