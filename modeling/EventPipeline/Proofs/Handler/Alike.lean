import EventPipeline.Proofs.Queue.Stream

namespace EventPipeline

/-!
# Sessions that differ in what is pending

What an input adds to the queue does not depend on what the queue holds, nor on the handler.

* `Session.Command.isInput` — the inputs: of the platforms, of events put into the queue, and of the
  thresholds.
* `EventQueue.pushAll` — the queue after events have joined it, as inputs make them.
* `Intake.Alike` — two intakes that differ in their queues alone.
* `Session.Alike` — two sessions that differ in their pending events and handlers alone.

An input keeps two sessions alike and adds the same events to both (`Session.Alike.perform`,
`Session.Alike.appended`), and so does a run of inputs (`Session.Alike.run`).
-/

/-! ### Inputs -/

/-- Whether a step puts events into the queue or changes the thresholds. -/
def Intake.Command.isInput : Intake.Command → Bool
  | .push _ | .press _ | .synthesize _ | .setSettings _ | .setTime _ | .setDistance _ => true
  | .pop | .peek | .flush | .settings => false

namespace Session

variable {δ : Type}

/-- Whether a step is an input: of a platform, of an event, or of a threshold. -/
def Command.isInput : Command δ → Bool
  | .hub (.intake c) => c.isInput
  | .android _ | .desktop _ => true
  | .hub (.dispatcher _) | .hub (.devices _) | .hub .deliverPending => false

/-- The three kinds of input. -/
theorem Command.isInput_cases {c : Command δ} (hinput : c.isInput = true) :
    (∃ step, c = .hub (.intake step) ∧ step.isInput = true) ∨ (∃ input, c = .android input) ∨
      ∃ report, c = .desktop report := by
  cases c with
  | hub c =>
    cases c with
    | intake c => exact .inl ⟨c, rfl, hinput⟩
    | dispatcher c => exact Bool.noConfusion hinput
    | devices c => exact Bool.noConfusion hinput
    | deliverPending => exact Bool.noConfusion hinput
  | android c => exact .inr (.inl ⟨c, rfl⟩)
  | desktop c => exact .inr (.inr ⟨c, rfl⟩)

end Session

/-! ### What inputs make of a queue -/

/-- The queue after the events of a list have joined it. -/
def EventQueue.pushAll (q : EventQueue) (es : List Event) : EventQueue := es.foldl push q

/-- Queues that are the same once cleared are so after the same events have joined both. -/
theorem EventQueue.clear_pushAll {q q' : EventQueue} (hclear : q.clear = q'.clear)
    (es : List Event) : (q.pushAll es).clear = (q'.pushAll es).clear := by
  induction es generalizing q q' with
  | nil => exact hclear
  | cons e rest ih =>
    -- An event that joins a queue leaves a row behind, whatever was there before.
    have hrow : (q.push e).clear = (q'.push e).clear := rfl
    exact ih hrow

namespace Intake

variable (i : Intake)

theorem queue_pushClick (click : Option Event) :
    (i.pushClick click).value.queue = i.queue.pushAll click.toList := by
  cases click <;> rfl

theorem queue_press (e : Event) :
    (i.press e).value.queue = i.queue.pushAll (i.appended (.press e)) :=
  queue_pushClick _ _

/-- The events that an input adds join the queue one after the other. -/
theorem queue_perform_of_isInput {c : Command} (hinput : c.isInput = true) :
    (i.perform c).value.2.queue = i.queue.pushAll (i.appended c) := by
  cases c with
  | push e => rfl
  | press e => exact i.queue_press e
  | synthesize e => exact queue_pushClick _ _
  | setSettings s => rfl
  | setTime millis => rfl
  | setDistance pixels => rfl
  | pop => exact Bool.noConfusion hinput
  | peek => exact Bool.noConfusion hinput
  | flush => exact Bool.noConfusion hinput
  | settings => exact Bool.noConfusion hinput

theorem queue_offer (e? : Option Event) :
    (i.offer e?).queue = i.queue.pushAll (i.offered e?) := by
  cases e? with
  | none => rfl
  | some e =>
    show (i.accept e).value.queue = _
    rw [accept, offered]
    by_cases hpress : e.kind = .buttonPress
    · rw [if_pos hpress, if_pos hpress]
      exact i.queue_press e
    · rw [if_neg hpress, if_neg hpress]
      rfl

end Intake

/-! ### Alike sessions -/

/-- Two intakes that differ in their queues alone. -/
structure Intake.Alike (i j : Intake) : Prop where
  /-- They remember the same presses. -/
  clicks_eq : i.clicks = j.clicks
  /-- They have the same thresholds. -/
  settings_eq : i.settings = j.settings

namespace Intake.Alike

variable {i j : Intake}

/-- An event completes the same click in both. -/
theorem process (halike : i.Alike j) (e : Event) :
    i.clicks.process i.settings e = j.clicks.process j.settings e := by
  rw [halike.clicks_eq, halike.settings_eq]

theorem push (halike : i.Alike j) (e : Event) : (i.push e).value.Alike (j.push e).value :=
  ⟨halike.clicks_eq, halike.settings_eq⟩

theorem press (halike : i.Alike j) (e : Event) : (i.press e).value.Alike (j.press e).value := by
  constructor
  · rw [clicks_press, clicks_press, halike.process]
  · rw [settings_press, settings_press, halike.settings_eq]

theorem synthesize (halike : i.Alike j) (e : Event) :
    (i.synthesize e).value.2.Alike (j.synthesize e).value.2 := by
  constructor
  · rw [clicks_synthesize, clicks_synthesize, halike.process]
  · rw [settings_synthesize, settings_synthesize, halike.settings_eq]

theorem offer (halike : i.Alike j) (e? : Option Event) : (i.offer e?).Alike (j.offer e?) := by
  cases e? with
  | none => exact halike
  | some e =>
    show (i.accept e).value.Alike (j.accept e).value
    rw [accept, accept]
    by_cases hpress : e.kind = .buttonPress
    · rw [if_pos hpress, if_pos hpress]
      exact halike.press e
    · rw [if_neg hpress, if_neg hpress]
      exact halike.push e

/-- An input keeps two intakes alike. -/
theorem perform (halike : i.Alike j) {c : Command} (hinput : c.isInput = true) :
    (i.perform c).value.2.Alike (j.perform c).value.2 := by
  cases c with
  | push e => exact halike.push e
  | press e => exact halike.press e
  | synthesize e => exact halike.synthesize e
  | setSettings s => exact ⟨halike.clicks_eq, rfl⟩
  | setTime millis =>
    refine ⟨halike.clicks_eq, ?_⟩
    show { i.settings with doubleClickTime := millis } =
      { j.settings with doubleClickTime := millis }
    rw [halike.settings_eq]
  | setDistance pixels =>
    refine ⟨halike.clicks_eq, ?_⟩
    show { i.settings with doubleClickDistance := pixels }
      = { j.settings with doubleClickDistance := pixels }
    rw [halike.settings_eq]
  | pop => exact Bool.noConfusion hinput
  | peek => exact Bool.noConfusion hinput
  | flush => exact Bool.noConfusion hinput
  | settings => exact Bool.noConfusion hinput

/-- A step adds the same events to both. -/
theorem appended (halike : i.Alike j) (c : Command) : i.appended c = j.appended c := by
  cases c with
  | press e => rw [Intake.appended, Intake.appended, halike.process]
  | synthesize e => rw [Intake.appended, Intake.appended, halike.process]
  | push e => rfl
  | pop => rfl
  | peek => rfl
  | flush => rfl
  | settings => rfl
  | setSettings s => rfl
  | setTime millis => rfl
  | setDistance pixels => rfl

theorem offered (halike : i.Alike j) (e? : Option Event) : i.offered e? = j.offered e? := by
  cases e? with
  | none => rfl
  | some e => rw [Intake.offered, Intake.offered, halike.appended, halike.appended]

end Intake.Alike

namespace Session

variable {δ : Type}

/-- An input of Android moves the core pointer, and does to the hub what its event does. -/
theorem hub_perform_android (s : Session δ) (c : Android.Command) :
    (s.perform (.android c)).value.2.hub =
      ({ s.hub with devices := c.follow s.hub.devices } : Hub δ).offer (s.event? (.android c)) :=
  s.android.hub_perform s.hub c

/-- A report of a desktop does to the hub what its event does. -/
theorem hub_perform_desktop (s : Session δ) (c : Desktop.Command) :
    (s.perform (.desktop c)).value.2.hub = s.hub.offer (s.event? (.desktop c)) :=
  s.desktop.hub_perform s.hub c

/-- Two sessions that differ in their pending events and their handlers alone. -/
structure Alike (s t : Session δ) : Prop where
  /-- Their intakes differ in the queue alone. -/
  intake : s.hub.intake.Alike t.hub.intake
  /-- Their queues are the same once cleared. -/
  clear_eq : s.hub.intake.queue.clear = t.hub.intake.queue.clear
  /-- They know the same devices. -/
  devices_eq : s.hub.devices = t.hub.devices
  /-- They keep the same between the inputs of Android. -/
  android_eq : s.android = t.android
  /-- They keep the same between the reports of a desktop. -/
  desktop_eq : s.desktop = t.desktop

namespace Alike

variable {s t : Session δ}

theorem trans {u : Session δ} (hst : s.Alike t) (htu : t.Alike u) : s.Alike u where
  intake := ⟨hst.intake.clicks_eq.trans htu.intake.clicks_eq,
    hst.intake.settings_eq.trans htu.intake.settings_eq⟩
  clear_eq := hst.clear_eq.trans htu.clear_eq
  devices_eq := hst.devices_eq.trans htu.devices_eq
  android_eq := hst.android_eq.trans htu.android_eq
  desktop_eq := hst.desktop_eq.trans htu.desktop_eq

theorem symm (hst : s.Alike t) : t.Alike s where
  intake := ⟨hst.intake.clicks_eq.symm, hst.intake.settings_eq.symm⟩
  clear_eq := hst.clear_eq.symm
  devices_eq := hst.devices_eq.symm
  android_eq := hst.android_eq.symm
  desktop_eq := hst.desktop_eq.symm

/-- Alike sessions with the same queue and the same handler are the same. -/
theorem eq (hst : s.Alike t) (hqueue : s.hub.intake.queue = t.hub.intake.queue)
    (hdispatcher : s.hub.dispatcher = t.hub.dispatcher) : s = t := by
  obtain ⟨⟨⟨queue, clicks, settings⟩, dispatcher, devices⟩, android, desktop⟩ := s
  obtain ⟨⟨⟨queue', clicks', settings'⟩, dispatcher', devices'⟩, android', desktop'⟩ := t
  obtain ⟨⟨hclicks, hsettings⟩, -, hdevices, handroid, hdesktop⟩ := hst
  simp only at hqueue hdispatcher hclicks hsettings hdevices handroid hdesktop
  rw [hqueue, hdispatcher, hclicks, hsettings, hdevices, handroid, hdesktop]

/-- An input of a platform is translated into the same event in both. -/
theorem event? (hst : s.Alike t) (c : Command δ) : s.event? c = t.event? c := by
  cases c with
  | hub c => rfl
  | android c => rw [Session.event?, Session.event?, hst.devices_eq]
  | desktop c => rw [Session.event?, Session.event?, hst.devices_eq, hst.desktop_eq]

/-- An input adds the same events to both. -/
theorem appended (hst : s.Alike t) {c : Command δ} (hinput : c.isInput = true) :
    s.appended c = t.appended c := by
  obtain ⟨c, rfl, -⟩ | ⟨c, rfl⟩ | ⟨c, rfl⟩ := c.isInput_cases hinput
  · exact hst.intake.appended c
  · rw [appended_android, appended_android, hst.event?, hst.intake.offered]
  · rw [appended_desktop, appended_desktop, hst.event?, hst.intake.offered]

/-- An event offered to both leaves queues that are the same once cleared. -/
theorem clear_queue_offer (hst : s.Alike t) (e? : Option Event) :
    (s.hub.intake.offer e?).queue.clear = (t.hub.intake.offer e?).queue.clear := by
  rw [Intake.queue_offer, Intake.queue_offer, hst.intake.offered]
  exact EventQueue.clear_pushAll hst.clear_eq _

/-- **Step.**  An input keeps two sessions alike. -/
theorem perform (hst : s.Alike t) {c : Command δ} (hinput : c.isInput = true) :
    (s.perform c).value.2.Alike (t.perform c).value.2 := by
  obtain ⟨c, rfl, hc⟩ | ⟨c, rfl⟩ | ⟨c, rfl⟩ := c.isInput_cases hinput
  · refine ⟨hst.intake.perform hc, ?_, hst.devices_eq, hst.android_eq, hst.desktop_eq⟩
    show (s.hub.intake.perform c).value.2.queue.clear = (t.hub.intake.perform c).value.2.queue.clear
    rw [Intake.queue_perform_of_isInput _ hc, Intake.queue_perform_of_isInput _ hc,
      hst.intake.appended]
    exact EventQueue.clear_pushAll hst.clear_eq _
  · -- The core pointer follows the input, and what has no event is counted, in both alike.
    have hevent : c.event? s.hub.devices.pointer = c.event? t.hub.devices.pointer :=
      hst.event? (.android c)
    have hkept : (s.android.perform s.hub c).value.2.1 = (t.android.perform t.hub c).value.2.1 := by
      rw [Android.Input.input_perform, Android.Input.input_perform, hevent, hst.android_eq]
    refine ⟨?_, ?_, ?_, hkept, hst.desktop_eq⟩
    · rw [intake_perform_android, intake_perform_android, hst.event?]
      exact hst.intake.offer _
    · rw [intake_perform_android, intake_perform_android, hst.event?]
      exact hst.clear_queue_offer _
    · rw [hub_perform_android, hub_perform_android]
      show c.follow s.hub.devices = c.follow t.hub.devices
      rw [hst.devices_eq]
  · have hkept : (s.desktop.perform s.hub c).value.2.1 = (t.desktop.perform t.hub c).value.2.1 := by
      rw [hst.desktop_eq]
      exact t.desktop.input_perform_eq s.hub t.hub c
    refine ⟨?_, ?_, ?_, hst.android_eq, hkept⟩
    · rw [intake_perform_desktop, intake_perform_desktop, hst.event?]
      exact hst.intake.offer _
    · rw [intake_perform_desktop, intake_perform_desktop, hst.event?]
      exact hst.clear_queue_offer _
    · rw [hub_perform_desktop, hub_perform_desktop]
      exact hst.devices_eq

/-- **Run.**  Inputs keep two sessions alike, and add the same events to both. -/
theorem run (hst : s.Alike t) {inputs : List (Command δ)}
    (hinputs : ∀ c ∈ inputs, c.isInput = true) :
    (s.run inputs).value.2.Alike (t.run inputs).value.2 ∧
      Traced.gather Session.perform Session.appended s inputs
        = Traced.gather Session.perform Session.appended t inputs := by
  induction inputs generalizing s t with
  | nil => exact ⟨hst, rfl⟩
  | cons c rest ih =>
    rw [List.forall_mem_cons] at hinputs
    obtain ⟨halike, hgather⟩ := ih (hst.perform hinputs.1) hinputs.2
    refine ⟨halike, ?_⟩
    rw [Traced.gather, Traced.gather, hst.appended hinputs.1, hgather]

end Alike

end Session

end EventPipeline
