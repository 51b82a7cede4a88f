import EventPipeline.Proofs.Handler.Alike
import EventPipeline.Proofs.Queue.Input
import Mathlib.Data.List.Forall2

namespace EventPipeline

/-!
# The same gestures on Android and on a desktop

A finger on the screen counts as the first button.  So presses and releases of this button can be
made on either platform, and but for the motions that a desktop reports besides, both come to the
same events.

* `Event.Agrees` — two events agree in all that a gesture decides.
* `Gesture` — a press or a release at a point, as each platform reports it.
* `Gesture.Exact` — both platforms report the point in whole pixels.
* `Session.Mirrors` — the simulation between a session on Android and one on a desktop.

Agreeing events keep two intakes alike and complete the same clicks
(`Intake.Alike.offer_of_agrees`).  One gesture keeps the simulation (`Session.Mirrors.gesture`),
and so do all of them (`Session.Mirrors.run`).
-/

/-! ### Agreeing events -/

/-- Two events agree in all but the flags, the modifier keys and the parts of a key. -/
structure Event.Agrees (e f : Event) : Prop where
  kind_eq : e.kind = f.kind
  stage_eq : e.stage = f.stage
  time_eq : e.time = f.time
  position_eq : e.position = f.position
  button_eq : e.button = f.button
  clicks_eq : e.clicks = f.clicks
  device_eq : e.device = f.device

namespace Event.Agrees

variable {e f : Event} (hagrees : e.Agrees f)
include hagrees

/-- The click history takes both for the same press. -/
theorem ofEvent_eq : Press.ofEvent e = Press.ofEvent f := by
  rw [Press.ofEvent, Press.ofEvent, hagrees.time_eq, hagrees.button_eq, hagrees.position_eq]

/-- The events that report a click agree as the presses do that complete it. -/
theorem withKind? {kind : EventKind} {e' f' : Event} (he : e.withKind? kind = some e')
    (hf : f.withKind? kind = some f') : e'.Agrees f' := by
  obtain ⟨hkind, -, hstage, hpayload⟩ := Event.withKind?_eq_some_iff.mp he
  obtain ⟨hkind', -, hstage', hpayload'⟩ := Event.withKind?_eq_some_iff.mp hf
  -- Whatever is read off a click is read off the press.
  obtain ⟨htime, hposition, hbutton, hclicks, hdevice⟩ := Event.reads_eq_of_payload_eq hpayload
  obtain ⟨htime', hposition', hbutton', hclicks', hdevice'⟩ :=
    Event.reads_eq_of_payload_eq hpayload'
  exact {
    kind_eq := by rw [hkind, hkind']
    stage_eq := by rw [hstage, hstage', hagrees.stage_eq]
    time_eq := by rw [htime, htime', hagrees.time_eq]
    position_eq := by rw [hposition, hposition', hagrees.position_eq]
    button_eq := by rw [hbutton, hbutton', hagrees.button_eq]
    clicks_eq := by rw [hclicks, hclicks', hagrees.clicks_eq]
    device_eq := by rw [hdevice, hdevice', hagrees.device_eq] }

/-- Presses that agree complete the same click. -/
theorem clicks (hpress : e.kind = .buttonPress) (m? : Option Multiplicity) :
    List.Forall₂ Event.Agrees (m?.bind fun m => e.withKind? m.kind).toList
      (m?.bind fun m => f.withKind? m.kind).toList := by
  cases m? with
  | none => exact .nil
  | some m =>
    obtain ⟨e', he, -⟩ := ClickHistory.exists_withKind?_of_press hpress m
    obtain ⟨f', hf, -⟩ :=
      ClickHistory.exists_withKind?_of_press (hagrees.kind_eq.symm.trans hpress) m
    rw [Option.bind_some, Option.bind_some, he, hf]
    exact .cons (hagrees.withKind? he hf) .nil

end Event.Agrees

/-- Agreeing events keep two intakes alike, and are added with the same click. -/
theorem Intake.Alike.offer_of_agrees {i j : Intake} (halike : i.Alike j) {e f : Event}
    (hagrees : e.Agrees f) :
    (i.offer (some e)).Alike (j.offer (some f)) ∧
      List.Forall₂ Event.Agrees (i.offered (some e)) (j.offered (some f)) := by
  show (i.accept e).value.Alike (j.accept f).value ∧ _
  rw [accept, accept, Intake.offered, Intake.offered, ← hagrees.kind_eq]
  by_cases hpress : e.kind = .buttonPress
  · -- Both presses are the same to the click history, and so are the histories.
    have hsame : (i.clicks.process i.settings e).value
        = ((j.clicks.press j.settings (.ofEvent f)).1.bind fun m => e.withKind? m.kind,
            (j.clicks.press j.settings (.ofEvent f)).2) := by
      rw [ClickHistory.value_process_of_press _ _ hpress, halike.clicks_eq, halike.settings_eq,
        hagrees.ofEvent_eq]
    have hother := ClickHistory.value_process_of_press j.clicks j.settings
      (hagrees.kind_eq.symm.trans hpress)
    rw [if_pos hpress, if_pos hpress, if_pos hpress, if_pos hpress]
    refine ⟨⟨?_, ?_⟩, ?_⟩
    · rw [clicks_press, clicks_press, hsame, hother]
    · rw [settings_press, settings_press, halike.settings_eq]
    · rw [Intake.appended, Intake.appended, hsame, hother]
      exact .cons hagrees (hagrees.clicks hpress _)
  · -- Nothing else goes through the click history.
    rw [if_neg hpress, if_neg hpress, if_neg hpress, if_neg hpress]
    exact ⟨⟨halike.clicks_eq, halike.settings_eq⟩, .cons hagrees .nil⟩

/-- The events that are no motions. -/
def withoutMotions (events : List Event) : List Event := events.filter (·.kind != .motion)

theorem withoutMotions_append (events later : List Event) :
    withoutMotions (events ++ later) = withoutMotions events ++ withoutMotions later :=
  List.filter_append ..

/-- What is added with an event that is no motion is no motion either. -/
theorem Intake.withoutMotions_offered (i : Intake) {e : Event} (hother : e.kind ≠ .motion) :
    withoutMotions (i.offered (some e)) = i.offered (some e) := by
  obtain ⟨click?, hadded, hclick⟩ := i.exists_offered e
  rw [hadded, withoutMotions, List.filter_eq_self]
  intro f hf
  rcases List.mem_cons.mp hf with rfl | hf
  · exact bne_iff_ne.mpr hother
  · have hisClick := (hclick f (Option.mem_toList.mp hf)).isClick
    rw [bne_iff_ne]
    intro hmotion
    rw [hmotion] at hisClick
    exact absurd hisClick (by decide)

/-! ### Gestures -/

/-- A press or a release of the first button at a point, as each platform reports it. -/
structure Gesture where
  /-- Whether the button went down. -/
  pressed : Bool
  /-- When it happened, in milliseconds. -/
  time : Timestamp
  /-- The point. -/
  position : Point
  /-- The coordinates that Android reports. -/
  touchX : Float32
  touchY : Float32
  /-- The coordinates that a desktop reports. -/
  cursorX : Float
  cursorY : Float

namespace Gesture

/-- Both platforms report the point in whole pixels. -/
structure Exact (g : Gesture) : Prop where
  touch_eq : (⟨truncateSingle g.touchX, truncateSingle g.touchY⟩ : Point) = g.position
  cursor_eq : (⟨truncateDouble g.cursorX, truncateDouble g.cursorY⟩ : Point) = g.position

/-- The motion that Android reports, without a modifier key. -/
def motion (g : Gesture) : Android.Motion where
  action := if g.pressed then 0 else 1
  timeNanos := Int64.ofNat (g.time.toNat * 1000000)
  x := g.touchX
  y := g.touchY

/-- The input of Android. -/
def touch (stage : Option StageId) (g : Gesture) : Android.Command := .motion g.motion stage

/-- The reports of a desktop: the cursor moves to the point, and then the left button goes down or
    up. -/
def reports (g : Gesture) : List Desktop.Command :=
  [.cursor g.cursorX g.cursorY g.time, .mouse g.pressed .left g.time]

/-- The time of the motion is the time of the gesture. -/
theorem timeOfNanos_motion (g : Gesture) : Android.timeOfNanos g.motion.timeNanos = g.time := by
  have hlt := g.time.toNat_lt
  -- The nanoseconds of 2³² milliseconds fit into 64 bits.
  have hnanos : g.motion.timeNanos.toInt = g.time.toNat * 1000000 := by
    show (Int64.ofNat (g.time.toNat * 1000000)).toInt = _
    rw [Int64.toInt_ofNat_of_lt (by omega)]
    omega
  have hmillis : (g.time.toNat * 1000000 : Int).tdiv 1000000 = g.time.toNat :=
    Int.mul_tdiv_cancel _ (by decide)
  rw [Android.timeOfNanos, hnanos, hmillis]
  apply UInt32.toNat.inj
  rw [UInt32.ofInt, UInt32.toNat_ofNat']
  omega

/-- The event on both platforms, with the modifier keys that the platform sees. -/
def event (g : Gesture) (modifiers : Modifiers) (pointer : DeviceId) (stage : Option StageId) :
    Event :=
  let data : ButtonData :=
    { time := g.time, modifiers, position := g.position, button := 1, clicks := 1,
      device := pointer }
  (if g.pressed then Event.buttonPress data else .buttonRelease data).aimedAt stage

variable {g : Gesture}

/-- The event for the motion of Android. -/
theorem event?_touch (hexact : g.Exact) (pointer : DeviceId) (stage : Option StageId) :
    (g.touch stage).event? pointer = some (g.event (Android.modifiers 0) pointer stage) := by
  have htime := g.timeOfNanos_motion
  have hposition : g.motion.position = g.position := hexact.touch_eq
  have haction : Android.MotionAction.ofNumber? g.motion.action
      = some (if g.pressed then .down else .up) := by
    show Android.MotionAction.ofNumber? (if g.pressed then 0 else 1) = _
    cases g.pressed <;> decide
  rw [touch, Android.Command.event?, Android.Motion.toEvent?, htime, hposition, haction, event]
  cases g.pressed <;> rfl

/-- The event for the report about the button, once the cursor has been reported. -/
theorem event?_mouse (hexact : g.Exact) (i : Desktop.Input) (pointer : DeviceId) :
    (i.movedTo g.cursorX g.cursorY).event? pointer (.mouse g.pressed .left g.time)
      = some (g.event i.modifiers pointer i.stage) := by
  have hposition : (i.movedTo g.cursorX g.cursorY).cursor = g.position := hexact.cursor_eq
  rw [Desktop.Input.event?, Desktop.Input.buttonEvent, hposition, event]
  cases g.pressed <;> rfl

/-- The events of both platforms agree, whatever modifier keys each of them sees. -/
theorem agrees_event (g : Gesture) (m n : Modifiers) (pointer : DeviceId)
    (stage : Option StageId) : (g.event m pointer stage).Agrees (g.event n pointer stage) := by
  rw [event, event]
  cases g.pressed with
  | true => exact ⟨rfl, rfl, rfl, rfl, rfl, rfl, rfl⟩
  | false => exact ⟨rfl, rfl, rfl, rfl, rfl, rfl, rfl⟩

theorem kind_event_ne (g : Gesture) (m : Modifiers) (pointer : DeviceId)
    (stage : Option StageId) : (g.event m pointer stage).kind ≠ .motion := by
  rw [event]
  cases g.pressed with
  | true => exact EventKind.noConfusion
  | false => exact EventKind.noConfusion

end Gesture

/-! ### The simulation -/

namespace Session

variable {δ : Type}

/-- A session on Android and one on a desktop have seen the same gestures: they remember the same
    presses, under the same thresholds. -/
structure Mirrors (stage : Option StageId) (s t : Session δ) : Prop where
  intake : s.hub.intake.Alike t.hub.intake
  /-- Both call the core pointer by the same handle. -/
  pointer_eq : s.hub.devices.pointer = t.hub.devices.pointer
  /-- The desktop reports to the stage. -/
  stage_eq : t.desktop.stage = stage

namespace Mirrors

variable {stage : Option StageId} {s t : Session δ} (hmirrors : Mirrors stage s t)
include hmirrors

/-- A cursor that moves is not seen on Android, and adds a motion only. -/
theorem cursor (x y : Float) (time : Timestamp) :
    Mirrors stage s (t.perform (.desktop (.cursor x y time))).value.2 ∧
      withoutMotions (t.appended (.desktop (.cursor x y time))) = [] := by
  have hevent : t.event? (.desktop (.cursor x y time)) = some (((t.desktop.movedTo x y).motionEvent
      t.hub.devices.pointer time).aimedAt t.desktop.stage) := rfl
  refine ⟨⟨?_, hmirrors.pointer_eq, hmirrors.stage_eq⟩, ?_⟩
  · -- A motion goes past the click history.
    rw [intake_perform_desktop, hevent]
    exact ⟨hmirrors.intake.clicks_eq, hmirrors.intake.settings_eq⟩
  · rw [appended_desktop, hevent]
    rfl

/-- **Step.**  A gesture is mirrored, and its events agree but for the motion. -/
theorem gesture {g : Gesture} (hexact : g.Exact) :
    let moved := (t.perform (.desktop (.cursor g.cursorX g.cursorY g.time))).value.2
    let c : Desktop.Command := .mouse g.pressed .left g.time
    Mirrors stage (s.perform (.android (g.touch stage))).value.2
        (moved.perform (.desktop c)).value.2 ∧
      List.Forall₂ Event.Agrees (withoutMotions (s.appended (.android (g.touch stage))))
        (withoutMotions (moved.appended (.desktop c))) := by
  intro moved c
  obtain ⟨hmoved, -⟩ := hmirrors.cursor g.cursorX g.cursorY g.time
  -- Both events are that of the gesture, under the modifier keys of the platform.
  have htouch : s.event? (.android (g.touch stage))
      = some (g.event (Android.modifiers 0) s.hub.devices.pointer stage) :=
    Gesture.event?_touch hexact _ _
  have hmouse : moved.event? (.desktop c)
      = some (g.event t.desktop.modifiers s.hub.devices.pointer stage) := by
    have hpointer := hmoved.pointer_eq
    have hstage := hmirrors.stage_eq
    rw [hpointer, ← hstage]
    exact Gesture.event?_mouse hexact t.desktop _
  have hagrees := g.agrees_event (Android.modifiers 0) t.desktop.modifiers s.hub.devices.pointer
    stage
  obtain ⟨hintake, hadded⟩ := hmoved.intake.offer_of_agrees hagrees
  refine ⟨⟨?_, ?_, hmirrors.stage_eq⟩, ?_⟩
  · rw [intake_perform_android, intake_perform_desktop, htouch, hmouse]
    exact hintake
  · rw [hub_perform_android]
    exact hmoved.pointer_eq
  · rw [appended_android, appended_desktop, htouch, hmouse,
      Intake.withoutMotions_offered _ (g.kind_event_ne _ _ _),
      Intake.withoutMotions_offered _ (g.kind_event_ne _ _ _)]
    exact hadded

/-- **Run.**  Gestures are mirrored one after the other, and their events agree but for the
    motions. -/
theorem run {gestures : List Gesture} (hexact : ∀ g ∈ gestures, g.Exact) :
    let touches : List (Command δ) := gestures.map fun g => .android (g.touch stage)
    let reports : List (Command δ) := gestures.flatMap fun g => g.reports.map .desktop
    Mirrors stage (s.run touches).value.2 (t.run reports).value.2 ∧
      List.Forall₂ Event.Agrees (withoutMotions (Traced.gather perform appended s touches))
        (withoutMotions (Traced.gather perform appended t reports)) := by
  induction gestures generalizing s t with
  | nil => exact ⟨hmirrors, .nil⟩
  | cons g rest ih =>
    rw [List.forall_mem_cons] at hexact
    obtain ⟨-, hquiet⟩ := hmirrors.cursor g.cursorX g.cursorY g.time
    obtain ⟨hafter, hadded⟩ := hmirrors.gesture hexact.1
    obtain ⟨hlater, hmore⟩ := ih hafter hexact.2
    refine ⟨hlater, ?_⟩
    -- On the desktop a gesture takes two steps, of which the first adds a motion.
    show List.Forall₂ Event.Agrees (withoutMotions (s.appended _ ++ _))
      (withoutMotions (t.appended _ ++ (Session.appended _ _ ++ _)))
    rw [withoutMotions_append, withoutMotions_append, withoutMotions_append, hquiet,
      List.nil_append]
    exact List.rel_append hadded hmore

end Mirrors

/-- **The two platforms agree on the same gestures.**  Let presses and releases of the first button
    be reported by Android to one new session, and by a desktop to another with the same thresholds,
    the cursor being reported before each.  Then but for the motions the same events are added to
    both, and both remember the same presses in the end. -/
theorem run_agrees_on_gestures (settings : ClickSettings) (stage : Option StageId)
    (gestures : List Gesture) (hexact : ∀ g ∈ gestures, g.Exact) :
    let s : Session δ := withSettings settings
    let t : Session δ := { withSettings settings with desktop := { stage } }
    let touches : List (Command δ) := gestures.map fun g => .android (g.touch stage)
    let reports : List (Command δ) := gestures.flatMap fun g => g.reports.map .desktop
    List.Forall₂ Event.Agrees
        ((Traced.gather perform appended s touches).filter (·.kind != .motion))
        ((Traced.gather perform appended t reports).filter (·.kind != .motion)) ∧
      (s.run touches).value.2.hub.intake.clicks = (t.run reports).value.2.hub.intake.clicks := by
  intro s t touches reports
  have hmirrors : Mirrors stage s t := ⟨⟨rfl, rfl⟩, rfl, rfl⟩
  obtain ⟨hafter, hadded⟩ := hmirrors.run hexact
  exact ⟨hadded, hafter.intake.clicks_eq⟩

/-- A press or a release of the first button in one place. -/
def tap (pressed : Bool) (time : Timestamp) : Gesture where
  pressed := pressed
  time := time
  position := ⟨40, -7⟩
  touchX := 40
  touchY := -7
  cursorX := 40
  cursorY := -7

/-- Two presses in one place make a double click on both platforms. -/
theorem run_agrees_on_doubleTap :
    let gestures := [tap true 100, tap false 150, tap true 300]
    let s : Session Unit := withSettings {}
    let t : Session Unit := { withSettings {} with desktop := { stage := none } }
    let touches : List (Command Unit) := gestures.map fun g => .android (g.touch none)
    let reports : List (Command Unit) := gestures.flatMap fun g => g.reports.map .desktop
    (∀ g ∈ gestures, g.Exact) ∧
      List.Forall₂ Event.Agrees
        ((Traced.gather perform appended s touches).filter (·.kind != .motion))
        ((Traced.gather perform appended t reports).filter (·.kind != .motion)) ∧
      (Traced.gather perform appended s touches).map (·.kind)
        = [.buttonPress, .buttonRelease, .buttonPress, .doublePress] := by
  intro gestures s t touches reports
  have hexact : ∀ g ∈ gestures, g.Exact := by
    have htap : ∀ pressed time, (tap pressed time).Exact := fun pressed time =>
      ⟨show (⟨truncateSingle 40, truncateSingle (-7)⟩ : Point) = ⟨40, -7⟩ by decide +kernel,
        show (⟨truncateDouble 40, truncateDouble (-7)⟩ : Point) = ⟨40, -7⟩ by decide +kernel⟩
    simp only [gestures, List.forall_mem_cons]
    exact ⟨htap _ _, htap _ _, htap _ _, fun g hg => absurd hg List.not_mem_nil⟩
  refine ⟨hexact, (run_agrees_on_gestures {} none gestures hexact).1, ?_⟩
  decide +kernel

end Session

end EventPipeline
