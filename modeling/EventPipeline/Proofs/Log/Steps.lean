import EventPipeline.Proofs.Log.Records

namespace EventPipeline

open LogRecord

/-!
# What one step writes

Each step of a session writes into the log what it does to its events.

* `Session.accepted?` — the event that a step queues with the click that it completes.
* `Session.examined?`, `Session.made` — the event that a step looks for a click of, and the event
  that it makes of that click.
* `Session.dispatched` — the events that a step delivers out of the queue.

For an event of a platform the intake writes its records, behind an aside at most
(`Session.log_perform_of_accepted?`).  A delivery announces the events that the handler is given
(`Hub.log_perform_deliverPending`).  So the records of every step tell of its events
(`Session.tells_perform`).
-/

/-! ### What the platforms write -/

/-- An input of Android without an event is rejected in the log. -/
theorem Android.Input.trace_perform_of_none {δ : Type} (i : Input) (hub : Hub δ) {c : Command}
    (hnone : c.event? hub.devices.pointer = none) :
    ∃ r : LogRecord, r.topic = .rejection ∧ (i.perform hub c).trace = [r] := by
  cases c with
  | motion m stage =>
    have hevent : m.toEvent? hub.devices.pointer = none := Option.map_eq_none_iff.mp hnone
    refine ⟨.untranslatedMotion m.action, rfl, ?_⟩
    rw [perform, acceptMotion, hevent]
    rfl
  | key k stage =>
    have hevent : k.toEvent? = none := Option.map_eq_none_iff.mp hnone
    refine ⟨.untranslatedKey k.action, rfl, ?_⟩
    rw [perform, acceptKey, hevent]
    rfl

/-- For an input of Android with an event the intake writes, behind a touch told of aside. -/
theorem Android.Input.trace_perform_of_some {δ : Type} (i : Input) (hub : Hub δ) {c : Command}
    {e : Event} (he : c.event? hub.devices.pointer = some e) :
    ∃ lead : List LogRecord, (∀ r ∈ lead, r.topic = .aside) ∧
      (i.perform hub c).trace = lead ++ (hub.intake.press e).trace := by
  cases c with
  | motion m stage =>
    obtain ⟨f, hf, rfl⟩ := Option.map_eq_some_iff.mp he
    refine ⟨[.touch f.kind f.position], List.forall_mem_singleton.mpr rfl, ?_⟩
    rw [perform, acceptMotion, hf, ← Intake.trace_accept]
    show _ :: ((hub.intake.accept (f.aimedAt stage)).trace ++ [] ++ []) = _
    rw [List.append_nil, List.append_nil]
    rfl
  | key k stage =>
    obtain ⟨f, hf, rfl⟩ := Option.map_eq_some_iff.mp he
    refine ⟨[], List.forall_mem_nil _, ?_⟩
    rw [perform, acceptKey, hf, ← Intake.trace_accept]
    show (hub.intake.accept (f.aimedAt stage)).trace ++ [] ++ [] = _
    rw [List.append_nil, List.append_nil]
    rfl

/-- A report of a desktop that makes no event complete leaves nothing in the log. -/
theorem Desktop.Input.trace_perform_of_none {δ : Type} (i : Input) (hub : Hub δ) {c : Command}
    (hnone : i.event? hub.devices.pointer c = none) : (i.perform hub c).trace = [] := by
  cases c with
  | restart stage => rfl
  | modifiers k => rfl
  | cursor x y time => exact absurd hnone (by simp [event?])
  | mouse pressed button time => exact absurd hnone (by simp [event?])
  | wheel delta time =>
    have hdirection : delta.direction? = none :=
      Option.map_eq_none_iff.mp (Option.map_eq_none_iff.mp hnone)
    rw [perform, Traced.trace_map, wheel, hdirection]
    rfl
  | key pressed key text time => exact absurd hnone (by simp [event?])

/-- For a report of a desktop with an event the intake writes, behind a key without a symbol that is
    told of aside. -/
theorem Desktop.Input.trace_perform_of_some {δ : Type} (i : Input) (hub : Hub δ) {c : Command}
    {e : Event} (he : i.event? hub.devices.pointer c = some e) :
    ∃ lead : List LogRecord, (∀ r ∈ lead, r.topic = .aside) ∧
      (i.perform hub c).trace = lead ++ (hub.intake.press e).trace := by
  obtain ⟨f, hf, rfl⟩ := Option.map_eq_some_iff.mp he
  rw [← Intake.trace_accept]
  cases c with
  | restart stage => exact absurd hf (by simp)
  | modifiers k => exact absurd hf (by simp)
  | cursor x y time =>
    obtain rfl := Option.some.inj hf
    refine ⟨[], List.forall_mem_nil _, ?_⟩
    simp [perform, moveCursor, queue, Hub.accept, movedTo]
  | mouse pressed button time =>
    obtain rfl := Option.some.inj hf
    refine ⟨[], List.forall_mem_nil _, ?_⟩
    simp [perform, mouse, queue, Hub.accept]
  | wheel delta time =>
    obtain ⟨direction, hdirection, rfl⟩ := Option.map_eq_some_iff.mp hf
    refine ⟨[], List.forall_mem_nil _, ?_⟩
    simp [perform, wheel, hdirection, queue, Hub.accept]
  | key pressed key text time =>
    obtain rfl := Option.some.inj hf
    by_cases hsymbol : key.symbol = .void
    · refine ⟨[.noKeySymbol key], List.forall_mem_singleton.mpr rfl, ?_⟩
      simp [perform, Input.key, hsymbol, queue, Hub.accept]
    · refine ⟨[], List.forall_mem_nil _, ?_⟩
      simp [perform, Input.key, hsymbol, queue, Hub.accept]

/-! ### What the dispatcher and a delivery write -/

namespace Dispatcher

variable {δ : Type} (d : Dispatcher δ)

/-- An event is given to the handler without a record. -/
theorem log_dispatch (e : Event) : (d.dispatch e).log = [] := by
  rcases d with ⟨_ | r⟩ <;> rfl

/-- Each event of a list is announced before the handler is given it. -/
theorem log_dispatchAll (es : List Event) :
    (d.dispatchAll es).log = es.map fun e => .dispatching e.kind := by
  induction es generalizing d with
  | nil => rfl
  | cons e rest ih =>
    rw [dispatchAll, Traced.log_bind, Traced.log_bind, Traced.log_emit, log_dispatch, ih]
    rfl

/-- The end of a registration leaves no record. -/
theorem filterMap_record?_retire (r : Registration δ) :
    r.retire.filterMap Effect.record? = [] := by
  rw [Registration.retire]
  split <;> rfl

/-- A step on the dispatcher is told of aside, if at all. -/
theorem topic_of_mem_log_perform (c : Command δ) :
    ∀ r ∈ (d.perform c).log, r.topic = .aside := by
  rcases d with ⟨_ | old⟩
  · cases c <;> exact List.forall_mem_nil _
  · cases c with
    | register r =>
      have hlog : (perform ⟨some old⟩ (.register r)).log = [.replacedHandler] := by
        simp [perform, register, Traced.log, filterMap_record?_retire, Effect.record?]
      rw [hlog]
      exact List.forall_mem_singleton.mpr rfl
    | unregister =>
      have hlog : (perform ⟨some old⟩ .unregister).log = [] := by
        simp [perform, unregister, Traced.log, filterMap_record?_retire]
      rw [hlog]
      exact List.forall_mem_nil _
    | dispatch e => exact List.forall_mem_nil _
    | text => exact List.forall_mem_nil _

end Dispatcher

/-- A delivery announces the events that it gives to the handler, one by one. -/
theorem Hub.log_perform_deliverPending {δ : Type} (h : Hub δ) :
    (h.perform .deliverPending).log =
      (handled (h.perform .deliverPending).trace).map fun e => .dispatching e.kind := by
  by_cases hlive : h.dispatcher.hasHandler = true
  · obtain ⟨-, -, hhandled⟩ := perform_deliverPending_of_hasHandler hlive
    rw [hhandled, ← h.dispatcher.log_dispatchAll, Traced.log, trace_perform_deliverPending,
      deliverPending_eq, if_pos hlive, Traced.trace_bind, Traced.trace_pure, List.append_nil]
    rfl
  · rw [perform_deliverPending_of_not_hasHandler (Bool.eq_false_iff.mpr hlive)]
    rfl

/-! ### What one step writes -/

namespace Session

variable {δ : Type} (s : Session δ)

/-- The event that a step queues with the click that it completes, if it completes one. -/
def accepted? : Command δ → Option Event
  | .hub (.intake (.press e)) => some e
  | .hub _ => none
  | .android c => s.event? (.android c)
  | .desktop c => s.event? (.desktop c)

/-- The event that a step looks for a click of. -/
def examined? : Command δ → Option Event
  | .hub (.intake (.synthesize e)) => some e
  | c => s.accepted? c

/-- The event that a step makes of a click. -/
def made (c : Command δ) : List Event := ((s.examined? c).bind s.hub.intake.click?).toList

/-- The events that a step gives to the handler out of the queue. -/
def dispatched : Command δ → List Event
  | .hub .deliverPending => Hub.handled (s.perform (.hub .deliverPending)).trace
  | .hub (.intake _) | .hub (.dispatcher _) | .hub (.devices _) | .android _ | .desktop _ => []

/-- A step that looks for no click makes none. -/
theorem made_of_examined?_eq_none {c : Command δ} (hnone : s.examined? c = none) :
    s.made c = [] := by
  rw [made, hnone, Option.bind_none, Option.toList_none]

theorem log_perform_hub (c : Hub.Command δ) : (s.perform (.hub c)).log = (s.hub.perform c).log := by
  simp [perform]

theorem log_perform_intake (c : Intake.Command) :
    (s.perform (.hub (.intake c))).log = (s.hub.intake.perform c).trace := by
  simp [log_perform_hub, Hub.perform]

theorem log_perform_dispatcher (c : Dispatcher.Command δ) :
    (s.perform (.hub (.dispatcher c))).log = (s.hub.dispatcher.perform c).log := by
  simp [log_perform_hub, Hub.perform]

theorem log_perform_android (c : Android.Command) :
    (s.perform (.android c)).log = (s.android.perform s.hub c).trace := by
  simp [perform]

theorem log_perform_desktop (c : Desktop.Command) :
    (s.perform (.desktop c)).log = (s.desktop.perform s.hub c).trace := by
  simp [perform]

/-- An event is queued with its click by the step that says so, and by inputs of the platforms. -/
theorem eq_press_or_event?_eq_some {c : Command δ} {e : Event} (he : s.accepted? c = some e) :
    c = .hub (.intake (.press e)) ∨ c.isPlatform = true ∧ s.event? c = some e := by
  cases c with
  | hub c =>
    cases c with
    | intake c =>
      cases c with
      | press f =>
        obtain rfl := Option.some.inj he
        exact .inl rfl
      | push | synthesize | pop | peek | flush | settings | setSettings | setTime | setDistance =>
        exact absurd he (by simp [accepted?])
    | dispatcher | devices | deliverPending => exact absurd he (by simp [accepted?])
  | android c => exact .inr ⟨rfl, he⟩
  | desktop c => exact .inr ⟨rfl, he⟩

/-- Such a step writes what the intake writes for the event, and nothing but asides before. -/
theorem log_perform_of_accepted? {c : Command δ} {e : Event} (he : s.accepted? c = some e) :
    ∃ lead : List LogRecord, (∀ r ∈ lead, r.topic = .aside) ∧
      (s.perform c).log = lead ++ (s.hub.intake.press e).trace := by
  obtain rfl | ⟨hplatform, he⟩ := s.eq_press_or_event?_eq_some he
  · refine ⟨[], List.forall_mem_nil _, ?_⟩
    rw [log_perform_intake, Intake.perform, Traced.trace_map, List.nil_append]
  · cases c with
    | hub c => exact Bool.noConfusion hplatform
    | android c =>
      rw [log_perform_android]
      exact s.android.trace_perform_of_some s.hub he
    | desktop c =>
      rw [log_perform_desktop]
      exact s.desktop.trace_perform_of_some s.hub he

/-- It adds the event and the click to the queue. -/
theorem appended_of_accepted? {c : Command δ} {e : Event} (he : s.accepted? c = some e) :
    s.appended c = e :: (s.hub.intake.click? e).toList := by
  obtain rfl | ⟨hplatform, he⟩ := s.eq_press_or_event?_eq_some he
  · rfl
  · rw [appended_of_isPlatform hplatform, he, Intake.offered_some]

/-- What it makes of a click is that of its event. -/
theorem made_of_accepted? {c : Command δ} {e : Event} (he : s.accepted? c = some e) :
    s.made c = (s.hub.intake.click? e).toList := by
  obtain rfl | ⟨hplatform, -⟩ := s.eq_press_or_event?_eq_some he
  · rfl
  · have hexamined : s.examined? c = some e := by
      cases c with
      | hub c => exact Bool.noConfusion hplatform
      | android c => exact he
      | desktop c => exact he
    rw [made, hexamined, Option.bind_some]

/-- It delivers nothing out of the queue. -/
theorem dispatched_of_accepted? {c : Command δ} {e : Event} (he : s.accepted? c = some e) :
    s.dispatched c = [] := by
  obtain rfl | ⟨hplatform, -⟩ := s.eq_press_or_event?_eq_some he
  · rfl
  · cases c with
    | hub c => exact Bool.noConfusion hplatform
    | android c => rfl
    | desktop c => rfl

/-- So its records tell of its event and of the click. -/
theorem tells_of_accepted? {c : Command δ} {e : Event} (he : s.accepted? c = some e) :
    Tells (s.perform c).log (s.appended c) (s.made c) (s.dispatched c) 0 := by
  obtain ⟨lead, hasides, hlog⟩ := s.log_perform_of_accepted? he
  rw [hlog, s.appended_of_accepted? he, s.made_of_accepted? he, s.dispatched_of_accepted? he]
  exact (s.hub.intake.tells_press e).behind_asides hasides

/-- **Step.**  The records of a step tell of the events that it adds to the queue, makes of clicks
    and delivers, and there is one about an input without an event where it is counted as
    dropped. -/
theorem tells_perform (c : Command δ) :
    ∃ rejections, (s.perform c).value.2.android.dropped = s.android.dropped + rejections ∧
      Tells (s.perform c).log (s.appended c) (s.made c) (s.dispatched c) rejections := by
  cases c with
  | hub c =>
    refine ⟨0, rfl, ?_⟩
    cases c with
    | intake c =>
      cases c with
      | press e => exact s.tells_of_accepted? (e := e) rfl
      | synthesize e =>
        rw [log_perform_intake, Intake.perform, Traced.trace_map]
        exact s.hub.intake.tells_synthesize e
      | push e =>
        rw [log_perform_intake]
        exact ⟨rfl, rfl, rfl, rfl⟩
      | pop | peek | flush | settings | setSettings | setTime | setDistance =>
        rw [log_perform_intake]
        exact .nil
    | dispatcher c =>
      rw [log_perform_dispatcher]
      exact .of_asides (s.hub.dispatcher.topic_of_mem_log_perform c)
    | devices c => exact .nil
    | deliverPending =>
      have htrace :
          (s.perform (.hub .deliverPending)).trace = (s.hub.perform .deliverPending).trace :=
        List.append_nil _
      rw [log_perform_hub, Hub.log_perform_deliverPending, dispatched, htrace]
      exact .of_deliveries _
  | android c =>
    have hkept :
        (s.perform (.android c)).value.2.android = s.android.tally (s.event? (.android c)) :=
      s.android.input_perform s.hub c
    cases he : s.event? (.android c) with
    | some e =>
      refine ⟨0, ?_, s.tells_of_accepted? he⟩
      rw [hkept, he]
      rfl
    | none =>
      obtain ⟨r, hr, htrace⟩ := s.android.trace_perform_of_none s.hub he
      refine ⟨1, ?_, ?_⟩
      · rw [hkept, he]
        rfl
      · rw [appended_of_event?_eq_none rfl he, s.made_of_examined?_eq_none (c := .android c) he,
          log_perform_android, htrace]
        exact .of_rejections (List.forall_mem_singleton.mpr hr)
  | desktop c =>
    refine ⟨0, rfl, ?_⟩
    cases he : s.event? (.desktop c) with
    | some e => exact s.tells_of_accepted? he
    | none =>
      rw [appended_of_event?_eq_none rfl he, s.made_of_examined?_eq_none (c := .desktop c) he,
        log_perform_desktop, s.desktop.trace_perform_of_none s.hub he]
      exact .nil

end Session

end EventPipeline
