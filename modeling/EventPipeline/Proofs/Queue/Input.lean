import EventPipeline.Proofs.Queue.Stream

namespace EventPipeline

/-!
# What one input adds to the queue

An input of a platform is translated into one event at most.  This joins the queue, and behind it
the click that it completes, if it is a press that completes one.

* `Event.IsClickOf` — the report of a click: the press that completes it, under another kind.
* `Session.Command.isPlatform` — the inputs of the platforms.
* `Session.Adds` — an event with at most one click behind it, as an input adds them.

An input without an event adds nothing (`Session.appended_of_event?_eq_none`), and every other input
adds its event with the click (`Session.adds_of_event?_eq_some`).
-/

/-- Events with the same payload read the same, whatever their kinds are. -/
theorem Event.reads_eq_of_payload_eq {e f : Event} (hpayload : f.payload = e.payload) :
    f.time = e.time ∧ f.position = e.position ∧ f.button = e.button ∧ f.clicks = e.clicks ∧
      f.device = e.device := by
  simp only [Event.time, Event.position, Event.button, Event.clicks, Event.button?, Event.device,
    hpayload, and_self]

/-- An event that reports the click which a press completes: the press itself, under the kind of a
    double or a triple click. -/
structure Event.IsClickOf (f e : Event) : Prop where
  /-- Only a press completes a click. -/
  kind_eq : e.kind = .buttonPress
  /-- A click is reported. -/
  isClick : f.kind.isClick = true
  /-- Nothing but the kind differs. -/
  flags_eq : f.flags = e.flags
  stage_eq : f.stage = e.stage
  payload_eq : f.payload = e.payload

/-- The event that reports a click is the press under another kind. -/
theorem Event.isClickOf_of_withKind? {e f : Event} (hpress : e.kind = .buttonPress)
    {m : Multiplicity} (hf : e.withKind? m.kind = some f) : f.IsClickOf e := by
  obtain ⟨hkind, hflags, hstage, hpayload⟩ := Event.withKind?_eq_some_iff.mp hf
  refine ⟨hpress, ?_, hflags, hstage, hpayload⟩
  rw [hkind]
  cases m <;> rfl

namespace Intake

/-- The click history reports no click but those that a press completes. -/
theorem isClickOf_of_process {i : Intake} {e f : Event}
    (hf : (i.clicks.process i.settings e).value.1 = some f) : f.IsClickOf e := by
  by_cases hpress : e.kind = .buttonPress
  · rw [ClickHistory.value_process_of_press _ _ hpress, Option.bind_eq_some_iff] at hf
    obtain ⟨m, -, hm⟩ := hf
    exact Event.isClickOf_of_withKind? hpress hm
  · rw [ClickHistory.process_of_kind_ne _ _ hpress] at hf
    exact absurd hf (by simp)

/-- An event joins the queue with the click that it completes, if it completes one. -/
theorem exists_offered (i : Intake) (e : Event) :
    ∃ click? : Option Event, i.offered (some e) = e :: click?.toList ∧
      ∀ f, click? = some f → f.IsClickOf e := by
  by_cases hpress : e.kind = .buttonPress
  · refine ⟨(i.clicks.process i.settings e).value.1, ?_, fun f hf => isClickOf_of_process hf⟩
    rw [offered, if_pos hpress, appended]
  · refine ⟨none, ?_, fun f hf => absurd hf (by simp)⟩
    rw [offered, if_neg hpress, appended]
    rfl

/-- An event that is no press leaves the click history as it is. -/
theorem clicks_offer_of_kind_ne {i : Intake} {e? : Option Event}
    (hother : ∀ e, e? = some e → e.kind ≠ .buttonPress) : (i.offer e?).clicks = i.clicks := by
  cases e? with
  | none => rfl
  | some e =>
    show (i.accept e).value.clicks = i.clicks
    rw [accept, if_neg (hother e rfl), clicks_push]

end Intake

namespace Session

variable {δ : Type}

/-- Whether a step is an input of a platform. -/
def Command.isPlatform : Command δ → Bool
  | .android _ | .desktop _ => true
  | .hub _ => false

/-- What an input adds to the queue that has an event. -/
structure Adds (e : Event) (added : List Event) : Prop where
  /-- The event is no click. -/
  isClick_eq : e.kind.isClick = false
  /-- It comes first, and at most one click behind it. -/
  added_eq : ∃ click? : Option Event, added = e :: click?.toList ∧
    ∀ f, click? = some f → f.IsClickOf e

namespace Adds

variable {e : Event} {added : List Event} (hadds : Adds e added)
include hadds

/-- All that is added carries what the event carries. -/
theorem payload_eq {f : Event} (hf : f ∈ added) : f.payload = e.payload := by
  obtain ⟨click?, rfl, hclick⟩ := hadds.added_eq
  rcases List.mem_cons.mp hf with rfl | hf
  · rfl
  · exact (hclick f (Option.mem_toList.mp hf)).payload_eq

/-- The event is the one added that is no click. -/
theorem length_eq : added.length = added.countP (·.kind.isClick) + 1 := by
  obtain ⟨click?, rfl, hclick⟩ := hadds.added_eq
  cases click? with
  | none => simp [hadds.isClick_eq]
  | some f => simp [hadds.isClick_eq, (hclick f rfl).isClick]

end Adds

variable {s : Session δ} {c : Command δ}

/-- An input adds to the queue what its event makes of it. -/
theorem appended_of_isPlatform (hplatform : c.isPlatform = true) :
    s.appended c = s.hub.intake.offered (s.event? c) := by
  cases c with
  | hub c => exact Bool.noConfusion hplatform
  | android c => exact s.appended_android c
  | desktop c => exact s.appended_desktop c

/-- An input takes nothing out of the queue. -/
theorem pending_of_isPlatform (hplatform : c.isPlatform = true) :
    (s.perform c).value.2.pending = s.pending ++ s.appended c := by
  have hledger := s.ledger_step c
  cases c with
  | hub c => exact Bool.noConfusion hplatform
  | android c => exact hledger.symm
  | desktop c => exact hledger.symm

/-- An input without an event adds nothing. -/
theorem appended_of_event?_eq_none (hplatform : c.isPlatform = true) (hnone : s.event? c = none) :
    s.appended c = [] := by
  rw [appended_of_isPlatform hplatform, hnone, Intake.offered]

/-- **Input.**  An input with an event adds it, and the click that it completes. -/
theorem adds_of_event?_eq_some (hplatform : c.isPlatform = true) {e : Event}
    (he : s.event? c = some e) : Adds e (s.appended c) where
  isClick_eq := isClick_of_event? he
  added_eq := by
    rw [appended_of_isPlatform hplatform, he]
    exact s.hub.intake.exists_offered e

/-- An input with an event leaves it behind all that was pending, and the click behind it. -/
theorem exists_pending_eq_append (hplatform : c.isPlatform = true) {e : Event}
    (he : s.event? c = some e) :
    ∃ click? : Option Event, (s.perform c).value.2.pending = s.pending ++ e :: click?.toList ∧
      ∀ f, click? = some f → f.IsClickOf e := by
  obtain ⟨click?, hadded, hclick⟩ := (adds_of_event?_eq_some hplatform he).added_eq
  exact ⟨click?, by rw [pending_of_isPlatform hplatform, hadded], hclick⟩

/-- What an input adds carries what its event carries. -/
theorem exists_event?_of_mem_appended (hplatform : c.isPlatform = true) {f : Event}
    (hf : f ∈ s.appended c) : ∃ e, s.event? c = some e ∧ f.payload = e.payload := by
  cases he : s.event? c with
  | none =>
    rw [appended_of_event?_eq_none hplatform he] at hf
    exact absurd hf List.not_mem_nil
  | some e => exact ⟨e, rfl, (adds_of_event?_eq_some hplatform he).payload_eq hf⟩

end Session

end EventPipeline
