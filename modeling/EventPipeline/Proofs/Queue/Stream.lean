import EventPipeline.Proofs.Queue.Ledger
import EventPipeline.Proofs.Queue.Shape
import EventPipeline.Session

namespace EventPipeline

/-!
# The stream of all events

As long as only the platforms feed the queue of a session, the events that are ever added to it
make up a stream of the shape `ClickShape`.

* `Session.appended`, `Session.removed` — the ledger of a session, with the inputs of the
  platforms.
* `Session.stream` — the entries of a run, told from what its steps add to the queue.
* `Tracks` — the invariant, which ties the click history to the entries so far.

A press keeps the invariant with the click that it completes (`Tracks.press`), and so does every
step (`Session.tracks_perform`) and every run (`Session.tracks_run`).
-/

/-! ### The entries of a session -/

/-- Whether a step queues events by itself. -/
def Intake.Command.isDirect : Intake.Command → Bool
  | .push _ | .press _ | .synthesize _ => true
  | .pop | .peek | .flush | .settings | .setSettings _ | .setTime _ | .setDistance _ => false

namespace Session

variable {δ : Type}

/-- Whether a step queues events without an input of a platform. -/
def Command.isDirect : Command δ → Bool
  | .hub (.intake c) => c.isDirect
  | .hub (.dispatcher _) | .hub (.devices _) | .hub .deliverPending | .android _ | .desktop _ =>
    false

/-- The pending events. -/
def pending (s : Session δ) : List Event := s.hub.intake.queue.toList

/-- The events that a step adds to the queue.  After an input of a platform they are those that
    stand behind what was pending before. -/
def appended (s : Session δ) (c : Command δ) : List Event :=
  match c with
  | .hub c => s.hub.appended c
  | .android _ | .desktop _ => (s.perform c).value.2.pending.drop s.pending.length

/-- The events that a step takes out of the queue. -/
def removed (s : Session δ) : Command δ → List Event
  | .hub c => s.hub.removed c
  | .android _ | .desktop _ => []

/-- The mark that a step leaves in the stream. -/
def Command.marks : Command δ → List Entry
  | .hub (.intake .flush) => [.flushed]
  | .hub _ | .android _ | .desktop _ => []

/-- What a step does to the queue, as entries of the stream. -/
def entries (s : Session δ) (c : Command δ) : List Entry := (s.appended c).map .added ++ c.marks

/-- The stream of a run: what its steps do to the queue, one after the other. -/
def stream (s : Session δ) (steps : List (Command δ)) : List Entry :=
  Traced.gather perform entries s steps

end Session

/-! ### One input -/

namespace Intake

/-- The events that an input adds to the queue, which was translated into an event or into none. -/
def offered (i : Intake) : Option Event → List Event
  | none => []
  | some e => if e.kind = .buttonPress then i.appended (.press e) else i.appended (.push e)

theorem toList_queue_offer (i : Intake) (e? : Option Event) :
    (i.offer e?).queue.toList = i.queue.toList ++ i.offered e? := by
  cases e? with
  | none => exact (List.append_nil _).symm
  | some e =>
    show (i.accept e).value.queue.toList = _
    rw [accept, offered]
    by_cases hpress : e.kind = .buttonPress
    · rw [if_pos hpress, if_pos hpress]
      exact toList_queue_press i e
    · rw [if_neg hpress, if_neg hpress]
      exact toList_queue_push i e

end Intake

namespace Session

variable {δ : Type}

/-- The event that an input of a platform is translated into, if it is. -/
def event? (s : Session δ) : Command δ → Option Event
  | .hub _ => none
  | .android c => c.event? s.hub.devices.pointer
  | .desktop c => s.desktop.event? s.hub.devices.pointer c

/-- An input of Android does to the intake what its event does. -/
theorem intake_perform_android (s : Session δ) (c : Android.Command) :
    (s.perform (.android c)).value.2.hub.intake = s.hub.intake.offer (s.event? (.android c)) :=
  s.android.intake_perform s.hub c

/-- A report of a desktop does to the intake what its event does. -/
theorem intake_perform_desktop (s : Session δ) (c : Desktop.Command) :
    (s.perform (.desktop c)).value.2.hub.intake = s.hub.intake.offer (s.event? (.desktop c)) :=
  congrArg Hub.intake (s.desktop.hub_perform s.hub c)

theorem appended_android (s : Session δ) (c : Android.Command) :
    s.appended (.android c) = s.hub.intake.offered (s.event? (.android c)) := by
  rw [appended, pending, pending, intake_perform_android, Intake.toList_queue_offer,
    List.drop_left]

theorem appended_desktop (s : Session δ) (c : Desktop.Command) :
    s.appended (.desktop c) = s.hub.intake.offered (s.event? (.desktop c)) := by
  rw [appended, pending, pending, intake_perform_desktop, Intake.toList_queue_offer,
    List.drop_left]

/-- **Step of a session.** -/
theorem ledger_step (s : Session δ) (c : Command δ) :
    s.pending ++ s.appended c = s.removed c ++ (s.perform c).value.2.pending := by
  cases c with
  | hub c => exact s.hub.ledger_step c
  | android c =>
    rw [appended_android, removed, List.nil_append, pending, pending, intake_perform_android,
      Intake.toList_queue_offer]
  | desktop c =>
    rw [appended_desktop, removed, List.nil_append, pending, pending, intake_perform_desktop,
      Intake.toList_queue_offer]

end Session

/-! ### No input is a click -/

/-- No input of Android is translated into a click. -/
theorem Android.Command.isClick_of_event? {c : Command} {pointer : DeviceId} {e : Event}
    (he : c.event? pointer = some e) : e.kind.isClick = false := by
  cases c with
  | motion m stage =>
    obtain ⟨f, hf, rfl⟩ := Option.map_eq_some_iff.mp he
    show f.kind.isClick = false
    obtain ⟨action, -, hkind⟩ := Motion.kind_of_toEvent? hf
    rw [hkind]
    cases action <;> rfl
  | key k stage =>
    obtain ⟨f, hf, rfl⟩ := Option.map_eq_some_iff.mp he
    show f.kind.isClick = false
    obtain hkind | hkind := Key.kind_of_toEvent? hf
    · rw [hkind]
      rfl
    · rw [hkind]
      rfl

/-- No report of a desktop makes a click complete. -/
theorem Desktop.Input.isClick_of_event? {i : Input} {pointer : DeviceId} {c : Command} {e : Event}
    (he : i.event? pointer c = some e) : e.kind.isClick = false := by
  obtain ⟨f, hf, rfl⟩ := Option.map_eq_some_iff.mp he
  show f.kind.isClick = false
  cases c with
  | restart stage => exact absurd hf (by simp)
  | modifiers k => exact absurd hf (by simp)
  | cursor x y time => obtain rfl := Option.some.inj hf; rfl
  | mouse pressed button time =>
    obtain rfl := Option.some.inj hf
    cases pressed <;> rfl
  | wheel delta time =>
    obtain ⟨direction, -, rfl⟩ := Option.map_eq_some_iff.mp hf
    rfl
  | key pressed key text time =>
    obtain rfl := Option.some.inj hf
    cases pressed <;> rfl

/-- No input of a platform is translated into a click. -/
theorem Session.isClick_of_event? {δ : Type} {s : Session δ} {c : Command δ} {e : Event}
    (he : s.event? c = some e) : e.kind.isClick = false := by
  cases c with
  | hub c => exact absurd he (by simp [event?])
  | android c => exact Android.Command.isClick_of_event? he
  | desktop c => exact Desktop.Input.isClick_of_event? he

/-! ### The invariant -/

/-- What a run keeps up: the entries so far are regular, and a press that the history remembers has
    come as far towards a click as they say. -/
structure Tracks (h : ClickHistory) (past : List Entry) : Prop where
  /-- Every entry was admissible. -/
  regular : Regular past
  /-- A double click is completed only by a press that is not the first one. -/
  latest : h.latest.isSome = true → standing past ≠ .fresh
  /-- A triple click is completed only by a press behind a double click. -/
  previous : h.previous.isSome = true → standing past = .double

namespace Tracks

/-- No press is remembered after a flush. -/
theorem flushed {past : List Entry} (hreg : Regular past) : Tracks ∅ (.flushed :: past) where
  regular := ⟨trivial, hreg⟩
  latest := fun hsome => absurd hsome (by decide)
  previous := fun hsome => absurd hsome (by decide)

/-- An event that is neither a press nor a click changes nothing. -/
theorem other {h : ClickHistory} {past : List Entry} (htracks : Tracks h past) {e : Event}
    (hpress : e.kind ≠ .buttonPress) (hclick : e.kind.isClick = false) :
    Tracks h (.added e :: past) := by
  have hadmissible : Admissible past (.added e) := by
    intro hcontra
    rw [hclick] at hcontra
    exact absurd hcontra Bool.false_ne_true
  have hstanding : standing (.added e :: past) = standing past := standing_of_other hpress hclick
  refine ⟨⟨hadmissible, htracks.regular⟩, ?_, ?_⟩
  · rw [hstanding]
    exact htracks.latest
  · rw [hstanding]
    exact htracks.previous

/-- **Press.**  A press is added with the click that it completes, if it does. -/
theorem press {h : ClickHistory} {past : List Entry} (htracks : Tracks h past) (s : ClickSettings)
    {e : Event} (hpress : e.kind = .buttonPress) :
    Tracks (h.process s e).value.2
      ((h.process s e).value.1.toList.map .added ++ .added e :: past) := by
  rw [ClickHistory.value_process_of_press h s hpress]
  obtain ⟨q, hq, -, hafter⟩ | ⟨q, hq, -, hafter⟩ | hafter := h.press_cases s (.ofEvent e)
  · -- A triple click: the press before stood at a double one, and nothing is remembered.
    have hdouble : standing past = .double := htracks.previous (by rw [hq]; rfl)
    have hstanding : standing past ≠ .fresh := by
      rw [hdouble]
      decide
    obtain ⟨f, hf, -⟩ := ClickHistory.exists_withKind?_of_press hpress .triple
    rw [hafter, Option.bind_some, hf]
    refine ⟨htracks.regular.click hpress hf hstanding fun _ => hdouble, ?_, ?_⟩
    · exact fun hsome => absurd hsome Bool.false_ne_true
    · exact fun hsome => absurd hsome Bool.false_ne_true
  · -- A double click: the press before was not the first, and both are remembered.
    have hstanding : standing past ≠ .fresh := htracks.latest (by rw [hq]; rfl)
    obtain ⟨f, hf, hkind, -⟩ := ClickHistory.exists_withKind?_of_press hpress .double
    have hdouble : standing (.added f :: .added e :: past) = .double :=
      standing_of_doublePress hkind
    rw [hafter, Option.bind_some, hf]
    refine ⟨htracks.regular.click hpress hf hstanding fun hm => Multiplicity.noConfusion hm, ?_, ?_⟩
    · intro _ hfresh
      exact absurd (hdouble.symm.trans hfresh) (by decide)
    · exact fun _ => hdouble
  · -- No click: the press is remembered alone.
    have hsingle : standing (.added e :: past) = .single := standing_of_buttonPress hpress
    rw [hafter]
    refine ⟨htracks.regular.press hpress, ?_, ?_⟩
    · intro _ hfresh
      exact absurd (hsingle.symm.trans hfresh) (by decide)
    · exact fun hsome => absurd hsome Bool.false_ne_true

/-- **Input.**  An input of a platform is translated into none, into a press, or into an event that
    has nothing to do with clicks. -/
theorem offer {i : Intake} {past : List Entry} (htracks : Tracks i.clicks past) {e? : Option Event}
    (hinput : ∀ e, e? = some e → e.kind.isClick = false) :
    Tracks (i.offer e?).clicks (((i.offered e?).map .added).reverse ++ past) := by
  cases e? with
  | none => exact htracks
  | some e =>
    show Tracks (i.accept e).value.clicks _
    rw [Intake.accept, Intake.offered]
    -- Only a press goes through the click history.
    by_cases hpress : e.kind = .buttonPress
    · rw [if_pos hpress, if_pos hpress, Intake.clicks_press, Intake.appended, List.map_cons,
        List.reverse_cons, List.append_assoc]
      have hone : ∀ click : Option Event,
          (click.toList.map Entry.added).reverse = click.toList.map Entry.added := by
        intro click
        cases click <;> rfl
      rw [hone]
      exact htracks.press i.settings hpress
    · rw [if_neg hpress, if_neg hpress]
      exact htracks.other hpress (hinput e rfl)

end Tracks

/-! ### Runs -/

namespace Session

variable {δ : Type}

/-- **Step.**  A step that queues no event by itself keeps the invariant. -/
theorem tracks_perform (s : Session δ) {c : Command δ} (hplatform : c.isDirect = false)
    {past : List Entry} (htracks : Tracks s.hub.intake.clicks past) :
    Tracks (s.perform c).value.2.hub.intake.clicks ((s.entries c).reverse ++ past) := by
  cases c with
  | hub c =>
    cases c with
    | intake c =>
      -- Of the steps on the intake that queue no event, only a flush leaves an entry.
      cases c with
      | push e => exact Bool.noConfusion hplatform
      | press e => exact Bool.noConfusion hplatform
      | synthesize e => exact Bool.noConfusion hplatform
      | flush => exact .flushed htracks.regular
      | pop => exact htracks
      | peek => exact htracks
      | settings => exact htracks
      | setSettings settings => exact htracks
      | setTime millis => exact htracks
      | setDistance pixels => exact htracks
    | dispatcher c => exact htracks
    | devices c => exact htracks
    | deliverPending =>
      -- A delivery empties the queue at most, and forgets no press.
      show Tracks (s.hub.perform .deliverPending).value.2.intake.clicks past
      by_cases hlive : s.hub.dispatcher.hasHandler = true
      · obtain ⟨-, hintake, -⟩ := Hub.perform_deliverPending_of_hasHandler hlive
        rw [hintake]
        exact htracks
      · rw [Hub.perform_deliverPending_of_not_hasHandler (Bool.eq_false_iff.mpr hlive)]
        exact htracks
  | android c =>
    rw [entries, appended_android, intake_perform_android, Command.marks, List.append_nil]
    exact htracks.offer fun e he => isClick_of_event? he
  | desktop c =>
    rw [entries, appended_desktop, intake_perform_desktop, Command.marks, List.append_nil]
    exact htracks.offer fun e he => isClick_of_event? he

/-- **Run.**  Steps that queue no event by themselves keep the invariant. -/
theorem tracks_run (s : Session δ) {steps : List (Command δ)}
    (hplatform : ∀ c ∈ steps, c.isDirect = false) {past : List Entry}
    (htracks : Tracks s.hub.intake.clicks past) :
    Tracks (s.run steps).value.2.hub.intake.clicks ((s.stream steps).reverse ++ past) := by
  induction steps generalizing s past with
  | nil => exact htracks
  | cons c rest ih =>
    rw [List.forall_mem_cons] at hplatform
    -- The entries of the first step are past to the rest of the run.
    have hrest := ih (s.perform c).value.2 hplatform.2 (s.tracks_perform hplatform.1 htracks)
    show Tracks _ ((s.entries c ++ (s.perform c).value.2.stream rest).reverse ++ past)
    rw [List.reverse_append, List.append_assoc]
    exact hrest

/-- The events of the stream are those that its steps added to the queue. -/
theorem filterMap_stream (s : Session δ) (steps : List (Command δ)) :
    (s.stream steps).filterMap Entry.event? = Traced.gather perform appended s steps := by
  induction steps generalizing s with
  | nil => rfl
  | cons c rest ih =>
    have hmarks : c.marks.filterMap Entry.event? = [] := by
      rw [Command.marks.eq_def]
      split <;> rfl
    have hadded : Entry.event? ∘ Entry.added = some := rfl
    have hentries : (s.entries c).filterMap Entry.event? = s.appended c := by
      rw [entries, List.filterMap_append, hmarks, List.filterMap_map, hadded, List.filterMap_some,
        List.append_nil]
    show (s.entries c ++ (s.perform c).value.2.stream rest).filterMap Entry.event? = _
    rw [List.filterMap_append, hentries, ih]
    rfl

/-- **The stream of all events has the shape of clicks.**  In every run from a new session in which
    only the platforms feed the queue, the events that were ever added to it, with the flushes among
    them, have the shape `ClickShape`.  They are all events of the run: those that left the queue,
    followed by those still pending. -/
theorem stream_clickShape (settings : ClickSettings) (steps : List (Command δ))
    (hplatform : ∀ c ∈ steps, c.isDirect = false) :
    ClickShape ((withSettings settings).stream steps) ∧
      ((withSettings settings).stream steps).filterMap Entry.event?
        = Traced.gather perform removed (withSettings settings) steps
          ++ ((withSettings settings).run steps).value.2.pending := by
  have hstart : Tracks (withSettings (δ := δ) settings).hub.intake.clicks [] :=
    ⟨trivial, fun hsome => absurd hsome Bool.false_ne_true,
      fun hsome => absurd hsome Bool.false_ne_true⟩
  constructor
  · have hrun := tracks_run (withSettings settings) hplatform hstart
    rw [List.append_nil] at hrun
    exact hrun.regular.clickShape
  · rw [filterMap_stream]
    exact Traced.gather_conserved perform pending appended removed ledger_step
      (withSettings settings) steps

/-- Three touches of one place, a flush, and a fourth touch. -/
def touchesWithFlush : List (Command Unit) :=
  let touch (timeNanos : Int64) : Command Unit := .android (.motion { timeNanos } none)
  [touch 0, touch 100000000, touch 200000000, .hub (.intake .flush), touch 300000000]

/-- Three touches make a double and then a triple click, and a touch behind a flush makes none. -/
theorem stream_touchesWithFlush :
    (∀ c ∈ touchesWithFlush, c.isDirect = false) ∧
      ClickShape ((withSettings {}).stream touchesWithFlush) ∧
      (((withSettings {}).stream touchesWithFlush).map fun x => x.event?.map (·.kind))
        = [some .buttonPress, some .buttonPress, some .doublePress, some .buttonPress,
            some .triplePress, none, some .buttonPress] := by
  refine ⟨by decide, (stream_clickShape {} touchesWithFlush (by decide)).1, ?_⟩
  decide +kernel

end Session

end EventPipeline
