import EventPipeline.Proofs.Desktop.Reports
import EventPipeline.Proofs.Click.Reference

namespace EventPipeline

namespace Event

/-!
# Kinds, payloads and accessors

An event is made by one of a few functions and then changed step by step.  This file tells what the
result carries from the way it was made, and what the accessors read off it.

* `Event.ReadsAs` — the accessors of one family answer, the others give zero or nothing.
* `Event.Origin` — the functions that make events.
* `Event.Change` — the functions that change them, one of which can fail.
* `Event.changeAll?` — the changes of a list, one after the other.

What an event carries is never changed, and its kind only within the family
(`Event.changeAll?_eq_some_iff`), so the accessors of an event are those of its origin
(`Event.readsAs_of_changeAll?`).  Every event can be made so (`Event.exists_changeAll?_eq`).
-/

/-! ### What the accessors give -/

/-- Of an event with a payload of the family the accessors of the family answer.  The others give
    zero or nothing. -/
structure ReadsAs (e : Event) (family : EventFamily) : Prop where
  /-- The payload is of the family. -/
  family_payload : e.payload.family = family
  /-- Exactly the one accessor of the family gives a payload.  For the family of nothing none
      of them does. -/
  isSome_key? : e.key?.isSome = true ↔ family = .key
  isSome_button? : e.button?.isSome = true ↔ family = .button
  isSome_motion? : e.motion?.isSome = true ↔ family = .motion
  isSome_scroll? : e.scroll?.isSome = true ↔ family = .scroll
  /-- The accessors of other families have nothing to give. -/
  of_ne_key : family ≠ .key →
    e.keySymbol = 0 ∧ e.hardwareCode = 0 ∧ e.keyCharacter = 0 ∧ e.textCharacter = 0
  of_ne_button : family ≠ .button → e.button = 0 ∧ e.clicks = 0
  of_ne_scroll : family ≠ .scroll → e.direction? = none
  of_no_device : family ≠ .button → family ≠ .motion → e.device = none
  of_no_position : family = .nothing ∨ family = .key →
    e.position = ⟨0, 0⟩ ∧ ∀ x y, e.writePosition x y = (x.map fun _ => 0, y.map fun _ => 0)
  of_nothing : family = .nothing → e.time = 0 ∧ e.modifiers = ∅

/-- The accessors go by the payload. -/
theorem readsAs_payload (e : Event) : e.ReadsAs e.payload.family := by
  obtain ⟨kind, flags, stage, payload, family_eq⟩ := e
  cases payload with
  | nothing | key data | button data | motion data | scroll data =>
    constructor <;> simp [Payload.family, key?, button?, motion?, scroll?, keySymbol, hardwareCode,
      keyCharacter, textCharacter, button, clicks, direction?, device, position, writePosition,
      time, modifiers, Point.origin]

/-! ### Making an event -/

/-- A function that makes an event, with what it is given. -/
inductive Origin where
  /-- An event of a kind with a payload of zeros.  Of the kind of nothing it is the event that
      stands for no event. -/
  | blank (kind : EventKind)
  /-- A key went down. -/
  | keyPress (data : KeyData)
  /-- A key went up. -/
  | keyRelease (data : KeyData)
  /-- A button went down. -/
  | buttonPress (data : ButtonData)
  /-- A button went up. -/
  | buttonRelease (data : ButtonData)
  /-- The pointer moved. -/
  | motion (data : MotionData)
  /-- A scroll step. -/
  | scroll (data : ScrollData)

namespace Origin

/-- The event that is made. -/
def event : Origin → Event
  | blank kind => .blank kind
  | keyPress data => .keyPress data
  | keyRelease data => .keyRelease data
  | buttonPress data => .buttonPress data
  | buttonRelease data => .buttonRelease data
  | motion data => .motion data
  | scroll data => .scroll data

/-- What is given for the payload. -/
def payload : Origin → Payload
  | blank kind => .blank kind.family
  | keyPress data | keyRelease data => .key data
  | buttonPress data | buttonRelease data => .button data
  | motion data => .motion data
  | scroll data => .scroll data

/-- A function that a payload can be given to. -/
def ofPayload : Payload → Origin
  | .nothing => blank .nothing
  | .key data => keyPress data
  | .button data => buttonPress data
  | .motion data => motion data
  | .scroll data => scroll data

theorem payload_ofPayload (p : Payload) : (ofPayload p).payload = p := by
  cases p <;> rfl

theorem payload_event (o : Origin) : o.event.payload = o.payload := by
  cases o <;> rfl

/-- The kind that is made is of the family of what is given. -/
theorem family_kind_event (o : Origin) : o.event.kind.family = o.payload.family := by
  cases o with
  | blank kind => exact (Payload.family_blank kind.family).symm
  | keyPress | keyRelease | buttonPress | buttonRelease | motion | scroll => rfl

end Origin

/-! ### Changing an event -/

/-- A function that changes an event, with what it is given. -/
inductive Change where
  /-- Aims the event at a stage, or at none. -/
  | aim (stage : Option StageId)
  /-- Puts other marks on the event. -/
  | mark (flags : EventFlags)
  /-- Puts the event under another kind, if it is of the same family. -/
  | retype (kind : EventKind)
  /-- Copies the event. -/
  | copy
deriving DecidableEq, Repr

namespace Change

/-- The kind that a change asks for. -/
def kind? : Change → Option EventKind
  | retype kind => some kind
  | _ => none

/-- The marks that a change puts on. -/
def flags? : Change → Option EventFlags
  | mark flags => some flags
  | _ => none

/-- The stage that a change aims at. -/
def stage? : Change → Option (Option StageId)
  | aim stage => some stage
  | _ => none

end Change

/-- The event after a change. -/
def change? (e : Event) : Change → Option Event
  | .aim stage => some (e.aimedAt stage)
  | .mark flags => some (e.marked flags)
  | .retype kind => e.withKind? kind
  | .copy => some e

/-- The event after the changes of a list, if none of them fails. -/
def changeAll? (e : Event) (changes : List Change) : Option Event := changes.foldlM change? e

variable {e f : Event}

/-- A change fails only if it asks for a kind of another family. -/
theorem isSome_change?_iff {c : Change} :
    (e.change? c).isSome = true ↔ ∀ kind ∈ c.kind?, kind.family = e.kind.family := by
  cases c with
  | aim stage => simp [change?, Change.kind?]
  | mark flags => simp [change?, Change.kind?]
  | retype kind =>
    show (e.withKind? kind).isSome = true ↔ ∀ asked ∈ some kind, asked.family = e.kind.family
    rw [isSome_withKind?]
    constructor
    · rintro hsame asked hasked
      obtain rfl := Option.some.inj hasked
      exact hsame.symm
    · exact fun h => (h kind rfl).symm
  | copy => simp [change?, Change.kind?]

/-- What a change does to the parts of an event. -/
theorem parts_of_change? {c : Change} (hf : e.change? c = some f) :
    f.kind = c.kind?.getD e.kind ∧ f.flags = c.flags?.getD e.flags ∧
      f.stage = c.stage?.getD e.stage ∧ f.payload = e.payload := by
  cases c with
  | aim stage => obtain rfl := Option.some.inj hf; exact ⟨rfl, rfl, rfl, rfl⟩
  | mark flags => obtain rfl := Option.some.inj hf; exact ⟨rfl, rfl, rfl, rfl⟩
  | retype kind => exact withKind?_eq_some_iff.mp hf
  | copy => obtain rfl := Option.some.inj hf; exact ⟨rfl, rfl, rfl, rfl⟩

/-- Events with the same payload are of the same family. -/
theorem family_eq_of_payload_eq (hpayload : f.payload = e.payload) :
    f.kind.family = e.kind.family := by
  rw [← f.family_eq, ← e.family_eq, hpayload]

/-- The changes of a list succeed exactly if every kind they ask for is of the event's family. -/
theorem isSome_changeAll?_iff {changes : List Change} :
    (e.changeAll? changes).isSome = true ↔
      ∀ c ∈ changes, ∀ kind ∈ c.kind?, kind.family = e.kind.family := by
  induction changes generalizing e with
  | nil => simp [changeAll?]
  | cons c rest ih =>
    have hsplit : e.changeAll? (c :: rest) = (e.change? c).bind (·.changeAll? rest) := rfl
    rw [hsplit, List.forall_mem_cons, ← isSome_change?_iff]
    cases hg : e.change? c with
    | none => simp
    | some g =>
      -- The first change leaves the family as it is, so the rest asks for the same.
      have hfamily := family_eq_of_payload_eq (parts_of_change? hg).2.2.2
      rw [Option.bind_some, ih, hfamily]
      simp

/-- What the last of some changes asks for, after one before them. -/
theorem getLastD_filterMap_cons {α β : Type} (p : α → Option β) (c : α) (rest : List α) (b : β) :
    ((c :: rest).filterMap p).getLastD b = (rest.filterMap p).getLastD ((p c).getD b) := by
  cases h : p c with
  | none => rw [List.filterMap_cons_none h, Option.getD_none]
  | some b' => rw [List.filterMap_cons_some h, List.getLastD_cons, Option.getD_some]

/-- **Changes.**  An event has the kind, the marks and the stage that the last changes of these
    asked for, and the payload that it was made with. -/
theorem parts_of_changeAll? {changes : List Change} (hf : e.changeAll? changes = some f) :
    f.kind = (changes.filterMap Change.kind?).getLastD e.kind ∧
      f.flags = (changes.filterMap Change.flags?).getLastD e.flags ∧
      f.stage = (changes.filterMap Change.stage?).getLastD e.stage ∧
      f.payload = e.payload := by
  induction changes generalizing e with
  | nil =>
    obtain rfl := Option.some.inj hf
    exact ⟨rfl, rfl, rfl, rfl⟩
  | cons c rest ih =>
    obtain ⟨g, hg, hrest⟩ := Option.bind_eq_some_iff.mp hf
    obtain ⟨hkind, hflags, hstage, hpayload⟩ := parts_of_change? hg
    rw [getLastD_filterMap_cons, getLastD_filterMap_cons, getLastD_filterMap_cons, ← hkind,
      ← hflags, ← hstage, ← hpayload]
    exact ih hrest

/-- The parts determine the event that the changes of a list lead to. -/
theorem changeAll?_eq_some_iff {changes : List Change} :
    e.changeAll? changes = some f ↔
      (∀ c ∈ changes, ∀ kind ∈ c.kind?, kind.family = e.kind.family) ∧
        f.kind = (changes.filterMap Change.kind?).getLastD e.kind ∧
        f.flags = (changes.filterMap Change.flags?).getLastD e.flags ∧
        f.stage = (changes.filterMap Change.stage?).getLastD e.stage ∧
        f.payload = e.payload := by
  constructor
  · intro hf
    exact ⟨isSome_changeAll?_iff.mp (by rw [hf]; rfl), parts_of_changeAll? hf⟩
  · rintro ⟨hall, hkind, hflags, hstage, hpayload⟩
    obtain ⟨g, hg⟩ := Option.isSome_iff_exists.mp (isSome_changeAll?_iff.mpr hall)
    obtain ⟨hkind', hflags', hstage', hpayload'⟩ := parts_of_changeAll? hg
    rw [hg, Option.some.injEq, Event.ext_iff]
    exact ⟨hkind'.trans hkind.symm, hflags'.trans hflags.symm, hstage'.trans hstage.symm,
      hpayload'.trans hpayload.symm⟩

/-- However an event is made and changed, it carries what its origin was given, its kind is of that
    family, and so is what is read off it. -/
theorem readsAs_of_changeAll? {o : Origin} {changes : List Change}
    (he : o.event.changeAll? changes = some e) :
    e.payload = o.payload ∧ e.kind.family = o.payload.family ∧ e.ReadsAs o.payload.family := by
  obtain ⟨-, -, -, hpayload⟩ := parts_of_changeAll? he
  have hgiven : e.payload = o.payload := hpayload.trans o.payload_event
  have hfamily : e.kind.family = o.payload.family :=
    (family_eq_of_payload_eq hpayload).trans o.family_kind_event
  have hreads := e.readsAs_payload
  rw [hgiven] at hreads
  exact ⟨hgiven, hfamily, hreads⟩

/-- Every event can be made so, whatever its parts are. -/
theorem exists_changeAll?_eq (e : Event) :
    ∃ (o : Origin) (changes : List Change), o.event.changeAll? changes = some e := by
  let o := Origin.ofPayload e.payload
  have hpayload : o.event.payload = e.payload :=
    o.payload_event.trans (Origin.payload_ofPayload e.payload)
  refine ⟨o, [.retype e.kind, .mark e.flags, .aim e.stage], changeAll?_eq_some_iff.mpr ?_⟩
  refine ⟨?_, rfl, rfl, rfl, hpayload.symm⟩
  intro c hc kind hkind
  have hfamily := family_eq_of_payload_eq hpayload.symm
  simp only [List.mem_cons, List.not_mem_nil, or_false] at hc
  rcases hc with rfl | rfl | rfl
  · obtain rfl := Option.some.inj hkind
    exact hfamily
  · exact absurd hkind (Option.not_mem_none kind)
  · exact absurd hkind (Option.not_mem_none kind)

/-- So the accessors of every event are those of the family of its kind. -/
theorem readsAs_kind (e : Event) : e.ReadsAs e.kind.family := by
  obtain ⟨o, changes, he⟩ := e.exists_changeAll?_eq
  obtain ⟨-, hfamily, hreads⟩ := readsAs_of_changeAll? he
  rw [hfamily]
  exact hreads

/-! ### Other kinds of the same family -/

/-- Of some kinds asked for one after the other only the last one is left. -/
theorem withKind?_of_changeAll? {kinds : List EventKind} {last : EventKind}
    (hf : e.changeAll? ((kinds ++ [last]).map .retype) = some f) : e.withKind? last = some f := by
  obtain ⟨hkind, hflags, hstage, hpayload⟩ := parts_of_changeAll? hf
  have hkinds : ∀ ks : List EventKind, (ks.map .retype).filterMap Change.kind? = ks := by
    intro ks
    simp [List.filterMap_map, Function.comp_def, Change.kind?]
  have hnone : ∀ ks : List EventKind, (ks.map .retype).filterMap Change.flags? = [] ∧
      (ks.map .retype).filterMap Change.stage? = [] := by
    intro ks
    simp [Change.flags?, Change.stage?]
  rw [hkinds, List.getLastD_concat] at hkind
  rw [(hnone _).1] at hflags
  rw [(hnone _).2] at hstage
  exact withKind?_eq_some_iff.mpr ⟨hkind, hflags, hstage, hpayload⟩

/-- The kind that an event had before leads back to it. -/
theorem withKind?_back {kind : EventKind} (hf : e.withKind? kind = some f) :
    f.withKind? e.kind = some e := by
  obtain ⟨-, hflags, hstage, hpayload⟩ := withKind?_eq_some_iff.mp hf
  exact withKind?_eq_some_iff.mpr ⟨rfl, hflags.symm, hstage.symm, hpayload.symm⟩

end Event

/-- A press is answered with an event exactly if it is close enough to a remembered one. -/
theorem ClickHistory.isSome_process (h : ClickHistory) (s : ClickSettings) {e : Event}
    (hpress : e.kind = .buttonPress) :
    (h.process s e).value.1.isSome =
      ((h.previous.any fun q => (Press.ofEvent e).follows q (2 * s.doubleClickTime.toUInt64)
          s.doubleClickDistance) ||
        h.latest.any fun q => (Press.ofEvent e).follows q s.doubleClickTime.toUInt64
          s.doubleClickDistance) := by
  have hkinds := congrArg Option.isSome (h.map_kind_process s hpress)
  rw [Option.isSome_map, Option.isSome_map] at hkinds
  rw [hkinds, ClickHistory.press]
  split
  · rename_i htriple
    rw [htriple]
    rfl
  · rename_i htriple
    rw [Bool.eq_false_iff.mpr htriple, Bool.false_or]
    split
    · rename_i hdouble
      exact hdouble.symm
    · rename_i hdouble
      exact (Bool.eq_false_iff.mpr hdouble).symm

namespace Event

/-! ### The events of the pipeline -/

/-- **The kind of an event and its payload agree.**  However an event is made, and whatever changes
    succeed on it, it carries what its origin was given, its kind is of that family, and the
    accessors of this family alone have something to give.

    An event can be put under exactly the kinds of its family.  This changes nothing else, it can be
    taken back, and of several kinds in a row only the last one is left.  Therefore a press that is
    close enough to a remembered one is always answered with an event: the press itself under
    another kind.  That event, and those that the platforms' inputs are translated into, read as
    their kinds say. -/
theorem kind_agrees_with_payload :
    (∀ (o : Origin) (changes : List Change) (e : Event), o.event.changeAll? changes = some e →
      e.payload = o.payload ∧ e.kind.family = o.payload.family ∧ e.ReadsAs e.kind.family) ∧
      (∀ (e : Event) (kind : EventKind),
        ((e.withKind? kind).isSome = true ↔ kind.family = e.kind.family) ∧
          ∀ f, e.withKind? kind = some f →
            (f.kind = kind ∧ f.flags = e.flags ∧ f.stage = e.stage ∧ f.payload = e.payload) ∧
              f.withKind? e.kind = some e) ∧
      (∀ (e f : Event) (kinds : List EventKind) (last : EventKind),
        e.changeAll? ((kinds ++ [last]).map .retype) = some f → e.withKind? last = some f) ∧
      (∀ (h : ClickHistory) (s : ClickSettings) (e : Event),
        (e.kind = .buttonPress → (h.process s e).value.1.isSome =
          ((h.previous.any fun q => (Press.ofEvent e).follows q (2 * s.doubleClickTime.toUInt64)
              s.doubleClickDistance) ||
            h.latest.any fun q => (Press.ofEvent e).follows q s.doubleClickTime.toUInt64
              s.doubleClickDistance)) ∧
          ∀ f, (h.process s e).value.1 = some f → f.IsClickOf e ∧ f.ReadsAs f.kind.family) ∧
      (∀ (m : Android.Motion) (pointer : Option DeviceId) (e : Event),
        m.toEvent? pointer = some e →
          ∃ action, Android.MotionAction.ofNumber? m.action = some action ∧
            e.kind = action.kind ∧ e.ReadsAs action.kind.family) ∧
      (∀ (k : Android.Key) (e : Event), k.toEvent? = some e →
        (e.kind = .keyPress ∨ e.kind = .keyRelease) ∧ e.ReadsAs .key) ∧
      ∀ (i : Desktop.Input) (pointer : DeviceId) (c : Desktop.Command) (e : Event),
        i.event? pointer c = some e → c.kind? = some e.kind ∧ e.ReadsAs e.kind.family := by
  refine ⟨?_, ?_, fun e f kinds last hf => withKind?_of_changeAll? hf, ?_, ?_, ?_, ?_⟩
  · intro o changes e he
    obtain ⟨hpayload, hfamily, hreads⟩ := readsAs_of_changeAll? he
    exact ⟨hpayload, hfamily, hfamily ▸ hreads⟩
  · intro e kind
    exact ⟨isSome_withKind?.trans eq_comm,
      fun f hf => ⟨withKind?_eq_some_iff.mp hf, withKind?_back hf⟩⟩
  · intro h s e
    refine ⟨h.isSome_process s, fun f hf => ⟨?_, f.readsAs_kind⟩⟩
    exact Intake.isClickOf_of_process (i := { clicks := h, settings := s }) hf
  · intro m pointer e he
    obtain ⟨action, haction, hkind⟩ := Android.Motion.kind_of_toEvent? he
    exact ⟨action, haction, hkind, hkind ▸ e.readsAs_kind⟩
  · intro k e he
    have hkind := Android.Key.kind_of_toEvent? he
    have hfamily : e.kind.family = .key := by
      rcases hkind with hpress | hrelease
      · rw [hpress]
        rfl
      · rw [hrelease]
        rfl
    exact ⟨hkind, hfamily ▸ e.readsAs_kind⟩
  · intro i pointer c e he
    have hkind := i.map_kind_event? pointer c
    rw [he] at hkind
    exact ⟨hkind.symm, e.readsAs_kind⟩

/-- A press that is marked, aimed and put under two other kinds, a second press, and one input of
    each platform. -/
theorem readsAs_of_double_press :
    let data : ButtonData := { time := 7, position := ⟨3, 4⟩, button := 1 }
    let changes : List Change :=
      [.mark .synthetic, .retype .triplePress, .copy, .aim (some (.first 1)), .retype .doublePress]
    let history := (ClickHistory.process ∅ {} (.buttonPress data)).value.2
    (∃ e, (Origin.buttonPress data).event.changeAll? changes = some e ∧
        e.payload = .button data ∧ e.kind = .doublePress ∧ e.ReadsAs .button) ∧
      (∃ f, (Event.buttonPress data).withKind? .triplePress = some f ∧
        f.withKind? .buttonPress = some (.buttonPress data)) ∧
      (∃ f,
        (Event.buttonPress data).changeAll? ([.triplePress, .doublePress].map .retype) = some f ∧
          (Event.buttonPress data).withKind? .doublePress = some f) ∧
      (∃ f, (history.process {} (.buttonPress data)).value.1 = some f ∧
        f.IsClickOf (.buttonPress data) ∧ f.ReadsAs .button) ∧
      (∃ e, ({ action := 0 } : Android.Motion).toEvent? none = some e ∧ e.ReadsAs .button) ∧
      (∃ e, ({ action := 1 } : Android.Key).toEvent? = some e ∧ e.ReadsAs .key) ∧
      ∃ e,
        ({} : Desktop.Input).event? DeviceTable.initial.pointer (.mouse false .right 9) = some e ∧
          e.ReadsAs .button := by
  intro data changes history
  obtain ⟨hmade, hretyped, hchain, hprocess, hmotion, hkey, hreport⟩ := kind_agrees_with_payload
  have hclick : (history.process {} (.buttonPress data)).value.1.isSome = true := by decide
  obtain ⟨f, hf⟩ := Option.isSome_iff_exists.mp hclick
  refine ⟨⟨_, rfl, ?_⟩, ⟨_, rfl, ?_⟩, ⟨_, rfl, ?_⟩, ⟨f, hf, ?_⟩, ⟨_, rfl, ?_⟩, ⟨_, rfl, ?_⟩,
    _, rfl, ?_⟩
  · obtain ⟨hpayload, -, hreads⟩ := hmade (.buttonPress data) changes _ rfl
    exact ⟨hpayload, rfl, hreads⟩
  · exact ((hretyped (.buttonPress data) .triplePress).2 _ rfl).2
  · exact hchain (.buttonPress data) _ [.triplePress] .doublePress rfl
  · obtain ⟨hisClick, hreads⟩ := (hprocess history {} (.buttonPress data)).2 f hf
    have hfamily : f.kind.family = .button := family_eq_of_payload_eq hisClick.payload_eq
    exact ⟨hisClick, hfamily ▸ hreads⟩
  · obtain ⟨action, haction, -, hreads⟩ := hmotion { action := 0 } none _ rfl
    obtain rfl := Option.some.inj haction
    exact hreads
  · exact (hkey { action := 1 } _ rfl).2
  · exact (hreport {} DeviceTable.initial.pointer (.mouse false .right 9) _ rfl).2

end Event

end EventPipeline
