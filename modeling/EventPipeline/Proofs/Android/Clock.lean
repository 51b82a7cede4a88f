import EventPipeline.Proofs.Click.Reference
import EventPipeline.Proofs.Queue.Stream

namespace EventPipeline

/-!
# Double clicks and the clock of Android

Android counts nanoseconds in 64 bits, an event carries milliseconds in 32.  So the time of an event
starts over from zero after every 2³² milliseconds, which are 49.7 days, and two touches are
compared by what is left of their times.

* `Android.Motion.millis`, `Android.Motion.wraps` — the whole milliseconds of a motion, and how
  often the clock of events has started over by then.
* `Android.Motion.joins_iff` — the test of a double click, in the whole milliseconds.
* `Android.touches` — the touches among some inputs, the latest first.
* `Android.MakesDouble` — when two of them make a double click.
* `Intake.Remembers` — the invariant: the click history keeps of the touches what it should.

An input keeps the invariant (`Intake.Remembers.offer`), and so does a run in which presses come by
touch alone (`Session.remembers_run`).  In a run of inputs a double click keeps to the double click
time as long as the clock has not started over between its touches; once it has, a touch of long ago
passes the test.
-/

/-! ### The clock -/

namespace Android

/-- The time of an event is what is left of the milliseconds, which are cut off toward zero. -/
theorem toNat_timeOfNanos_eq_emod (nanos : Int64) :
    ((timeOfNanos nanos).toNat : Int) = nanos.toInt.tdiv 1000000 % 4294967296 := by
  rw [timeOfNanos, UInt32.ofInt, UInt32.toNat_ofNat']
  omega

/-- The time of an event is what is left of the milliseconds. -/
theorem toNat_timeOfNanos {nanos : Int64} (hnonneg : 0 ≤ nanos.toInt) :
    ((timeOfNanos nanos).toNat : Int) = nanos.toInt / 1000000 % 4294967296 := by
  rw [toNat_timeOfNanos_eq_emod, Int.tdiv_eq_ediv_of_nonneg hnonneg]

/-- What is left of two times differs from the times by the rounds between them. -/
theorem emod_lt_emod_add_iff (a b limit : Int) :
    b % 4294967296 < a % 4294967296 + limit ↔
      b - a < limit + 4294967296 * (b / 4294967296 - a / 4294967296) := by
  have ha := Int.emod_add_mul_ediv a 4294967296
  have hb := Int.emod_add_mul_ediv b 4294967296
  omega

namespace Motion

/-- The whole milliseconds of the time of a motion. -/
def millis (m : Motion) : Int := m.timeNanos.toInt / 1000000

/-- How often the clock of events has started over by the time of a motion. -/
def wraps (m : Motion) : Int := m.millis / 4294967296

/-- Whether the first finger touched the screen. -/
def isDown (m : Motion) : Bool := MotionAction.ofNumber? m.action == some .down

/-- The press that a touch counts as, whatever its stage and its device are. -/
def trial (settings : ClickSettings) (m : Motion) : ClickHistory.Trial where
  settings := settings
  event := .buttonPress
    { time := timeOfNanos m.timeNanos, modifiers := Android.modifiers m.metaState,
      position := m.position, button := 1, clicks := 1, device := none }

/-- **Clock.**  A touch is close enough to an earlier one for a double click if it is near it and
    fewer milliseconds have passed than the double click time and the rounds of the clock between
    both make up. -/
theorem joins_iff {m d : Motion} (settings : ClickSettings) (hm : 0 ≤ m.timeNanos.toInt)
    (hd : 0 ≤ d.timeNanos.toInt) :
    (m.trial settings).joins 1 (d.trial settings) ↔
      m.position.near settings.doubleClickDistance d.position = true ∧
        m.millis - d.millis
          < settings.doubleClickTime.toNat + 4294967296 * (m.wraps - d.wraps) := by
  have htime : (timeOfNanos m.timeNanos).toNat
        < (timeOfNanos d.timeNanos).toNat + 1 * settings.doubleClickTime.toNat ↔
      m.millis - d.millis
        < settings.doubleClickTime.toNat + 4294967296 * (m.wraps - d.wraps) := by
    -- The times of the two events are what is left of the milliseconds.
    have hclock := emod_lt_emod_add_iff d.millis m.millis settings.doubleClickTime.toNat
    have hmtime := toNat_timeOfNanos hm
    have hdtime := toNat_timeOfNanos hd
    unfold wraps
    unfold millis at hclock ⊢
    omega
  rw [trial, trial, ClickHistory.Trial.joins_buttonPress, Point.near_iff, ← htime]
  constructor
  · rintro ⟨-, htime, hx, hy⟩
    exact ⟨⟨hx, hy⟩, htime⟩
  · rintro ⟨⟨hx, hy⟩, htime⟩
    exact ⟨rfl, htime, hx, hy⟩

/-! ### Touches -/

/-- A touch has an event, which is a press of the first button. -/
theorem exists_toEvent?_of_isDown {m : Motion} (hdown : m.isDown = true) (pointer : DeviceId) :
    ∃ data : ButtonData, m.toEvent? pointer = some (.buttonPress data) ∧
      data.time = timeOfNanos m.timeNanos ∧ data.button = 1 ∧ data.position = m.position := by
  have haction : MotionAction.ofNumber? m.action = some .down := eq_of_beq hdown
  rw [toEvent?, haction]
  exact ⟨_, rfl, rfl, rfl, rfl⟩

end Motion

/-- The touch that an input is, if it is one. -/
def Command.touch? : Command → Option Motion
  | .motion m _ => if m.isDown then some m else none
  | .key _ _ => none

/-- The touches after one more input, the latest first. -/
def noteTouch (past : List Motion) (c : Command) : List Motion := c.touch?.toList ++ past

/-- The touches among some inputs, the latest first. -/
def touches (inputs : List Command) : List Motion := inputs.foldl noteTouch []

/-- A touch is translated into a press, which the click history takes for the touch. -/
theorem Command.exists_press_of_touch? {c : Command} {m : Motion} (htouch : c.touch? = some m)
    (pointer : DeviceId) (settings : ClickSettings) :
    ∃ e, c.event? pointer = some e ∧ e.kind = .buttonPress ∧
      Press.ofEvent e = .ofEvent (m.trial settings).event := by
  cases c with
  | motion m' stage =>
    rw [touch?] at htouch
    by_cases hdown : m'.isDown = true
    · rw [if_pos hdown] at htouch
      obtain rfl := Option.some.inj htouch
      obtain ⟨data, he, htime, hbutton, hposition⟩ := Motion.exists_toEvent?_of_isDown hdown pointer
      refine ⟨(Event.buttonPress data).aimedAt stage, ?_, rfl, ?_⟩
      · rw [event?, he]
        rfl
      · have hleft : Press.ofEvent ((Event.buttonPress data).aimedAt stage)
            = ⟨data.time, data.button, data.position⟩ := rfl
        rw [hleft, htime, hbutton, hposition, Motion.trial, Press.ofEvent_buttonPress]
    · rw [if_neg hdown] at htouch
      exact absurd htouch (by simp)
  | key k stage => exact absurd htouch (by simp [touch?])

/-- What is no touch is not translated into a press. -/
theorem Command.kind_ne_of_not_touch {c : Command} (hnone : c.touch? = none) {pointer : DeviceId}
    {e : Event} (he : c.event? pointer = some e) : e.kind ≠ .buttonPress := by
  cases c with
  | motion m stage =>
    obtain ⟨f, hf, rfl⟩ := Option.map_eq_some_iff.mp he
    show f.kind ≠ .buttonPress
    obtain ⟨action, haction, hkind⟩ := Motion.kind_of_toEvent? hf
    rw [touch?, Motion.isDown, haction] at hnone
    rw [hkind]
    cases action with
    | down => exact absurd hnone (by simp)
    | up => decide
    | move => decide
    | scroll => decide
  | key k stage =>
    obtain ⟨f, hf, rfl⟩ := Option.map_eq_some_iff.mp he
    show f.kind ≠ .buttonPress
    obtain hkind | hkind := Key.kind_of_toEvent? hf
    · rw [hkind]
      decide
    · rw [hkind]
      decide

/-- When a touch makes a double click with an earlier one, the touches so far being given with the
    latest first. -/
structure MakesDouble (settings : ClickSettings) (past : List Motion) (m d : Motion) : Prop where
  /-- No touch came between the two. -/
  latest : past.head? = some d
  /-- The touch does not make a triple click instead. -/
  not_triple : ClickHistory.verdict ((m :: past).map (·.trial settings)) ≠ some .triple
  /-- The earlier touch did not make a triple click. -/
  not_behind_triple : ClickHistory.verdict (past.map (·.trial settings)) ≠ some .triple
  /-- The two are near each other. -/
  near : m.position.near settings.doubleClickDistance d.position = true
  /-- Between the two lie fewer milliseconds than the double click time, and 2³² for each time that
      the clock of events has started over. -/
  elapsed : m.millis - d.millis
    < settings.doubleClickTime.toNat + 4294967296 * (m.wraps - d.wraps)

/-- The verdict on a touch is a double click exactly if it makes one with the touch before. -/
theorem verdict_eq_double_iff {settings : ClickSettings} {past : List Motion} {m : Motion}
    (hnonneg : ∀ d ∈ m :: past, 0 ≤ d.timeNanos.toInt) :
    ClickHistory.verdict ((m :: past).map (·.trial settings)) = some .double ↔
      ∃ d, MakesDouble settings past m d := by
  rw [List.forall_mem_cons] at hnonneg
  have hjoins : ∀ d, past.head? = some d →
      ((m.trial settings).joins 1 (d.trial settings) ↔ _) := fun d hhead =>
    Motion.joins_iff settings hnonneg.1 (hnonneg.2 d (List.mem_of_head? hhead))
  have hlatest : (past.map (·.trial settings))[0]? = past.head?.map (·.trial settings) := by
    rw [← List.head?_eq_getElem?, List.head?_map]
  rw [List.map_cons, ClickHistory.verdict_eq_double_iff, hlatest]
  constructor
  · rintro ⟨hnow, hbefore, q, hq, hfollows⟩
    obtain ⟨d, hhead, rfl⟩ := Option.map_eq_some_iff.mp hq
    obtain ⟨hnear, helapsed⟩ := (hjoins d hhead).mp hfollows
    exact ⟨d, hhead, hnow, hbefore, hnear, helapsed⟩
  · rintro ⟨d, hhead, hnow, hbefore, hnear, helapsed⟩
    refine ⟨hnow, hbefore, d.trial settings, ?_, (hjoins d hhead).mpr ⟨hnear, helapsed⟩⟩
    rw [hhead, Option.map_some]

end Android

/-! ### Runs -/

namespace Intake

variable {i : Intake} {settings : ClickSettings} {past : List Android.Motion}

/-- What a run of inputs of Android keeps up: the thresholds, and a click history that remembers
    the touches so far. -/
structure Remembers (i : Intake) (settings : ClickSettings) (past : List Android.Motion) :
    Prop where
  /-- The thresholds are the given ones. -/
  settings_eq : i.settings = settings
  /-- The history keeps of the touches what it should. -/
  clicks_eq : i.clicks = .remembered (past.map (·.trial settings))

/-- A press that counts as a touch is answered by the verdict on the touch. -/
theorem Remembers.value_process (hremembers : i.Remembers settings past) {e : Event}
    {m : Android.Motion} (hpress : e.kind = .buttonPress)
    (hsame : Press.ofEvent e = .ofEvent (m.trial settings).event) :
    (i.clicks.process i.settings e).value
      = ((ClickHistory.verdict ((m :: past).map (·.trial settings))).bind
          fun k => e.withKind? k.kind,
        .remembered ((m :: past).map (·.trial settings))) := by
  have hstep : ((ClickHistory.remembered (past.map (·.trial settings))).press settings
      (.ofEvent (m.trial settings).event)) = _ :=
    ClickHistory.press_remembered (past.map (·.trial settings)) (m.trial settings)
  rw [ClickHistory.value_process_of_press _ _ hpress, hremembers.settings_eq,
    hremembers.clicks_eq, hsame, hstep]
  rfl

/-- **Step.**  An input adds its touch to those remembered, if it is one. -/
theorem Remembers.offer (hremembers : i.Remembers settings past) (c : Android.Command)
    (pointer : DeviceId) :
    (i.offer (c.event? pointer)).Remembers settings (Android.noteTouch past c) := by
  cases htouch : c.touch? with
  | some m =>
    obtain ⟨e, he, hpress, hsame⟩ := c.exists_press_of_touch? htouch pointer settings
    have hoffer : i.offer (c.event? pointer) = (i.press e).value := by
      rw [he, Intake.offer, accept, if_pos hpress]
    have hnote : Android.noteTouch past c = m :: past := by
      rw [Android.noteTouch, htouch]
      rfl
    rw [hoffer, hnote]
    refine ⟨?_, ?_⟩
    · rw [settings_press]
      exact hremembers.settings_eq
    · rw [clicks_press, hremembers.value_process hpress hsame]
  | none =>
    have hnote : Android.noteTouch past c = past := by
      rw [Android.noteTouch, htouch]
      rfl
    rw [hnote]
    cases he : c.event? pointer with
    | none => exact hremembers
    | some e =>
      have hother := c.kind_ne_of_not_touch htouch he
      have hoffer : i.offer (some e) = (i.push e).value := by
        rw [Intake.offer, accept, if_neg hother]
      rw [hoffer]
      exact ⟨hremembers.settings_eq, hremembers.clicks_eq⟩

end Intake

namespace Session

variable {δ : Type}

/-- The touch that a step is, if it is one. -/
def Command.touch? : Command δ → Option Android.Motion
  | .android c => c.touch?
  | .hub _ | .desktop _ => none

/-- Whether a step is an input of Android, or leaves the thresholds and the remembered presses alone
    whatever it is given. -/
def Command.pressesByTouch : Command δ → Bool
  | .hub (.intake c) =>
    match c with
    | .push _ | .pop | .peek | .settings => true
    | .press _ | .synthesize _ | .flush | .setSettings _ | .setTime _ | .setDistance _ => false
  | .hub (.dispatcher _) | .hub (.devices _) | .hub .deliverPending | .android _ => true
  | .desktop _ => false

/-- The touches among some steps, the latest first. -/
def touches (steps : List (Command δ)) : List Android.Motion :=
  (steps.filterMap Command.touch?).reverse

theorem touches_cons (c : Command δ) (rest : List (Command δ)) :
    touches (c :: rest) = touches rest ++ c.touch?.toList := by
  cases htouch : c.touch? with
  | none => simp [touches, List.filterMap_cons_none htouch]
  | some m => simp [touches, List.filterMap_cons_some htouch]

/-- **Step.**  If presses come by touch alone, a step adds its touch to those remembered. -/
theorem remembers_perform {s : Session δ} {settings : ClickSettings} {past : List Android.Motion}
    (hremembers : s.hub.intake.Remembers settings past) {c : Command δ}
    (htouches : c.pressesByTouch = true) :
    (s.perform c).value.2.hub.intake.Remembers settings (c.touch?.toList ++ past) := by
  have hkept : ∀ i : Intake, i.clicks = s.hub.intake.clicks → i.settings = s.hub.intake.settings →
      i.Remembers settings past := fun i hclicks hsettings =>
    ⟨hsettings.trans hremembers.settings_eq, hclicks.trans hremembers.clicks_eq⟩
  cases c with
  | hub c =>
    cases c with
    | intake c =>
      cases c with
      | push e => exact hkept _ rfl rfl
      | pop => exact hkept _ rfl rfl
      | peek => exact hremembers
      | settings => exact hremembers
      | press e => exact Bool.noConfusion htouches
      | synthesize e => exact Bool.noConfusion htouches
      | flush => exact Bool.noConfusion htouches
      | setSettings s => exact Bool.noConfusion htouches
      | setTime millis => exact Bool.noConfusion htouches
      | setDistance pixels => exact Bool.noConfusion htouches
    | dispatcher c => exact hremembers
    | devices c => exact hremembers
    | deliverPending =>
      -- A delivery empties the queue, or does nothing.
      show (s.hub.deliverPending).value.2.intake.Remembers settings past
      rw [Hub.deliverPending_eq]
      split
      · exact hkept _ rfl rfl
      · exact hremembers
  | android c =>
    rw [intake_perform_android]
    exact hremembers.offer c s.hub.devices.pointer
  | desktop c => exact Bool.noConfusion htouches

/-- **Run.**  If presses come by touch alone, the click history remembers the touches. -/
theorem remembers_run {s : Session δ} {settings : ClickSettings} {past : List Android.Motion}
    (hremembers : s.hub.intake.Remembers settings past) {steps : List (Command δ)}
    (htouches : ∀ c ∈ steps, c.pressesByTouch = true) :
    (s.run steps).value.2.hub.intake.Remembers settings (touches steps ++ past) := by
  induction steps generalizing s past with
  | nil => exact hremembers
  | cons c rest ih =>
    rw [List.forall_mem_cons] at htouches
    rw [touches_cons, List.append_assoc]
    exact ih (remembers_perform hremembers htouches.1) htouches.2

theorem touches_map_android (inputs : List Android.Command) (past : List Android.Motion) :
    touches (inputs.map .android : List (Command δ)) ++ past
      = inputs.foldl Android.noteTouch past := by
  induction inputs generalizing past with
  | nil => rfl
  | cons c rest ih =>
    rw [List.map_cons, touches_cons, List.append_assoc, List.foldl_cons, ← ih]
    rfl

/-- After inputs of Android alone the click history remembers the touches among them. -/
theorem remembers_run_android (s : Session δ) {settings : ClickSettings}
    {past : List Android.Motion} (hremembers : s.hub.intake.Remembers settings past)
    (inputs : List Android.Command) :
    (s.run (inputs.map .android)).value.2.hub.intake.Remembers settings
      (inputs.foldl Android.noteTouch past) := by
  rw [← touches_map_android]
  refine remembers_run hremembers fun c hc => ?_
  obtain ⟨input, -, rfl⟩ := List.mem_map.mp hc
  rfl

/-- A touch adds its press to the queue, and behind it the click that is the verdict on it. -/
theorem exists_appended_touch {s : Session δ} {settings : ClickSettings}
    {past : List Android.Motion} (hremembers : s.hub.intake.Remembers settings past)
    {c : Android.Command} {m : Android.Motion} (htouch : c.touch? = some m) :
    ∃ e : Event, e.kind = .buttonPress ∧
      s.appended (.android c)
        = e :: ((ClickHistory.verdict ((m :: past).map (·.trial settings))).bind
            fun k => e.withKind? k.kind).toList := by
  obtain ⟨e, he, hpress, hsame⟩ :=
    c.exists_press_of_touch? htouch s.hub.devices.pointer settings
  refine ⟨e, hpress, ?_⟩
  rw [appended_android, event?, he, Intake.offered, if_pos hpress, Intake.appended,
    hremembers.value_process hpress hsame]

/-- A touch queues a click exactly if that is the verdict on it. -/
theorem appended_click_iff_verdict {s : Session δ} {settings : ClickSettings}
    {past : List Android.Motion} (hremembers : s.hub.intake.Remembers settings past)
    {c : Android.Command} {m : Android.Motion} (htouch : c.touch? = some m) (k : Multiplicity) :
    (∃ e ∈ s.appended (.android c), e.kind = k.kind) ↔
      ClickHistory.verdict ((m :: past).map (·.trial settings)) = some k := by
  obtain ⟨e, hpress, happended⟩ := exists_appended_touch hremembers htouch
  have hother : ∀ k : Multiplicity, EventKind.buttonPress ≠ k.kind := by
    intro k
    cases k <;> decide
  rw [happended]
  cases ClickHistory.verdict ((m :: past).map (·.trial settings)) with
  | none => simp [hpress, hother]
  | some found =>
    obtain ⟨f, hf, hkind, -⟩ := ClickHistory.exists_withKind?_of_press hpress found
    rw [Option.bind_some, hf]
    cases found <;> cases k <;> simp [hpress, hkind, Multiplicity.kind]

/-- The session after some inputs of Android, under the given thresholds throughout. -/
def afterInputs (settings : ClickSettings) (inputs : List Android.Command) : Session δ :=
  ((withSettings settings).run (inputs.map .android)).value.2

/-- Whether a step adds a double click to the queue. -/
def QueuesDouble (s : Session δ) (c : Command δ) : Prop :=
  ∃ e ∈ s.appended c, e.kind = .doublePress

instance (s : Session δ) (c : Command δ) : Decidable (s.QueuesDouble c) := by
  unfold QueuesDouble
  infer_instance

/-- An input that is no touch queues no double click. -/
theorem not_queuesDouble_of_not_touch (s : Session δ) {c : Android.Command}
    (hnone : c.touch? = none) : ¬ s.QueuesDouble (.android c) := by
  rintro ⟨e, he, hdouble⟩
  rw [appended_android] at he
  cases hevent : s.event? (.android c) with
  | none =>
    rw [hevent] at he
    exact absurd he List.not_mem_nil
  | some f =>
    have hother : f.kind ≠ .buttonPress := c.kind_ne_of_not_touch hnone hevent
    rw [hevent, Intake.offered, if_neg hother, Intake.appended, List.mem_singleton] at he
    have hclick := isClick_of_event? hevent
    rw [← he, hdouble] at hclick
    exact absurd hclick (by decide)

/-- **Step.**  A session that remembers the touches so far queues a double click exactly if the next
    input is a touch that makes one with the latest of them. -/
theorem queuesDouble_iff_of_remembers {s : Session δ} {settings : ClickSettings}
    {past : List Android.Motion} (hremembers : s.hub.intake.Remembers settings past)
    {c : Android.Command} (hnonneg : ∀ d ∈ Android.noteTouch past c, 0 ≤ d.timeNanos.toInt) :
    s.QueuesDouble (.android c) ↔
      ∃ m d, c.touch? = some m ∧ Android.MakesDouble settings past m d := by
  cases htouch : c.touch? with
  | none =>
    have hnot := s.not_queuesDouble_of_not_touch htouch
    simp [hnot]
  | some m =>
    rw [Android.noteTouch, htouch] at hnonneg
    have hverdict := appended_click_iff_verdict hremembers htouch .double
    refine (hverdict.trans (Android.verdict_eq_double_iff hnonneg)).trans ?_
    constructor
    · rintro ⟨d, hmakes⟩
      exact ⟨m, d, rfl, hmakes⟩
    · rintro ⟨m', d, hm, hmakes⟩
      obtain rfl := Option.some.inj hm
      exact ⟨d, hmakes⟩

/-- **When two touches make a double click.**  After any inputs of Android under fixed thresholds,
    an input queues a double click exactly if it is a touch that makes one with the touch before it.
    So a double click keeps to the double click time as long as the clock of events does not start
    over between its touches. -/
theorem queuesDouble_iff_makesDouble (settings : ClickSettings) (inputs : List Android.Command)
    (c : Android.Command)
    (hnonneg : ∀ d ∈ Android.touches (inputs ++ [c]), 0 ≤ d.timeNanos.toInt) :
    ((afterInputs settings inputs : Session δ).QueuesDouble (.android c) ↔
      ∃ m d, c.touch? = some m ∧ Android.MakesDouble settings (Android.touches inputs) m d) ∧
    ∀ m d, c.touch? = some m → (Android.touches inputs).head? = some d → m.wraps = d.wraps →
      (afterInputs settings inputs : Session δ).QueuesDouble (.android c) →
        m.millis - d.millis < settings.doubleClickTime.toNat := by
  have hstart : (withSettings settings : Session δ).hub.intake.Remembers settings [] := ⟨rfl, rfl⟩
  have hremembers := remembers_run_android _ hstart inputs
  have htouches : Android.touches (inputs ++ [c])
      = Android.noteTouch (Android.touches inputs) c := by
    rw [Android.touches, List.foldl_append]
    rfl
  rw [htouches] at hnonneg
  have hiff := queuesDouble_iff_of_remembers hremembers hnonneg
  refine ⟨hiff, ?_⟩
  intro m d htouch hhead hwraps hdouble
  obtain ⟨m', d', htouch', hmakes⟩ := hiff.mp hdouble
  obtain rfl := Option.some.inj (htouch.symm.trans htouch')
  obtain rfl := Option.some.inj (hhead.symm.trans hmakes.latest)
  -- Without a start of the clock between the two, nothing is added to the double click time.
  have helapsed := hmakes.elapsed
  rw [hwraps] at helapsed
  omega

/-- A touch of the origin at a time in nanoseconds. -/
def touchAt (timeNanos : Int64) : Android.Motion := { timeNanos }

/-- Two touches a tenth of a second apart, in one round of the clock. -/
theorem elapsed_of_touches_in_one_round :
    (∀ d ∈ Android.touches ([.motion (touchAt 0) none] ++ [.motion (touchAt 100000000) none]),
        0 ≤ d.timeNanos.toInt) ∧
      (afterInputs {} [.motion (touchAt 0) none] : Session Unit).QueuesDouble
        (.android (.motion (touchAt 100000000) none)) ∧
      (touchAt 100000000).millis - (touchAt 0).millis
        < ({} : ClickSettings).doubleClickTime.toNat := by
  have hdouble : (afterInputs {} [.motion (touchAt 0) none] : Session Unit).QueuesDouble
      (.android (.motion (touchAt 100000000) none)) := by
    decide +kernel
  refine ⟨by decide, hdouble, ?_⟩
  exact (queuesDouble_iff_makesDouble {} [.motion (touchAt 0) none]
    (.motion (touchAt 100000000) none) (by decide)).2 _ _ rfl rfl (by decide) hdouble

/-- Two touches 49.7 days apart, with one start of the clock between them, make a double click
    all the same. -/
theorem queuesDouble_of_stale_touch :
    0 ≤ (touchAt 0).timeNanos.toInt ∧
      (touchAt 0).timeNanos.toInt ≤ (touchAt 4294967296000000).timeNanos.toInt ∧
      (Android.touches [.motion (touchAt 0) none]).head? = some (touchAt 0) ∧
      (afterInputs {} [.motion (touchAt 0) none] : Session Unit).QueuesDouble
        (.android (.motion (touchAt 4294967296000000) none)) ∧
      ¬ (touchAt 4294967296000000).millis - (touchAt 0).millis
        < ({} : ClickSettings).doubleClickTime.toNat := by
  refine ⟨by decide, by decide, rfl, ?_, by decide⟩
  decide +kernel

end Session

end EventPipeline
