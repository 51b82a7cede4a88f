import EventPipeline.Click.History

namespace EventPipeline

namespace ClickHistory

/-!
# Clicks told from the presses alone

The history keeps at most two presses.  This file compares it with a reference that keeps every
press since the last reset and looks clicks up among them, with the test in whole numbers:

* `Trial` — a press together with the thresholds that were in force when it came.
* `verdict` — the click that the latest press of a list completes: a triple click with the press
  two before it, if the press between them completed a double click, and else a double click with
  the press before it, if that one completed no triple click.
* `presses`, `replies` — the presses of a run since its last reset, and the answers that the
  verdicts give.
* `remembered` — the two presses that are left of the list in the history.

`press_remembered` is the step: it shows that `remembered` is kept up by every press.  The whole
run follows by induction (`run_eq_replies`).
-/

/-! ### The reference -/

/-- A press as it was given to the history, with the thresholds in force. -/
structure Trial where
  /-- The thresholds. -/
  settings : ClickSettings
  /-- The press. -/
  event : Event
deriving DecidableEq

/-- Whether a press is close enough to an earlier one, in whole numbers: by the same button, before
    `times` double click times have passed, and within the distance on each axis. -/
def Trial.joins (times : Nat) (p q : Trial) : Prop :=
  p.event.button = q.event.button ∧
    p.event.time.toNat < q.event.time.toNat + times * p.settings.doubleClickTime.toNat ∧
    (p.event.position.x.toInt - q.event.position.x.toInt).natAbs ≤
      p.settings.doubleClickDistance.toNat ∧
    (p.event.position.y.toInt - q.event.position.y.toInt).natAbs ≤
      p.settings.doubleClickDistance.toNat

instance (times : Nat) (p q : Trial) : Decidable (p.joins times q) := by
  unfold Trial.joins
  infer_instance

/-- The test on two presses, in terms of what they carry. -/
theorem Trial.joins_buttonPress (times : Nat) (s s' : ClickSettings) (p q : ButtonData) :
    Trial.joins times ⟨s, .buttonPress p⟩ ⟨s', .buttonPress q⟩ ↔
      p.button = q.button ∧ p.time.toNat < q.time.toNat + times * s.doubleClickTime.toNat ∧
        (p.position.x.toInt - q.position.x.toInt).natAbs ≤ s.doubleClickDistance.toNat ∧
        (p.position.y.toInt - q.position.y.toInt).natAbs ≤ s.doubleClickDistance.toNat :=
  Iff.rfl

/-- The click that the first press of a list completes, each press standing before those that came
    earlier. -/
def verdict : List Trial → Option Multiplicity
  | [] => none
  | p :: past =>
    if verdict past = some .double ∧ ∃ r, past[1]? = some r ∧ p.joins 2 r then some .triple
    else if verdict past ≠ some .triple ∧ ∃ q, past[0]? = some q ∧ p.joins 1 q then some .double
    else none

/-- The presses after one more step, the latest first.  A reset forgets all of them. -/
def record (past : List Trial) : Command → List Trial
  | .process s e => if e.kind = .buttonPress then ⟨s, e⟩ :: past else past
  | .reset => []

/-- The presses of a run since its last reset, the latest first. -/
def presses (steps : List Command) : List Trial := steps.foldl record []

/-- The answer to a step after the given presses. -/
def reply (past : List Trial) : Command → Option Event
  | .process s e =>
    if e.kind = .buttonPress then (verdict (⟨s, e⟩ :: past)).bind fun m => e.withKind? m.kind
    else none
  | .reset => none

/-- The answers to the steps of a run that starts after the given presses. -/
def replies (past : List Trial) : List Command → List (Option Event)
  | [] => []
  | c :: rest => reply past c :: replies (record past c) rest

/-- A double click is completed with the press before, unless one of the two completes a triple
    click. -/
theorem verdict_eq_double_iff (p : Trial) (past : List Trial) :
    verdict (p :: past) = some .double ↔
      verdict (p :: past) ≠ some .triple ∧ verdict past ≠ some .triple ∧
        ∃ q, past[0]? = some q ∧ p.joins 1 q := by
  rw [verdict]
  by_cases htriple : verdict past = some .double ∧ ∃ r, past[1]? = some r ∧ p.joins 2 r
  · rw [if_pos htriple]
    simp
  · rw [if_neg htriple]
    by_cases hdouble : verdict past ≠ some .triple ∧ ∃ q, past[0]? = some q ∧ p.joins 1 q
    · rw [if_pos hdouble]
      simp [hdouble]
    · rw [if_neg hdouble]
      simp only [reduceCtorEq, false_iff]
      exact fun h => hdouble h.2

/-- A press in time for a double click, near the press before and by the same button, completes a
    click unless the press before completed a triple click. -/
theorem isSome_verdict_iff_of_joins {p q : Trial} {older : List Trial} (hjoins : p.joins 1 q) :
    (verdict (p :: q :: older)).isSome = true ↔ verdict (q :: older) ≠ some .triple := by
  rw [verdict]
  by_cases hlatest : verdict (q :: older) = some .triple
  · simp [hlatest]
  · -- If it is not a triple click, it is a double click.
    have hdouble : verdict (q :: older) ≠ some .triple ∧
        ∃ q', (q :: older)[0]? = some q' ∧ p.joins 1 q' := ⟨hlatest, q, rfl, hjoins⟩
    rw [if_pos hdouble]
    simp only [ne_eq, hlatest, not_false_eq_true, iff_true]
    split <;> rfl

/-- What the history keeps of the presses: the latest one, unless it completed a triple click, and
    the one before it, if both made up a double click. -/
def remembered (past : List Trial) : ClickHistory where
  latest := if verdict past = some .triple then none else past[0]?.map (Press.ofEvent ·.event)
  previous := if verdict past = some .double then past[1]?.map (Press.ofEvent ·.event) else none

/-! ### One press -/

/-- The test of the history on two presses is the one in whole numbers. -/
theorem follows_ofEvent_iff (times : Nat) (htimes : times ≤ 2) {window : UInt64} (p q : Trial)
    (hwindow : window.toNat = times * p.settings.doubleClickTime.toNat) :
    (Press.ofEvent p.event).follows (.ofEvent q.event) window
        p.settings.doubleClickDistance = true ↔
      p.joins times q :=
  Press.follows_iff _ _ times p.settings.doubleClickTime _ htimes hwindow

/-- The history finds a triple click exactly where the reference does. -/
theorem any_previous_iff (past : List Trial) (p : Trial) :
    ((remembered past).previous.any fun q => (Press.ofEvent p.event).follows q
        (2 * p.settings.doubleClickTime.toUInt64) p.settings.doubleClickDistance) = true ↔
      verdict past = some .double ∧ ∃ r, past[1]? = some r ∧ p.joins 2 r := by
  have hwindow := Press.toNat_doubled p.settings.doubleClickTime
  by_cases hdouble : verdict past = some .double
  · rw [remembered, if_pos hdouble]
    cases past[1]? with
    | none => simp
    | some r => simp [hdouble, follows_ofEvent_iff 2 (Nat.le_refl 2) p r hwindow]
  · rw [remembered, if_neg hdouble]
    simp [hdouble]

/-- The history finds a double click exactly where the reference does. -/
theorem any_latest_iff (past : List Trial) (p : Trial) :
    ((remembered past).latest.any fun q => (Press.ofEvent p.event).follows q
        p.settings.doubleClickTime.toUInt64 p.settings.doubleClickDistance) = true ↔
      verdict past ≠ some .triple ∧ ∃ q, past[0]? = some q ∧ p.joins 1 q := by
  have hwindow : p.settings.doubleClickTime.toUInt64.toNat
      = 1 * p.settings.doubleClickTime.toNat := by
    rw [UInt32.toNat_toUInt64, Nat.one_mul]
  by_cases htriple : verdict past = some .triple
  · rw [remembered, if_pos htriple]
    simp [htriple]
  · rw [remembered, if_neg htriple]
    cases past[0]? with
    | none => simp
    | some q => simp [htriple, follows_ofEvent_iff 1 (Nat.le_succ 1) p q hwindow]

/-- **Step.**  A press is answered as the reference says, and leaves behind what is remembered of
    the presses with it among them. -/
theorem press_remembered (past : List Trial) (p : Trial) :
    (remembered past).press p.settings (.ofEvent p.event)
      = (verdict (p :: past), remembered (p :: past)) := by
  by_cases htriple : verdict past = some .double ∧ ∃ r, past[1]? = some r ∧ p.joins 2 r
  · -- A triple click: the history is left empty.
    have hverdict : verdict (p :: past) = some .triple := by rw [verdict, if_pos htriple]
    rw [press, if_pos ((any_previous_iff past p).mpr htriple), hverdict, remembered, hverdict]
    rfl
  · rw [press, if_neg (mt (any_previous_iff past p).mp htriple)]
    by_cases hdouble : verdict past ≠ some .triple ∧ ∃ q, past[0]? = some q ∧ p.joins 1 q
    · have hverdict : verdict (p :: past) = some .double := by
        rw [verdict, if_neg htriple, if_pos hdouble]
      -- A double click: the press that moves to the second place is `past[0]?`, for no triple click
      -- has removed it.
      have hlatest : (remembered past).latest = past[0]?.map (Press.ofEvent ·.event) :=
        if_neg hdouble.1
      rw [if_pos ((any_latest_iff past p).mpr hdouble), hverdict, hlatest, remembered, hverdict]
      rfl
    · -- No click: the press is left alone.
      have hverdict : verdict (p :: past) = none := by
        rw [verdict, if_neg htriple, if_neg hdouble]
      rw [if_neg (mt (any_latest_iff past p).mp hdouble), hverdict, remembered, hverdict]
      rfl

/-! ### Events and runs -/

/-- An answer is of the kind that the verdict on the press names. -/
theorem map_kind_reply (past : List Trial) (s : ClickSettings) {e : Event}
    (hpress : e.kind = .buttonPress) :
    (reply past (.process s e)).map (·.kind) = (verdict (⟨s, e⟩ :: past)).map (·.kind) := by
  rw [reply, if_pos hpress]
  exact map_kind_bind_withKind? hpress _

/-- Only a single press of a button is answered. -/
theorem reply_of_kind_ne (past : List Trial) (s : ClickSettings) {e : Event}
    (hother : e.kind ≠ .buttonPress) : reply past (.process s e) = none :=
  if_neg hother

/-- An answer has everything from the press but the kind. -/
theorem eq_of_reply {past : List Trial} {s : ClickSettings} {e f : Event}
    (hreply : reply past (.process s e) = some f) :
    f.flags = e.flags ∧ f.stage = e.stage ∧ f.payload = e.payload := by
  by_cases hpress : e.kind = .buttonPress
  · rw [reply, if_pos hpress, Option.bind_eq_some_iff] at hreply
    obtain ⟨m, -, hf⟩ := hreply
    exact (Event.withKind?_eq_some_iff.mp hf).2
  · rw [reply_of_kind_ne past s hpress] at hreply
    exact absurd hreply (by simp)

/-- An event is answered as the reference says, and only a press is recorded. -/
theorem process_remembered (past : List Trial) (s : ClickSettings) (e : Event) :
    ((remembered past).process s e).value
      = (reply past (.process s e), remembered (record past (.process s e))) := by
  by_cases hpress : e.kind = .buttonPress
  · have hstep := press_remembered past ⟨s, e⟩
    rw [value_process_of_press _ s hpress, hstep, reply, if_pos hpress, record, if_pos hpress]
  · rw [process_of_kind_ne _ s hpress, reply, if_neg hpress, record, if_neg hpress]
    rfl

theorem perform_remembered (past : List Trial) (c : Command) :
    ((remembered past).perform c).value = (reply past c, remembered (record past c)) := by
  cases c with
  | process s e => exact process_remembered past s e
  | reset => rfl

/-- **Run.**  What holds of one step holds of every run. -/
theorem runAll_remembered (past : List Trial) (steps : List Command) :
    (Traced.runAll perform (remembered past) steps).value
      = (replies past steps, remembered (steps.foldl record past)) := by
  induction steps generalizing past with
  | nil => rfl
  | cons c rest ih =>
    rw [Traced.value_runAll_cons, perform_remembered]
    show (_ :: (Traced.runAll perform (remembered (record past c)) rest).value.1,
      (Traced.runAll perform (remembered (record past c)) rest).value.2) = _
    rw [ih]
    rfl

/-- A run from the empty history is one with no press recorded. -/
theorem run_eq_replies (steps : List Command) :
    (run steps).value = (replies [] steps, remembered (presses steps)) :=
  runAll_remembered [] steps

/-- **The history refines the reference.**  In every run the answers are those that the list of the
    presses gives, and the history is what is remembered of that list.  So an event that comes next
    is answered by the verdict on it if it is a press of a button, with nothing changed but its
    kind, and neither answered nor recorded if it is not.  A triple click and a reset leave the
    history empty. -/
theorem run_refines_reference (steps : List Command) :
    (run steps).value.1 = replies [] steps ∧
      (run steps).value.2 = remembered (presses steps) ∧
      (verdict (presses steps) = some .triple ∨ presses steps = [] → (run steps).value.2 = ∅) ∧
      ∀ (s : ClickSettings) (e : Event),
        (e.kind = .buttonPress →
          ((run steps).value.2.process s e).value.1.map (·.kind)
            = (verdict (⟨s, e⟩ :: presses steps)).map (·.kind)) ∧
        (∀ f, ((run steps).value.2.process s e).value.1 = some f →
          f.flags = e.flags ∧ f.stage = e.stage ∧ f.payload = e.payload) ∧
        (e.kind ≠ .buttonPress →
          ((run steps).value.2.process s e).value = (none, (run steps).value.2)) := by
  rw [run_eq_replies]
  refine ⟨rfl, rfl, ?_, fun s e => ⟨fun hpress => ?_, fun f hf => ?_, fun hother => ?_⟩⟩
  · rintro (htriple | hnone)
    · show remembered (presses steps) = ∅
      rw [remembered, htriple]
      rfl
    · show remembered (presses steps) = ∅
      rw [hnone]
      rfl
  · rw [process_remembered]
    exact map_kind_reply (presses steps) s hpress
  · rw [process_remembered] at hf
    exact eq_of_reply hf
  · rw [process_remembered, reply_of_kind_ne _ s hother, record, if_neg hother]

-- Three presses in one place make a double and then a triple click, and the fourth starts anew.
example :
    let press (time : UInt32) : Command :=
      .process {} (.buttonPress { time, button := 1 })
    replies [] [press 0, press 100, press 200, press 210]
      = [none, (Event.buttonPress { time := 100, button := 1 }).withKind? .doublePress,
          (Event.buttonPress { time := 200, button := 1 }).withKind? .triplePress, none] := by
  decide

end ClickHistory

end EventPipeline
