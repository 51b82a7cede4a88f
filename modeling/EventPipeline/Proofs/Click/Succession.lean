import EventPipeline.Proofs.Click.Reference
import Mathlib.Data.List.Induction

namespace EventPipeline

namespace ClickHistory

/-!
# Clicks in quick succession

A press that comes in time for a double click, right behind a press that completed one, completes a
triple click unless the pointer has drifted.

* `IsNear` — a press within the distance of an earlier one on each axis.
* `Command.press?` — the press that a step gives to the history.

A triple click asks for twice the time and for the button of the press two before.  Both are given
by the two steps between the three presses (`Trial.joins_two_iff`), so that only the distance is
left to decide (`verdict_of_double`).
-/

/-! ### Three presses -/

/-- Whether a press lies within the distance of an earlier one on each axis, in whole numbers. -/
def IsNear (s : ClickSettings) (p q : Event) : Prop :=
  (p.position.x.toInt - q.position.x.toInt).natAbs ≤ s.doubleClickDistance.toNat ∧
    (p.position.y.toInt - q.position.y.toInt).natAbs ≤ s.doubleClickDistance.toNat

instance (s : ClickSettings) (p q : Event) : Decidable (IsNear s p q) := by
  unfold IsNear
  infer_instance

variable {s : ClickSettings} {p q : Event} {r : Trial} {older : List Trial}

/-- Two steps in time for a double click are in time for a triple click, and by one button.  So the
    distance alone decides whether the third press joins the first. -/
theorem Trial.joins_two_iff (hpq : Trial.joins 1 ⟨s, p⟩ ⟨s, q⟩) (hqr : Trial.joins 1 ⟨s, q⟩ r) :
    Trial.joins 2 ⟨s, p⟩ r ↔ IsNear s p r.event := by
  obtain ⟨hbutton, htime, -⟩ := hpq
  obtain ⟨hbutton', htime', -⟩ := hqr
  have hwindow : p.time.toNat < r.event.time.toNat + 2 * s.doubleClickTime.toNat := by
    have hlater : p.time.toNat < q.time.toNat + 1 * s.doubleClickTime.toNat := htime
    have hearlier : q.time.toNat < r.event.time.toNat + 1 * s.doubleClickTime.toNat := htime'
    omega
  constructor
  · intro hjoins
    exact hjoins.2.2
  · intro hnear
    exact ⟨hbutton.trans hbutton', hwindow, hnear⟩

/-- **Step.**  A press in time for a double click, behind a press that completed one, completes a
    triple click if it is near the press two before, and a double click otherwise. -/
theorem verdict_of_double (hdouble : verdict (⟨s, q⟩ :: r :: older) = some .double)
    (hjoins : Trial.joins 1 ⟨s, p⟩ ⟨s, q⟩) :
    verdict (⟨s, p⟩ :: ⟨s, q⟩ :: r :: older)
      = some (if IsNear s p r.event then .triple else .double) := by
  obtain ⟨-, -, r', hr', hqr⟩ := (verdict_eq_double_iff _ _).mp hdouble
  obtain rfl := Option.some.inj hr'
  have htwo := Trial.joins_two_iff hjoins hqr
  by_cases hnear : IsNear s p r.event
  · rw [verdict, if_pos ⟨hdouble, r, rfl, htwo.mpr hnear⟩, if_pos hnear]
  · have hfar : ¬ ∃ r', (⟨s, q⟩ :: r :: older)[1]? = some r' ∧ Trial.joins 2 ⟨s, p⟩ r' := by
      rintro ⟨r', hr', hjoins'⟩
      obtain rfl := Option.some.inj hr'
      exact hnear (htwo.mp hjoins')
    have hlatest : verdict (⟨s, q⟩ :: r :: older) ≠ some .triple := by
      rw [hdouble]
      decide
    rw [verdict, if_neg (fun htriple => hfar htriple.2), if_pos ⟨hlatest, ⟨s, q⟩, rfl, hjoins⟩,
      if_neg hnear]

/-- Two double clicks follow each other only where the pointer has drifted. -/
theorem not_isNear_of_double (hdouble : verdict (⟨s, q⟩ :: r :: older) = some .double)
    (hagain : verdict (⟨s, p⟩ :: ⟨s, q⟩ :: r :: older) = some .double) :
    ¬ IsNear s p r.event := by
  intro hnear
  obtain ⟨-, -, q', hq', hjoins⟩ := (verdict_eq_double_iff _ _).mp hagain
  obtain rfl := Option.some.inj hq'
  rw [verdict_of_double hdouble hjoins, if_pos hnear] at hagain
  exact absurd hagain (by decide)

/-! ### Runs -/

/-- The press that a step gives to the history, if it gives one. -/
def Command.press? : Command → Option Event
  | .process _ e => if e.kind = .buttonPress then some e else none
  | .reset => none

/-- Steps without a press leave the recorded presses alone, unless they forget all of them. -/
theorem foldl_record_of_idle {steps : List Command} (hidle : ∀ c ∈ steps, c.press? = none)
    (past : List Trial) :
    steps.foldl record past = if Command.reset ∈ steps then [] else past := by
  induction steps generalizing past with
  | nil => simp
  | cons c rest ih =>
    rw [List.forall_mem_cons] at hidle
    rw [List.foldl_cons, ih hidle.2]
    cases c with
    | process s e =>
      have hother : e.kind ≠ .buttonPress := by
        intro hpress
        have hnone := hidle.1
        rw [Command.press?, if_pos hpress] at hnone
        exact absurd hnone (by simp)
      rw [record, if_neg hother]
      simp
    | reset => simp [record]

/-- The latest press recorded is the last one given to the history. -/
theorem getLast?_press?_of_presses {steps : List Command}
    (hpresses : presses steps = r :: older) :
    (steps.filterMap Command.press?).getLast? = some r.event := by
  induction steps using List.reverseRecOn with
  | nil => exact absurd hpresses (by simp [presses])
  | append_singleton steps c ih =>
    have hlast : presses (steps ++ [c]) = record (presses steps) c := by
      rw [presses, List.foldl_append]
      rfl
    rw [hlast] at hpresses
    rw [List.filterMap_append]
    cases c with
    | process s e =>
      rw [record] at hpresses
      by_cases hpress : e.kind = .buttonPress
      · rw [if_pos hpress] at hpresses
        obtain ⟨rfl, -⟩ := List.cons.inj hpresses
        simp [Command.press?, hpress]
      · -- An event that is no press is not recorded.
        rw [if_neg hpress] at hpresses
        simpa [Command.press?, hpress] using ih hpresses
    | reset => exact absurd hpresses (by simp [record])

/-- After a run a press is answered by the verdict on it. -/
theorem map_kind_process_run (steps : List Command) (s : ClickSettings) {e : Event}
    (hpress : e.kind = .buttonPress) :
    ((run steps).value.2.process s e).value.1.map (·.kind)
      = (verdict (⟨s, e⟩ :: presses steps)).map (·.kind) := by
  rw [run_eq_replies, process_remembered]
  exact map_kind_reply (presses steps) s hpress

theorem map_kind_eq_doublePress_iff {m? : Option Multiplicity} :
    m?.map (·.kind) = some .doublePress ↔ m? = some .double := by
  rcases m? with _ | _ | _ <;> decide

/-- A double click is reported only for a press. -/
theorem kind_eq_of_process_eq_some {h : ClickHistory} {s : ClickSettings} {e : Event}
    {kind : EventKind} (hanswer : (h.process s e).value.1.map (·.kind) = some kind) :
    e.kind = .buttonPress := by
  by_contra hother
  rw [process_of_kind_ne h s hother] at hanswer
  exact absurd hanswer (by simp)

/-- **A double click goes on as a triple click unless the pointer drifts.**  Let a press `q` have
    completed a double click after any steps, and let no other press have come since.  Before `q`
    then came a press `r`, and the next press `p` under the same thresholds is answered as
    follows.

    * If it passes the test of a double click against `q`, it completes a triple click if it is near
      `r`, and else a double click.
    * If it completes a double click, it is not near `r`.
    * If a reset has come since `q`, nothing is left of the sequence and `p` completes no click.

    All times are arbitrary. -/
theorem triple_unless_drifted (before idle : List Command) (settings : ClickSettings) (q : Event)
    (hdouble : ((run before).value.2.process settings q).value.1.map (·.kind) = some .doublePress)
    (hidle : ∀ c ∈ idle, c.press? = none) :
    ∃ r, (before.filterMap Command.press?).getLast? = some r ∧
      ∀ p : Event, p.kind = .buttonPress →
        let h := (run (before ++ .process settings q :: idle)).value.2
        let answer := (h.process settings p).value.1.map (·.kind)
        (.reset ∉ idle → Trial.joins 1 ⟨settings, p⟩ ⟨settings, q⟩ →
          answer = some (if IsNear settings p r then .triplePress else .doublePress)) ∧
        (answer = some .doublePress → ¬ IsNear settings p r) ∧
        (.reset ∈ idle → answer = none) := by
  have hq : q.kind = .buttonPress := kind_eq_of_process_eq_some hdouble
  rw [map_kind_process_run before settings hq, map_kind_eq_doublePress_iff] at hdouble
  -- A double click is completed with a press that is recorded.
  obtain ⟨r, older, hbefore⟩ : ∃ r older, presses before = r :: older := by
    obtain ⟨-, -, r, hr, -⟩ := (verdict_eq_double_iff _ _).mp hdouble
    obtain ⟨older, holder⟩ := List.head?_eq_some_iff.mp (List.head?_eq_getElem?.trans hr)
    exact ⟨r, older, holder⟩
  rw [hbefore] at hdouble
  refine ⟨r.event, getLast?_press?_of_presses hbefore, ?_⟩
  intro p hp h answer
  have hpresses : presses (before ++ .process settings q :: idle)
      = if .reset ∈ idle then [] else ⟨settings, q⟩ :: r :: older := by
    have hsplit : presses (before ++ .process settings q :: idle)
        = idle.foldl record (record (presses before) (.process settings q)) := by
      rw [presses, List.foldl_append]
      rfl
    rw [hsplit, foldl_record_of_idle hidle, record, if_pos hq, hbefore]
  have hanswer : answer = (verdict (⟨settings, p⟩ ::
      if .reset ∈ idle then [] else ⟨settings, q⟩ :: r :: older)).map (·.kind) := by
    rw [← hpresses]
    exact map_kind_process_run _ settings hp
  refine ⟨?_, ?_, ?_⟩
  · intro hkept hjoins
    rw [hanswer, if_neg hkept, verdict_of_double hdouble hjoins]
    show some (Multiplicity.kind (if IsNear settings p r.event then .triple else .double)) = _
    split <;> rfl
  · intro hagain
    rw [hanswer, map_kind_eq_doublePress_iff] at hagain
    by_cases hreset : Command.reset ∈ idle
    · rw [if_pos hreset] at hagain
      -- A single press completes no click.
      exact absurd hagain (by simp [verdict])
    · rw [if_neg hreset] at hagain
      exact not_isNear_of_double hdouble hagain
  · intro hreset
    rw [hanswer, if_pos hreset]
    simp [verdict]

/-- A press of the first button at a time and a place. -/
def pressAt (time : Timestamp) (x : Int32) : Event :=
  .buttonPress { time, button := 1, position := { x } }

/-- Of two presses that both come in time and near a double click, the one that is near the first
    press as well makes a triple click. -/
theorem triple_near_first_press :
    let double : List Command := [.process {} (pressAt 0 0), .process {} (pressAt 100 4)]
    let h := (run (double ++ [.process {} .nothing])).value.2
    (h.process {} (pressAt 200 5)).value.1.map (·.kind) = some .triplePress ∧
      (h.process {} (pressAt 200 8)).value.1.map (·.kind) = some .doublePress ∧
      ¬ IsNear {} (pressAt 200 8) (pressAt 0 0) := by
  intro double h
  obtain ⟨r, hr, hnext⟩ := triple_unless_drifted [.process {} (pressAt 0 0)]
    [.process {} .nothing] {} (pressAt 100 4) (by decide) (by decide)
  obtain rfl : pressAt 0 0 = r := Option.some.inj hr
  have hnear := (hnext (pressAt 200 5) rfl).1 (by decide) (by decide)
  have hdrifted := hnext (pressAt 200 8) rfl
  have hdouble := hdrifted.1 (by decide) (by decide)
  exact ⟨hnear, hdouble, hdrifted.2.1 hdouble⟩

end ClickHistory

end EventPipeline
