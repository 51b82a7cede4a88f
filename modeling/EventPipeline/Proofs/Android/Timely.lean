import EventPipeline.Proofs.Android.Account

namespace EventPipeline

/-!
# Touches in time for a click

No click is missed: of two touches in a row that are near each other and less than the double click
time apart, the second one makes a click, unless the first one made a triple click.  This holds on
all of Android's clock, before its zero and where the clock of events starts over.

* `Android.toNat_timeOfNanos_lt` — less than the double click time stays less than that on the clock
  of events.
* `Android.Motion.joins_of_timely` — so the second touch passes the test of a double click.

What the click history has kept of the touches so far is known from `Session.remembers_run`.
-/

/-! ### Two touches -/

namespace Android

/-- Less than the double click time between two times is less than that on the clock of events, also
    where this starts over between them. -/
theorem toNat_timeOfNanos_lt {earlier later : Int64} {limit : UInt32} (hle : earlier ≤ later)
    (helapsed : later.toInt.tdiv 1000000 - earlier.toInt.tdiv 1000000 < limit.toNat) :
    (timeOfNanos later).toNat < (timeOfNanos earlier).toNat + limit.toNat := by
  have hmillis : earlier.toInt.tdiv 1000000 ≤ later.toInt.tdiv 1000000 :=
    Int.tdiv_le_tdiv (by decide) (Int64.le_iff_toInt_le.mp hle)
  have hlimit := limit.toNat_lt
  have hearlier := toNat_timeOfNanos_eq_emod earlier
  have hlater := toNat_timeOfNanos_eq_emod later
  -- The clock starts over once at most, which makes the later time only smaller.
  have hclock := emod_lt_emod_add_iff (earlier.toInt.tdiv 1000000) (later.toInt.tdiv 1000000)
    limit.toNat
  omega

namespace Motion

/-- A touch in time for a double click, and near the touch before, passes the test. -/
theorem joins_of_timely {m d : Motion} {settings : ClickSettings} (hle : d.timeNanos ≤ m.timeNanos)
    (helapsed : m.timeNanos.toInt.tdiv 1000000 - d.timeNanos.toInt.tdiv 1000000
      < settings.doubleClickTime.toNat)
    (hnear : m.position.near settings.doubleClickDistance d.position = true) :
    (m.trial settings).joins 1 (d.trial settings) := by
  obtain ⟨hx, hy⟩ := (Point.near_iff _ _ _).mp hnear
  have htime := toNat_timeOfNanos_lt hle helapsed
  rw [trial, trial, ClickHistory.Trial.joins_buttonPress, Nat.one_mul]
  exact ⟨rfl, htime, hx, hy⟩

end Motion

end Android

/-! ### Runs -/

namespace Session

variable {δ : Type}

/-- A touch adds a click behind its press exactly if there is a verdict on it. -/
theorem exists_appended_click_iff {s : Session δ} {settings : ClickSettings}
    {past : List Android.Motion} (hremembers : s.hub.intake.Remembers settings past)
    {c : Android.Command} {m : Android.Motion} (htouch : c.touch? = some m) :
    (∃ press click : Event, s.appended (.android c) = [press, click] ∧ click.IsClickOf press) ↔
      (ClickHistory.verdict ((m :: past).map (·.trial settings))).isSome = true := by
  obtain ⟨e, hpress, happended⟩ := exists_appended_touch hremembers htouch
  rw [happended]
  cases ClickHistory.verdict ((m :: past).map (·.trial settings)) with
  | none => simp
  | some k =>
    obtain ⟨f, hf, -⟩ := ClickHistory.exists_withKind?_of_press hpress k
    refine iff_of_true ⟨e, f, ?_, Event.isClickOf_of_withKind? hpress hf⟩ rfl
    rw [Option.bind_some, hf]
    rfl

/-- **No click is missed.**  Let presses come by touch alone after the start of a session, and let
    two touches come in a row: a touch `d`, steps without another one, and a touch `m`, which is
    not earlier.  If fewer milliseconds lie between the two than the double click time, as whole
    numbers that are cut off toward zero, and if they are near each other on each axis, then `m`
    adds a double or a triple click right behind its press exactly if `d` did not add a triple
    click. -/
theorem click_of_timely_touch (settings : ClickSettings) (before between : List (Command δ))
    (d m : Android.Motion) (stage stage' : Option StageId)
    (htouches : ∀ c ∈ before ++ between, c.pressesByTouch = true)
    (hbetween : ∀ c ∈ between, c.touch? = none)
    (hd : d.lowByte = 0) (hm : m.lowByte = 0) (hle : d.timeNanos ≤ m.timeNanos)
    (helapsed : m.timeNanos.toInt.tdiv 1000000 - d.timeNanos.toInt.tdiv 1000000
      < settings.doubleClickTime.toNat)
    (hx : (m.position.x.toInt - d.position.x.toInt).natAbs ≤ settings.doubleClickDistance.toNat)
    (hy : (m.position.y.toInt - d.position.y.toInt).natAbs ≤ settings.doubleClickDistance.toNat) :
    let first : Command δ := .android (.motion d stage)
    let second : Command δ := .android (.motion m stage')
    let s := ((withSettings settings : Session δ).run before).value.2
    let t := (s.run (first :: between)).value.2
    (∃ press click : Event, t.appended second = [press, click] ∧ click.IsClickOf press) ↔
      ¬ ∃ e ∈ s.appended first, e.kind = .triplePress := by
  intro first second s t
  rw [List.forall_mem_append] at htouches
  have htouch : Android.Command.touch? (.motion d stage) = some d := by
    rw [Android.Command.touch?, if_pos (d.isDown_iff.mpr hd)]
  have htouch' : Android.Command.touch? (.motion m stage') = some m := by
    rw [Android.Command.touch?, if_pos (m.isDown_iff.mpr hm)]
  -- What is remembered before the first touch, and before the second one.
  have hstart : (withSettings settings : Session δ).hub.intake.Remembers settings [] := ⟨rfl, rfl⟩
  have hs : s.hub.intake.Remembers settings (touches before) := by
    have hrun := remembers_run hstart htouches.1
    rw [List.append_nil] at hrun
    exact hrun
  have ht : t.hub.intake.Remembers settings (d :: touches before) := by
    have hnone : touches (first :: between) = [d] := by
      have hlater : touches between = [] := by
        rw [touches, List.filterMap_eq_nil_iff.mpr hbetween, List.reverse_nil]
      rw [touches_cons, hlater]
      exact congrArg Option.toList htouch
    have hlater : ∀ c ∈ first :: between, c.pressesByTouch = true :=
      List.forall_mem_cons.mpr ⟨rfl, htouches.2⟩
    have hrun := remembers_run hs hlater
    rw [hnone] at hrun
    exact hrun
  have hjoins : (m.trial settings).joins 1 (d.trial settings) :=
    Android.Motion.joins_of_timely hle helapsed ((Point.near_iff _ _ _).mpr ⟨hx, hy⟩)
  rw [exists_appended_click_iff ht htouch', List.map_cons, List.map_cons,
    ClickHistory.isSome_verdict_iff_of_joins hjoins, ← List.map_cons]
  exact not_congr (appended_click_iff_verdict hs htouch .triple).symm

/-- Two touches of the origin, one before the zero of the clock and one after it, where the clock of
    events starts over.  A delivery and the end of the first touch come between them. -/
theorem click_across_zero :
    let between : List (Command Unit) :=
      [.hub .deliverPending, .android (.motion { action := 1, timeNanos := -20000000 } none)]
    let t := ((withSettings {} : Session Unit).run
      (.android (.motion (touchAt (-100000000)) none) :: between)).value.2
    (Android.timeOfNanos 50000000).toNat < (Android.timeOfNanos (-100000000)).toNat ∧
      ∃ press click : Event,
        t.appended (.android (.motion (touchAt 50000000) none)) = [press, click] ∧
          click.IsClickOf press := by
  intro between t
  refine ⟨by decide, ?_⟩
  have hsingle : ¬ ∃ e ∈ (withSettings {} : Session Unit).appended
      (.android (.motion (touchAt (-100000000)) none)), e.kind = .triplePress := by
    decide +kernel
  exact (click_of_timely_touch {} [] between (touchAt (-100000000)) (touchAt 50000000) none none
    (by decide) (by decide) (by decide) (by decide) (by decide) (by decide) (by decide +kernel)
    (by decide +kernel)).mpr hsingle

end Session

end EventPipeline
