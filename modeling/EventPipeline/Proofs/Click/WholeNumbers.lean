import EventPipeline.Click.History

namespace EventPipeline

/-!
# Clicks in whole numbers

Whether a press follows an earlier one is worked out in 64 bits, from times and thresholds of 32
bits without a sign and from coordinates of 32 bits with one.  No number on the way leaves its
range, so the answer is the one in whole numbers.

* `Multiplicity.times`, `Multiplicity.window` — how many double click times a click may take, and
  that window in 64 bits.
* `Press.Within` — whether a press is close enough to an earlier one, in whole numbers.
* `Press.Exact` — every number on the way to the answer is the one in whole numbers.
* `ClickHistory.slot`, `ClickHistory.clickWithin` — the press that a click would be completed with,
  and the click that a press completes, in whole numbers.

Each number is exact by itself (`Press.numbers_exact`).  The answer for one slot follows
(`Press.any_follows_iff`), and from it the click (`ClickHistory.fst_press_eq`).
-/

namespace Multiplicity

/-- How many double click times a click may take. -/
def times : Multiplicity → Nat
  | double => 1
  | triple => 2

/-- The window of a click in 64 bits, for a double click time. -/
def window (limit : UInt32) : Multiplicity → UInt64
  | double => limit.toUInt64
  | triple => 2 * limit.toUInt64

theorem times_le (m : Multiplicity) : m.times ≤ 2 := by
  cases m <;> decide

/-- A window is exact, also if it is doubled. -/
theorem toNat_window (limit : UInt32) (m : Multiplicity) :
    (m.window limit).toNat = m.times * limit.toNat := by
  cases m with
  | double => exact (UInt32.toNat_toUInt64 limit).trans (Nat.one_mul _).symm
  | triple => exact Press.toNat_doubled limit

/-- A window and the moment at which it ends are far from the limit of 64 bits. -/
theorem add_window_lt (limit time : UInt32) (m : Multiplicity) :
    time.toNat + (m.window limit).toNat < 18446744073709551616 := by
  have htime := time.toNat_lt
  have hlimit := limit.toNat_lt
  have hbound : m.times * limit.toNat ≤ 2 * limit.toNat := Nat.mul_le_mul_right _ m.times_le
  rw [toNat_window]
  omega

end Multiplicity

/-- The greatest distance rejects no pair of points, not even opposite corners. -/
theorem Point.near_of_greatest (a b : Point) : near 0xffffffff a b = true := by
  have hax := a.x.toInt_lt
  have hax' := a.x.le_toInt
  have hay := a.y.toInt_lt
  have hay' := a.y.le_toInt
  have hbx := b.x.toInt_lt
  have hbx' := b.x.le_toInt
  have hby := b.y.toInt_lt
  have hby' := b.y.le_toInt
  have hgreatest : (0xffffffff : UInt32).toNat = 4294967295 := rfl
  rw [near_iff, hgreatest]
  constructor
  · omega
  · omega

/-! ### Two presses -/

namespace Press

/-- Whether a press is close enough to an earlier one, in whole numbers: by the same button, before
    the window has passed, and within the distance on each axis. -/
def Within (p q : Press) (window distance : Nat) : Prop :=
  p.button = q.button ∧ p.time.toNat < q.time.toNat + window ∧
    (p.position.x.toInt - q.position.x.toInt).natAbs ≤ distance ∧
    (p.position.y.toInt - q.position.y.toInt).natAbs ≤ distance

instance (p q : Press) (window distance : Nat) : Decidable (p.Within q window distance) :=
  inferInstanceAs (Decidable (_ ∧ _ ∧ _ ∧ _))

/-- Every number that is worked out to hold a press against an earlier one is the one in whole
    numbers: none leaves the range of its type. -/
structure Exact (p q : Press) (s : ClickSettings) (m : Multiplicity) : Prop where
  /-- The window, which is doubled for a triple click. -/
  window_eq : (m.window s.doubleClickTime).toNat = m.times * s.doubleClickTime.toNat
  /-- The moment at which the window ends. -/
  deadline_eq : (q.time.toUInt64 + m.window s.doubleClickTime).toNat =
    q.time.toNat + m.times * s.doubleClickTime.toNat
  /-- The distance, which gets a sign. -/
  distance_eq : s.doubleClickDistance.toUInt64.toInt64.toInt = s.doubleClickDistance.toNat
  /-- The differences of the coordinates. -/
  x_eq : (p.position.x.toInt64 - q.position.x.toInt64).toInt =
    p.position.x.toInt - q.position.x.toInt
  y_eq : (p.position.y.toInt64 - q.position.y.toInt64).toInt =
    p.position.y.toInt - q.position.y.toInt
  /-- Their absolute values. -/
  abs_x_eq : (p.position.x.toInt64 - q.position.x.toInt64).abs.toInt =
    (p.position.x.toInt - q.position.x.toInt).natAbs
  abs_y_eq : (p.position.y.toInt64 - q.position.y.toInt64).abs.toInt =
    (p.position.y.toInt - q.position.y.toInt).natAbs

variable (p q : Press) (s : ClickSettings) (m : Multiplicity)

/-- **No number leaves its range.** -/
theorem numbers_exact : p.Exact q s m where
  window_eq := m.toNat_window s.doubleClickTime
  deadline_eq := by
    have hsum : q.time.toUInt64.toNat + (m.window s.doubleClickTime).toNat <
        18446744073709551616 := by
      rw [UInt32.toNat_toUInt64]
      exact m.add_window_lt s.doubleClickTime q.time
    rw [UInt64.toNat_add, Nat.mod_eq_of_lt hsum, UInt32.toNat_toUInt64, m.toNat_window]
  distance_eq := Point.toInt_limit s.doubleClickDistance
  x_eq := Point.toInt_difference p.position.x q.position.x
  y_eq := Point.toInt_difference p.position.y q.position.y
  abs_x_eq := Point.toInt_abs_difference p.position.x q.position.x
  abs_y_eq := Point.toInt_abs_difference p.position.y q.position.y

/-- The test on two presses is the one in whole numbers. -/
theorem follows_iff_within :
    p.follows q (m.window s.doubleClickTime) s.doubleClickDistance = true ↔
      p.Within q (m.times * s.doubleClickTime.toNat) s.doubleClickDistance.toNat :=
  follows_iff p q m.times s.doubleClickTime s.doubleClickDistance m.times_le
    (m.toNat_window s.doubleClickTime)

/-- So is the test on a slot, which no press passes if the slot is empty. -/
theorem any_follows_iff (slot : Option Press) :
    (slot.any fun q => p.follows q (m.window s.doubleClickTime) s.doubleClickDistance) = true ↔
      ∃ q ∈ slot, p.Within q (m.times * s.doubleClickTime.toNat) s.doubleClickDistance.toNat := by
  rw [Option.any_eq_true]
  simp only [follows_iff_within, Option.mem_def]

/-- A window that ends beyond the last moment of the clock is open to every later press. -/
theorem inWindow_of_late
    (hlate : 4294967296 ≤ q.time.toNat + m.times * s.doubleClickTime.toNat) :
    p.inWindow q (m.window s.doubleClickTime) = true := by
  have htime := p.time.toNat_lt
  rw [inWindow_iff p q _ (m.add_window_lt s.doubleClickTime q.time), m.toNat_window]
  omega

end Press

/-! ### The click that a press completes -/

namespace ClickHistory

/-- The press that a click would be completed with. -/
def slot (h : ClickHistory) : Multiplicity → Option Press
  | .double => h.latest
  | .triple => h.previous

/-- Whether a press is close enough to the one in a slot to complete the click, in whole numbers. -/
def Reaches (h : ClickHistory) (s : ClickSettings) (p : Press) (m : Multiplicity) : Prop :=
  ∃ q ∈ h.slot m, p.Within q (m.times * s.doubleClickTime.toNat) s.doubleClickDistance.toNat

instance (h : ClickHistory) (s : ClickSettings) (p : Press) (m : Multiplicity) :
    Decidable (h.Reaches s p m) :=
  inferInstanceAs (Decidable (∃ q ∈ h.slot m, _))

/-- The click that a press completes, in whole numbers. -/
def clickWithin (h : ClickHistory) (s : ClickSettings) (p : Press) : Option Multiplicity :=
  if h.Reaches s p .triple then some .triple
  else if h.Reaches s p .double then some .double
  else none

/-- The history finds the click that there is in whole numbers. -/
theorem fst_press_eq (h : ClickHistory) (s : ClickSettings) (p : Press) :
    (h.press s p).1 = h.clickWithin s p := by
  have htriple : _ ↔ h.Reaches s p .triple := p.any_follows_iff s .triple h.previous
  have hdouble : _ ↔ h.Reaches s p .double := p.any_follows_iff s .double h.latest
  rw [press, clickWithin]
  by_cases hprevious : h.Reaches s p .triple
  · rw [if_pos hprevious]
    exact congrArg Prod.fst (if_pos (htriple.mpr hprevious))
  · rw [if_neg hprevious]
    refine (congrArg Prod.fst (if_neg (mt htriple.mp hprevious))).trans ?_
    by_cases hlatest : h.Reaches s p .double
    · rw [if_pos hlatest]
      exact congrArg Prod.fst (if_pos (hdouble.mpr hlatest))
    · rw [if_neg hlatest]
      exact congrArg Prod.fst (if_neg (mt hdouble.mp hlatest))

/-- **Clicks are told in whole numbers.**  Held against any slot, a press passes the test for a
    double click and the one for a triple click exactly if it does so in whole numbers.  No number
    on the way to that leaves its range.  So the history finds the click that there is in whole
    numbers, and reports it.

    At the limits, the greatest distance leaves the test to the time and the button, and a window
    that ends beyond the last moment of the clock does not start anew with it. -/
theorem decides_in_whole_numbers (s : ClickSettings) (p : Press) :
    (∀ (m : Multiplicity) (slot : Option Press),
      (slot.any fun q => p.follows q (m.window s.doubleClickTime) s.doubleClickDistance) = true ↔
        ∃ q ∈ slot,
          p.Within q (m.times * s.doubleClickTime.toNat) s.doubleClickDistance.toNat) ∧
      (∀ (m : Multiplicity) (q : Press), p.Exact q s m) ∧
      (∀ h : ClickHistory, (h.press s p).1 = h.clickWithin s p) ∧
      (∀ (h : ClickHistory) (e : Event), e.kind = .buttonPress →
        (h.process s e).value.1.map (·.kind) =
          (h.clickWithin s (.ofEvent e)).map (·.kind)) ∧
      (∀ (q : Press) (window : UInt64),
        p.follows q window 0xffffffff = (p.inWindow q window && p.button == q.button)) ∧
      ∀ (m : Multiplicity) (q : Press),
        4294967296 ≤ q.time.toNat + m.times * s.doubleClickTime.toNat →
          p.inWindow q (m.window s.doubleClickTime) = true := by
  refine ⟨p.any_follows_iff s, fun m q => p.numbers_exact q s m, fun h => h.fst_press_eq s p,
    fun h e hpress => ?_, fun q window => ?_, fun m q hlate => p.inWindow_of_late q s m hlate⟩
  · rw [map_kind_process h s hpress, fst_press_eq]
  · rw [Press.follows, Point.near_of_greatest, Bool.and_true]

-- The press at the last moment completes a triple click with one in the opposite corner, under the
-- greatest thresholds.
example :
    let corner : Press := ⟨0xffffffff, 1, ⟨-2147483648, -2147483648⟩⟩
    let opposite : Press := ⟨0xffffffff, 1, ⟨2147483647, 2147483647⟩⟩
    (press ⟨some corner, some corner⟩ ⟨0xffffffff, 0xffffffff⟩ opposite).1 = some .triple := by
  decide

end ClickHistory

end EventPipeline
