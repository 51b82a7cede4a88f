namespace EventPipeline

/-!
# Positions on a stage

* `Point` — a position in whole pixels.
* `Point.near` — whether two positions lie within a distance of each other on each axis.
-/

/-- A position on a stage, in whole pixels. -/
@[ext] structure Point where
  /-- The horizontal coordinate. -/
  x : Int32 := 0
  /-- The vertical coordinate. -/
  y : Int32 := 0
deriving DecidableEq, Repr

namespace Point

/-- The corner that a point without coordinates stands for. -/
def origin : Point := {}

/-- The coordinates in parentheses, parted by a comma. -/
def text (p : Point) : String := s!"({p.x.toInt}, {p.y.toInt})"

/-- Whether two coordinates differ by at most `limit`. The difference is taken in 64 bits, where
    it can neither wrap nor be the least number. -/
def axisNear (limit : UInt32) (a b : Int32) : Bool :=
  decide ((a.toInt64 - b.toInt64).abs ≤ limit.toUInt64.toInt64)

/-- Whether two points differ by at most `limit` on each axis. -/
def near (limit : UInt32) (p q : Point) : Bool :=
  axisNear limit p.x q.x && axisNear limit p.y q.y

/-! ### Distances as whole numbers -/

/-- The absolute value in 64 bits is exact but for the least number. -/
theorem toInt_abs {n : Int64} (h : -9223372036854775808 < n.toInt) :
    n.abs.toInt = n.toInt.natAbs := by
  have hlt := n.toInt_lt
  show n.toBitVec.abs.toInt = n.toBitVec.toInt.natAbs
  have h' : -9223372036854775808 < n.toBitVec.toInt := h
  have hlt' : n.toBitVec.toInt < 9223372036854775808 := hlt
  rw [BitVec.abs, BitVec.msb_eq_toInt]
  by_cases hneg : n.toBitVec.toInt < 0
  · rw [decide_eq_true hneg, if_pos rfl]
    show (-n.toBitVec).toInt = n.toBitVec.toInt.natAbs
    rw [BitVec.toInt_neg, Int.bmod_eq_of_le (by omega) (by omega)]
    omega
  · rw [decide_eq_false hneg, if_neg (by simp)]
    omega

/-- A limit keeps its value in 64 bits. -/
theorem toInt_limit (limit : UInt32) : limit.toUInt64.toInt64.toInt = limit.toNat := by
  have hlimit := limit.toNat_lt
  have hnat : limit.toUInt64.toBitVec.toNat = limit.toNat := UInt32.toNat_toUInt64 limit
  show limit.toUInt64.toBitVec.toInt = limit.toNat
  rw [BitVec.toInt_eq_toNat_of_lt (by omega), hnat]

/-- The difference of two coordinates is exact in 64 bits. -/
theorem toInt_difference (a b : Int32) : (a.toInt64 - b.toInt64).toInt = a.toInt - b.toInt := by
  have ha := a.toInt_lt
  have ha' := a.le_toInt
  have hb := b.toInt_lt
  have hb' := b.le_toInt
  rw [Int64.toInt_sub, Int32.toInt_toInt64, Int32.toInt_toInt64]
  exact Int.bmod_eq_of_le (by omega) (by omega)

/-- So is its absolute value: the difference is never the least number. -/
theorem toInt_abs_difference (a b : Int32) :
    (a.toInt64 - b.toInt64).abs.toInt = (a.toInt - b.toInt).natAbs := by
  have ha' := a.le_toInt
  have hb := b.toInt_lt
  have hleast : -9223372036854775808 < (a.toInt64 - b.toInt64).toInt := by
    rw [toInt_difference]
    omega
  rw [toInt_abs hleast, toInt_difference]

/-- Two coordinates are near exactly if their difference as whole numbers is at most `limit`. -/
theorem axisNear_iff (limit : UInt32) (a b : Int32) :
    axisNear limit a b = true ↔ (a.toInt - b.toInt).natAbs ≤ limit.toNat := by
  rw [axisNear, decide_eq_true_iff, Int64.le_iff_toInt_le, toInt_abs_difference, toInt_limit,
    Int.ofNat_le]

/-- Two points are near exactly if they are so on each axis, in whole numbers. -/
theorem near_iff (limit : UInt32) (p q : Point) :
    near limit p q = true ↔ (p.x.toInt - q.x.toInt).natAbs ≤ limit.toNat ∧
      (p.y.toInt - q.y.toInt).natAbs ≤ limit.toNat := by
  rw [near, Bool.and_eq_true, axisNear_iff, axisNear_iff]

end Point

end EventPipeline
