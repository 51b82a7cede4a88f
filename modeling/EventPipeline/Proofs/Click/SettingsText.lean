import EventPipeline.Click.SettingsFile
import EventPipeline.Proofs.Toml.Lines
import Mathlib.Data.List.Nodup

namespace EventPipeline

namespace ClickSettings

/-!
# The text of a settings file

A settings file gives a whole number to either threshold, on a line of its own.

* `Threshold` — the thresholds that there are, and the key of each.
* `document`, `table` — the settings file with the given lines, and its table.
* `InRange` — the numbers that a threshold can have.
* `linesOf` — the lines of both thresholds, as settings are written (`render_eq_document`).

If all numbers are in range, each threshold is set to its own (`parse_of_inRange`).  A single one
out of range has the whole file refused (`parse_of_not_inRange`), be it that it fits in no 64 bits,
so that the text is no document, or that it is none of 32 bits without a sign.
-/

/-- The thresholds of a double click. -/
inductive Threshold where
  /-- The greatest time between the presses. -/
  | time
  /-- The greatest distance between them. -/
  | distance
deriving DecidableEq, Repr

/-- The key of a threshold. -/
def Threshold.key : Threshold → String
  | .time => timeKey
  | .distance => distanceKey

/-- A line with the key of its threshold. -/
def keyed (line : Threshold × Int) : String × Int := (line.1.key, line.2)

/-- The settings file with a line for each of some thresholds.  The last line may go without a line
    break. -/
def document (lines : List (Threshold × Int)) (ended : Bool) : String :=
  Toml.numberDocument (lines.map keyed) ended

/-- The outermost table of that file. -/
def table (lines : List (Threshold × Int)) : Toml.Entries :=
  (lines.map keyed).map Toml.numberEntry

/-- A number of 32 bits without a sign. -/
def InRange (n : Int) : Prop := 0 ≤ n ∧ n < 4294967296

instance (n : Int) : Decidable (InRange n) :=
  inferInstanceAs (Decidable (0 ≤ n ∧ n < 4294967296))

/-! ### The table of the file -/

theorem Threshold.key_injective : Function.Injective Threshold.key := by
  intro t t' heq
  cases t <;> cases t' <;> first | rfl | exact absurd heq (by decide)

theorem Threshold.isBareKey_key (t : Threshold) : Toml.IsBareKey t.key := by
  cases t <;> exact ⟨by decide, List.all_eq_true.mp (by decide)⟩

theorem InRange.fits {n : Int} (hn : InRange n) : Toml.Fits n := by
  obtain ⟨hlow, hhigh⟩ := hn
  exact ⟨by omega, by omega⟩

section

variable {lines : List (Threshold × Int)} {t : Threshold}

/-- The table has the number of a threshold under its key. -/
theorem lookup_table : (table lines).lookup t.key = (lines.lookup t).map Toml.Item.integer := by
  induction lines with
  | nil => rfl
  | cons line rest ih =>
    have hkey : (t.key == line.1.key) = (t == line.1) := by
      rw [Bool.eq_iff_iff, beq_iff_eq, beq_iff_eq, Threshold.key_injective.eq_iff]
    obtain ⟨t', n⟩ := line
    show ((t'.key, Toml.Item.integer n) :: table rest).lookup t.key = _
    rw [List.lookup_cons, List.lookup_cons, hkey, ih]
    cases t == t' <;> rfl

/-- A line of its own gives a threshold its number. -/
theorem lookup_eq_some_of_mem (hnodup : (lines.map Prod.fst).Nodup) {n : Int}
    (hmem : (t, n) ∈ lines) : lines.lookup t = some n := by
  obtain ⟨before, after, rfl⟩ := List.append_of_mem hmem
  rw [List.lookup_eq_some_iff]
  refine ⟨before, after, rfl, ?_⟩
  intro line hline
  rw [List.map_append, List.map_cons, List.nodup_append] at hnodup
  have hne : line.1 ≠ t :=
    hnodup.2.2 line.1 (List.mem_map_of_mem hline) t List.mem_cons_self
  exact bne_iff_ne.mpr hne.symm

/-! ### What the table sets -/

/-- A threshold is set to its number, and keeps its standard without one. -/
theorem threshold_of_inRange (standard : UInt32)
    (hrange : ∀ n, lines.lookup t = some n → InRange n) :
    ∃ value, threshold (table lines) t.key standard = .ok value ∧
      (value.toNat : Int) = (lines.lookup t).getD standard.toNat := by
  rw [threshold, lookup_table]
  cases hfound : lines.lookup t with
  | none => exact ⟨standard, rfl, rfl⟩
  | some n =>
    have hn : 0 ≤ n ∧ n < 4294967296 := hrange n hfound
    refine ⟨UInt32.ofNat n.toNat, if_pos hn, ?_⟩
    rw [UInt32.toNat_ofNat_of_lt' (by show n.toNat < 4294967296; omega), Option.getD_some]
    omega

/-- A number that a threshold cannot have is reported with the key. -/
theorem threshold_of_not_inRange (standard : UInt32) {n : Int} (hfound : lines.lookup t = some n)
    (hout : ¬ InRange n) :
    threshold (table lines) t.key standard = .error (.badThreshold t.key) := by
  rw [threshold, lookup_table, hfound]
  exact if_neg hout

end

section

variable {lines : List (Threshold × Int)}

/-- A file is read as its table, unless a number does not fit in 64 bits. -/
theorem parse?_document (hnodup : (lines.map Prod.fst).Nodup) (ended : Bool) :
    Toml.parse? (document lines ended) =
      if Toml.AllFit (lines.map keyed) then some (table lines) else none := by
  have hbare : ∀ entry ∈ lines.map keyed, Toml.IsBareKey entry.1 := by
    intro entry hentry
    obtain ⟨line, -, rfl⟩ := List.mem_map.mp hentry
    exact line.1.isBareKey_key
  have hkeys : ((lines.map keyed).map Prod.fst).Nodup := by
    have hmap : (lines.map keyed).map Prod.fst = (lines.map Prod.fst).map Threshold.key := by
      rw [List.map_map, List.map_map]
      rfl
    rw [hmap]
    exact hnodup.map Threshold.key_injective
  rw [document, Toml.parse?_numberDocument hbare hkeys]
  rfl

/-- If all numbers fit in 64 bits, the table decides. -/
theorem parse_of_allFit (hnodup : (lines.map Prod.fst).Nodup)
    (hfits : Toml.AllFit (lines.map keyed)) (ended : Bool) :
    parse (document lines ended) = (ofEntries (table lines)).mapError .settingsMalformed := by
  rw [parse, parse?_document hnodup, if_pos hfits]

/-- Otherwise the text is no document. -/
theorem parse_of_not_allFit (hnodup : (lines.map Prod.fst).Nodup)
    (hfits : ¬ Toml.AllFit (lines.map keyed)) (ended : Bool) :
    parse (document lines ended) = .error (.settingsMalformed .notToml) := by
  rw [parse, parse?_document hnodup, if_neg hfits]

/-- The thresholds are read one after the other. -/
theorem ofEntries_table :
    ofEntries (table lines) =
      (threshold (table lines) (Threshold.time).key 250).bind fun time =>
        (threshold (table lines) (Threshold.distance).key 5).bind fun distance =>
          .ok (ClickSettings.mk time distance) :=
  rfl

/-- A file whose numbers are all in range sets each threshold that has a line to its number, and the
    other ones to their standard. -/
theorem parse_of_inRange (hnodup : (lines.map Prod.fst).Nodup)
    (hrange : ∀ line ∈ lines, InRange line.2) (ended : Bool) :
    ∃ s, parse (document lines ended) = .ok s ∧
      (s.doubleClickTime.toNat : Int) = (lines.lookup .time).getD 250 ∧
      (s.doubleClickDistance.toNat : Int) = (lines.lookup .distance).getD 5 := by
  have hfits : Toml.AllFit (lines.map keyed) := by
    intro entry hentry
    obtain ⟨line, hline, rfl⟩ := List.mem_map.mp hentry
    exact (hrange line hline).fits
  have hfound : ∀ t n, lines.lookup t = some n → InRange n := by
    intro t n hfound
    obtain ⟨before, after, rfl, -⟩ := List.lookup_eq_some_iff.mp hfound
    exact hrange (t, n) (List.mem_append_right before List.mem_cons_self)
  obtain ⟨time, htime, htoNat⟩ := threshold_of_inRange 250 (hfound .time)
  obtain ⟨distance, hdistance, hdistance_toNat⟩ := threshold_of_inRange 5 (hfound .distance)
  refine ⟨⟨time, distance⟩, ?_, htoNat, hdistance_toNat⟩
  have htable : ofEntries (table lines) = .ok ⟨time, distance⟩ := by
    rw [ofEntries_table, htime, hdistance]
    rfl
  rw [parse_of_allFit hnodup hfits, htable]
  rfl

/-- A number out of range fails the table, be it the first one read or not. -/
theorem ofEntries_of_not_inRange {t : Threshold} {n : Int} (hfound : lines.lookup t = some n)
    (hout : ¬ InRange n) : ∃ fault, ofEntries (table lines) = .error fault := by
  rw [ofEntries_table]
  cases t with
  | time =>
    rw [threshold_of_not_inRange 250 hfound hout]
    exact ⟨_, rfl⟩
  | distance =>
    rw [threshold_of_not_inRange 5 hfound hout]
    cases threshold (table lines) (Threshold.time).key 250 with
    | error fault => exact ⟨fault, rfl⟩
    | ok time => exact ⟨_, rfl⟩

/-- A file with a number out of range is refused as a whole. -/
theorem parse_of_not_inRange (hnodup : (lines.map Prod.fst).Nodup) {line : Threshold × Int}
    (hmem : line ∈ lines) (hout : ¬ InRange line.2) (ended : Bool) :
    ∃ fault, parse (document lines ended) = .error (.settingsMalformed fault) := by
  by_cases hfits : Toml.AllFit (lines.map keyed)
  · -- The text is a document, so the number is refused by its threshold.
    obtain ⟨fault, hfault⟩ := ofEntries_of_not_inRange (lookup_eq_some_of_mem hnodup hmem) hout
    refine ⟨fault, ?_⟩
    rw [parse_of_allFit hnodup hfits, hfault]
    rfl
  · exact ⟨.notToml, parse_of_not_allFit hnodup hfits ended⟩

end

/-! ### The file that settings are written to -/

/-- The lines of both thresholds. -/
def linesOf (s : ClickSettings) : List (Threshold × Int) :=
  [(.time, s.doubleClickTime.toNat), (.distance, s.doubleClickDistance.toNat)]

/-- The file that settings are written to has the lines of both thresholds. -/
theorem render_eq_document (s : ClickSettings) : render s = document s.linesOf true := by
  have hlines : document s.linesOf true =
      (timeKey ++ " = " ++ toString s.doubleClickTime) ++ "\n" ++
        (distanceKey ++ " = " ++ toString s.doubleClickDistance) ++ "\n" := rfl
  show timeKey ++ " = " ++ toString s.doubleClickTime ++ "\n" ++ distanceKey ++ " = " ++
    toString s.doubleClickDistance ++ "\n" = _
  rw [hlines]
  simp only [String.append_assoc]

/-- Settings are read from their own file as they are. -/
theorem parse_render (s : ClickSettings) : parse (render s) = .ok s := by
  have hrange : ∀ line ∈ s.linesOf, InRange line.2 := by
    have htime : s.doubleClickTime.toNat < 4294967296 := s.doubleClickTime.toNat_lt
    have hdistance : s.doubleClickDistance.toNat < 4294967296 := s.doubleClickDistance.toNat_lt
    intro line hline
    simp only [linesOf, List.mem_cons, List.not_mem_nil, or_false] at hline
    rcases hline with rfl | rfl
    · exact ⟨by omega, by omega⟩
    · exact ⟨by omega, by omega⟩
  have hnodup : (s.linesOf.map Prod.fst).Nodup := by
    show [Threshold.time, Threshold.distance].Nodup
    decide
  obtain ⟨s', hparse, htime, hdistance⟩ := parse_of_inRange hnodup hrange true
  have htime : (s'.doubleClickTime.toNat : Int) = s.doubleClickTime.toNat := htime
  have hdistance : (s'.doubleClickDistance.toNat : Int) = s.doubleClickDistance.toNat := hdistance
  have hsame : s' = s := by
    ext
    · omega
    · omega
  rw [render_eq_document, hparse, hsame]

/-! ### Written and read -/

/-- **Settings as text.**  Settings are read from the file that they are written to as they are.  A
    file that gives any whole numbers to either, both or none of the thresholds, in either order, is
    read if each number is one of 32 bits without a sign: then a threshold has its very number, or
    its standard if it has no line.  Otherwise the file is refused, with none of its numbers. -/
theorem parse_reads_in_range :
    (∀ s, parse (render s) = .ok s) ∧
    ∀ (lines : List (Threshold × Int)) (ended : Bool), (lines.map Prod.fst).Nodup →
      ((∀ line ∈ lines, InRange line.2) →
        ∃ s, parse (document lines ended) = .ok s ∧
          (s.doubleClickTime.toNat : Int) = (lines.lookup .time).getD 250 ∧
          (s.doubleClickDistance.toNat : Int) = (lines.lookup .distance).getD 5) ∧
      ((∃ line ∈ lines, ¬ InRange line.2) →
        ∃ fault, parse (document lines ended) = .error (.settingsMalformed fault)) := by
  refine ⟨parse_render, ?_⟩
  intro lines ended hnodup
  constructor
  · intro hrange
    exact parse_of_inRange hnodup hrange ended
  · rintro ⟨line, hmem, hout⟩
    exact parse_of_not_inRange hnodup hmem hout ended

/-- The distance alone at the greatest number of 32 bits, then both thresholds with one number more,
    and with one that fits in no 64 bits. -/
theorem parse_at_limits :
    (∃ s, parse (document [(.distance, 4294967295)] false) = .ok s ∧
      (s.doubleClickTime.toNat : Int) = 250 ∧ (s.doubleClickDistance.toNat : Int) = 4294967295) ∧
    (∃ fault, parse (document [(.distance, 7), (.time, 4294967296)] true) =
      .error (.settingsMalformed fault)) ∧
    ∃ fault, parse (document [(.time, -9223372036854775809), (.distance, 7)] true) =
      .error (.settingsMalformed fault) := by
  have hread := parse_reads_in_range.2
  refine ⟨?_, ?_, ?_⟩
  · exact (hread [(.distance, 4294967295)] false (by decide)).1 (by decide)
  · exact (hread [(.distance, 7), (.time, 4294967296)] true (by decide)).2 (by decide)
  · exact (hread [(.time, -9223372036854775809), (.distance, 7)] true (by decide)).2 (by decide)

end ClickSettings

end EventPipeline
