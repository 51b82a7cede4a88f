import EventPipeline.Toml.Value
import Mathlib.Data.List.TakeWhile

namespace EventPipeline

namespace Toml

/-!
# Whole numbers in base ten

A whole number is written with its decimal digits, without leading zeros, and with a minus sign if
it is negative.

* `decimal` — a whole number as it is written.
* `Fits` — the whole numbers that fit in 64 bits with a sign.

What is written is read as the number again (`unboundedInteger?_decimal`), and as nothing else: it
is no floating-point number and no date.  So a number that does not fit is refused as a value
(`ofToken_decimal`).
-/

/-- A whole number as it is written. -/
def decimal (n : Int) : List Char :=
  (if n < 0 then ['-'] else []) ++ Nat.toDigits 10 n.natAbs

/-- A whole number is shown as it is written. -/
theorem toList_toString (n : Int) : (toString n).toList = decimal n := by
  rw [Int.toString_eq_repr, Int.repr_eq_if, decimal]
  by_cases hneg : n < 0
  · rw [if_pos hneg, if_neg (by omega), String.toList_append, Nat.toList_repr,
      show (-n).toNat = n.natAbs by omega]
    rfl
  · rw [if_neg hneg, if_pos (by omega), Nat.toList_repr, show n.toNat = n.natAbs by omega]
    rfl

/-- A whole number that fits in 64 bits with a sign. -/
def Fits (n : Int) : Prop := -9223372036854775808 ≤ n ∧ n ≤ 9223372036854775807

instance (n : Int) : Decidable (Fits n) :=
  inferInstanceAs (Decidable (-9223372036854775808 ≤ n ∧ n ≤ 9223372036854775807))

/-! ### Digits -/

section

variable {c : Char} {cs : List Char}

theorem isDigit_of_mem_toDigits {n : Nat} (hc : c ∈ Nat.toDigits 10 n) : c.isDigit = true :=
  Nat.isDigit_of_mem_toDigits (by decide) (by decide) hc

/-- A character of a kind is none of the characters that are not of the kind. -/
theorem ne_of_kind {kind : Char → Bool} {d : Char} (hc : kind c = true) (hd : kind d = false) :
    c ≠ d := by
  rintro rfl
  rw [hc] at hd
  exact Bool.noConfusion hd

/-- Digits start with a digit. -/
theorem toDigits_ne_cons {n : Nat} (hc : c.isDigit = false) : Nat.toDigits 10 n ≠ c :: cs := by
  intro hcons
  have hmem : c ∈ Nat.toDigits 10 n := by
    rw [hcons]
    exact List.mem_cons_self
  exact ne_of_kind (isDigit_of_mem_toDigits hmem) hc rfl

/-- A positive number is written without a leading zero. -/
theorem exists_toDigits_eq_cons {n : Nat} (hpos : 0 < n) :
    ∃ c cs, Nat.toDigits 10 n = c :: cs ∧ c ≠ '0' := by
  induction n using Nat.strongRecOn with
  | ind n ih =>
    by_cases hsmall : n < 10
    · refine ⟨n.digitChar, [], Nat.toDigits_of_lt_base hsmall, ?_⟩
      rw [ne_eq, Nat.digitChar_eq_zero]
      omega
    · -- The last digit stands behind those of the tenth part, and there the first one is.
      obtain ⟨c, cs, htenth, hne⟩ := ih (n / 10) (by omega) (by omega)
      refine ⟨c, cs ++ [(n % 10).digitChar], ?_, hne⟩
      rw [Nat.toDigits_of_base_le (by decide) (by omega), htenth, List.cons_append]

/-- Digits without underscores between them are all digits of the number. -/
theorem separated?_of_isDigit (hne : cs ≠ []) (hdigits : ∀ c ∈ cs, c.isDigit = true) :
    separated? Char.isDigit cs = some cs := by
  induction cs with
  | nil => exact absurd rfl hne
  | cons c rest ih =>
    obtain ⟨hc, hrest⟩ := List.forall_mem_cons.mp hdigits
    cases rest with
    | nil => rw [separated?, if_pos hc]
    | cons d more =>
      have hd : d ≠ '_' := ne_of_kind (List.forall_mem_cons.mp hrest).1 (by decide)
      have hmore := ih (List.cons_ne_nil d more) hrest
      rw [separated?, if_pos hc, hmore, Option.map_some]
      · simp
      · simpa using hd

/-- The digits of a number are those of a decimal number. -/
theorem decimalDigits?_toDigits (n : Nat) :
    decimalDigits? (Nat.toDigits 10 n) = some (Nat.toDigits 10 n) := by
  rw [decimalDigits?, separated?_of_isDigit Nat.toDigits_ne_nil fun c => isDigit_of_mem_toDigits]
  split
  · -- A leading zero is refused before other digits.
    rename_i d rest hzero
    rcases Nat.eq_zero_or_pos n with rfl | hpos
    · rw [Nat.toDigits_zero] at hzero
      exact absurd hzero (by simp)
    · obtain ⟨c, cs, hcons, hne⟩ := exists_toDigits_eq_cons hpos
      rw [hcons, Option.some.injEq, List.cons.injEq] at hzero
      exact absurd hzero.1 hne
  · rfl

/-- Of digits, the number that they write is the usual one. -/
theorem foldl_digitValue (hdigits : ∀ c ∈ cs, c.isDigit = true) (start : Nat) :
    cs.foldl (fun n c => 10 * n + digitValue c) start = Nat.ofDigitChars 10 cs start := by
  induction cs generalizing start with
  | nil => rfl
  | cons c rest ih =>
    obtain ⟨hc, hrest⟩ := List.forall_mem_cons.mp hdigits
    have hvalue : digitValue c = c.toNat - '0'.toNat := if_pos hc
    rw [List.foldl_cons, ih hrest, hvalue, Nat.ofDigitChars_cons]

/-- The digits of a number write it. -/
theorem ofDigits_toDigits (n : Nat) : ofDigits 10 (Nat.toDigits 10 n) = n := by
  rw [ofDigits, foldl_digitValue fun c => isDigit_of_mem_toDigits]
  exact Nat.ofDigitChars_ten_toDigits

/-- Digits have no sign before them. -/
theorem splitSign_of_isDigit (hdigits : ∀ c ∈ cs, c.isDigit = true) :
    splitSign cs = (false, cs) := by
  unfold splitSign
  split
  · exact absurd (hdigits '-' List.mem_cons_self) (by decide)
  · exact absurd (hdigits '+' List.mem_cons_self) (by decide)
  · rfl

end

/-- The sign of a number is split off its digits. -/
theorem splitSign_decimal (n : Int) :
    splitSign (decimal n) = (decide (n < 0), Nat.toDigits 10 n.natAbs) := by
  rw [decimal]
  by_cases hneg : n < 0
  · rw [if_pos hneg, decide_eq_true hneg]
    rfl
  · rw [if_neg hneg, decide_eq_false hneg]
    exact splitSign_of_isDigit fun c => isDigit_of_mem_toDigits

/-- Nothing but digits and a minus sign stands in a whole number. -/
theorem eq_or_isDigit_of_mem_decimal {n : Int} {c : Char} (hc : c ∈ decimal n) :
    c = '-' ∨ c.isDigit = true := by
  rw [decimal, List.mem_append] at hc
  rcases hc with hsign | hdigit
  · by_cases hneg : n < 0
    · rw [if_pos hneg] at hsign
      exact .inl (List.mem_singleton.mp hsign)
    · rw [if_neg hneg] at hsign
      exact absurd hsign List.not_mem_nil
  · exact .inr (isDigit_of_mem_toDigits hdigit)

/-- The minus sign comes first. -/
theorem isDigit_of_mem_tail_decimal {n : Int} {c : Char} (hc : c ∈ (decimal n).tail) :
    c.isDigit = true := by
  rw [decimal] at hc
  by_cases hneg : n < 0
  · rw [if_pos hneg] at hc
    exact isDigit_of_mem_toDigits hc
  · rw [if_neg hneg] at hc
    exact isDigit_of_mem_toDigits (List.mem_of_mem_tail hc)

/-- A whole number starts with a minus sign or a digit. -/
theorem decimal_ne_cons {n : Int} {c : Char} {cs : List Char} (hsign : c ≠ '-')
    (hdigit : c.isDigit = false) : decimal n ≠ c :: cs := by
  intro hcons
  have hmem : c ∈ decimal n := by
    rw [hcons]
    exact List.mem_cons_self
  rcases eq_or_isDigit_of_mem_decimal hmem with rfl | hc
  · exact hsign rfl
  · exact ne_of_kind hc hdigit rfl

theorem decimal_ne_nil (n : Int) : decimal n ≠ [] := by
  rw [decimal]
  exact List.append_ne_nil_of_right_ne_nil _ Nat.toDigits_ne_nil

/-! ### What a number is read as -/

/-- A whole number is read as itself, whatever its size is. -/
theorem unboundedInteger?_decimal (n : Int) : unboundedInteger? (decimal n) = some n := by
  have hnot : ∀ c d cs, decimal n = c :: d :: cs → d.isDigit = true := by
    intro c d cs hcons
    apply isDigit_of_mem_tail_decimal (n := n)
    rw [hcons]
    exact List.mem_cons_self
  unfold unboundedInteger?
  -- The mark of another base would be a letter in the second place.
  split
  · exact absurd (hnot _ _ _ ‹_›) (by decide)
  · exact absurd (hnot _ _ _ ‹_›) (by decide)
  · exact absurd (hnot _ _ _ ‹_›) (by decide)
  · simp only [splitSign_decimal, decimalDigits?_toDigits, Option.map_some, ofDigits_toDigits,
      decide_eq_true_eq, Option.some.injEq]
    split <;> omega

/-- It is read as a value if it fits. -/
theorem integer?_decimal (n : Int) : integer? (decimal n) = if Fits n then some n else none := by
  rw [integer?, unboundedInteger?_decimal, Option.filter_some]
  simp only [Bool.and_eq_true, decide_eq_true_eq]
  rfl

/-- A number without a point or an exponent is no floating-point number. -/
theorem isFloat_decimal (n : Int) : isFloat (decimal n) = false := by
  have hpart : ∀ c ∈ Nat.toDigits 10 n.natAbs, (c.isDigit || c = '_') = true := by
    intro c hc
    rw [isDigit_of_mem_toDigits hc]
    rfl
  have hnone : significand? (Nat.toDigits 10 n.natAbs) = none := by
    have hdrop : (Nat.toDigits 10 n.natAbs).dropWhile (fun c => c.isDigit || c = '_') = [] :=
      List.dropWhile_eq_nil_iff.mpr hpart
    rw [significand?]
    simp only [hdrop]
    cases decimalDigits? _ <;> rfl
  rw [isFloat, splitSign_decimal]
  simp only [hnone]
  rw [if_neg]
  rw [Bool.or_eq_true, decide_eq_true_eq, decide_eq_true_eq]
  rintro (hinf | hnan)
  · exact toDigits_ne_cons (by decide) hinf
  · exact toDigits_ne_cons (by decide) hnan

/-- A text without a colon is no time of day. -/
theorem clockTime_eq_none {cs : List Char} (hcolon : ':' ∉ cs) : clockTime cs = none := by
  unfold clockTime
  split
  · exact absurd (by simp) hcolon
  · rfl

/-- A text with a hyphen at its front alone is no day of the calendar. -/
theorem calendarDate_eq_none {cs : List Char} (hhyphen : '-' ∉ cs.tail) :
    calendarDate cs = none := by
  unfold calendarDate
  split
  · exact absurd (by simp) hhyphen
  · rfl

theorem isDateTime_decimal (n : Int) : isDateTime (decimal n) = false := by
  have hcolon : ':' ∉ decimal n := by
    intro hmem
    rcases eq_or_isDigit_of_mem_decimal hmem with hsign | hdigit
    · exact absurd hsign (by decide)
    · exact absurd hdigit (by decide)
  have hhyphen : '-' ∉ (decimal n).tail := fun hmem =>
    absurd (isDigit_of_mem_tail_decimal hmem) (by decide)
  rw [isDateTime, isTime, clockTime_eq_none hcolon, calendarDate_eq_none hhyphen]
  rfl

/-- **A whole number as a value.**  It is the number if it fits, and refused otherwise. -/
theorem ofToken_decimal (n : Int) :
    ofToken (decimal n) = if Fits n then some (.integer n) else none := by
  rw [ofToken, if_neg (decimal_ne_cons (by decide) (by decide)),
    if_neg (decimal_ne_cons (by decide) (by decide)), integer?_decimal]
  by_cases hfits : Fits n
  · rw [if_pos hfits, if_pos hfits]
  · rw [if_neg hfits, if_neg hfits, isFloat_decimal, isDateTime_decimal]
    rfl

end Toml

end EventPipeline
