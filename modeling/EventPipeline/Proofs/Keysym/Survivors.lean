import EventPipeline.Proofs.Keysym.Scan
import Mathlib.Data.List.Nodup

namespace EventPipeline

/-!
# Key symbols that their characters lead back to

Several key symbols may stand for one character, but one is found for it.  This file tells which key
symbols are found again from their characters.

* `distinctFrom` — whether the numbers of a list differ, told in one pass with a set of bits.
* `Keysym.isKeypad` — the block of the keypad.

The keypad only repeats characters of other keys (`Keysym.keypad_repeats`).  Outside of it a listed
code point is listed once (`Keysym.eq_of_code_eq`), and none of Latin-1 is.  So a listed key symbol
is found again exactly if it is not of the keypad (`Keysym.ofCodePoint_of_mem`,
`Keysym.ofCodePoint_ne_of_isKeypad`).
-/

/-! ### Lists without repetition -/

/-- Whether the numbers of a list differ from each other and from those whose bits are set in
    `seen`. -/
def distinctFrom (seen : Nat) : List Nat → Bool
  | [] => true
  | n :: rest => !seen.testBit n && distinctFrom (seen ||| 1 <<< n) rest

/-- A list that passes repeats no number, and it has none that was seen before. -/
theorem nodup_of_distinctFrom {seen : Nat} {ns : List Nat} (h : distinctFrom seen ns = true) :
    ns.Nodup ∧ ∀ n ∈ ns, seen.testBit n = false := by
  induction ns generalizing seen with
  | nil => exact ⟨.nil, fun n hn => absurd hn List.not_mem_nil⟩
  | cons m rest ih =>
    rw [distinctFrom, Bool.and_eq_true, Bool.not_eq_true'] at h
    obtain ⟨hnew, hrest⟩ := h
    obtain ⟨hnodup, hunseen⟩ := ih hrest
    -- A later number is unseen after the first was marked, so it was before, and is not the first.
    have hlater : ∀ n ∈ rest, seen.testBit n = false ∧ m ≠ n := by
      intro n hn
      have hbits := hunseen n hn
      rw [Nat.testBit_or, Nat.one_shiftLeft, Nat.testBit_two_pow, Bool.or_eq_false_iff,
        decide_eq_false_iff_not] at hbits
      exact hbits
    refine ⟨List.nodup_cons.mpr ⟨fun hm => (hlater m hm).2 rfl, hnodup⟩, fun n hn => ?_⟩
    rcases List.mem_cons.mp hn with rfl | hn
    · exact hnew
    · exact (hlater n hn).1

namespace Keysym

/-! ### The keypad in the list -/

/-- Whether a key symbol is of the block of the keypad. -/
def isKeypad (symbol : Keysym) : Bool := 0xff80 ≤ symbol && symbol ≤ 0xffbd

theorem isKeypad_iff (symbol : Keysym) :
    isKeypad symbol = true ↔ 0xff80 ≤ symbol ∧ symbol ≤ 0xffbd := by
  simp [isKeypad]

/-- A character of the keypad is of Latin-1, or it is listed for a key of another block before.
    Outside of the keypad no character of Latin-1 is listed. -/
theorem keypad_repeats {entry : Keysym × UInt32} (hmem : entry ∈ table) :
    (isKeypad entry.1 = true → isLatin1 entry.2 = true ∨
      ∃ other ∈ table, other.1 < entry.1 ∧ isKeypad other.1 = false ∧ other.2 = entry.2) ∧
      (isKeypad entry.1 = false → isLatin1 entry.2 = false) := by
  have hlisted : (table.toList.all fun entry =>
      if isKeypad entry.1 then isLatin1 entry.2 || table.toList.any fun other =>
        decide (other.1 < entry.1) && !isKeypad other.1 && other.2 == entry.2
      else !isLatin1 entry.2) = true := by
    decide +kernel
  have hentry := of_all_table hlisted hmem
  constructor
  · intro hkeypad
    rw [if_pos hkeypad, Bool.or_eq_true, List.any_eq_true] at hentry
    rcases hentry with hlatin | ⟨other, hother, hearlier⟩
    · exact .inl hlatin
    · simp only [Bool.and_eq_true, decide_eq_true_eq, Bool.not_eq_true', beq_iff_eq] at hearlier
      obtain ⟨⟨hlt, hmain⟩, hcode⟩ := hearlier
      exact .inr ⟨other, Array.mem_toList_iff.mp hother, hlt, hmain, hcode⟩
  · intro hmain
    rw [hmain, if_neg Bool.false_ne_true, Bool.not_eq_true'] at hentry
    exact hentry

/-- Outside of the keypad no code point is listed twice. -/
theorem eq_of_code_eq {entry other : Keysym × UInt32} (hentry : entry ∈ table)
    (hother : other ∈ table) (hmain : isKeypad entry.1 = false) (hmain' : isKeypad other.1 = false)
    (hcode : entry.2 = other.2) : entry = other := by
  have hdistinct : distinctFrom 0
      ((table.toList.filter fun entry => !isKeypad entry.1).map (·.2.toNat)) = true := by
    decide +kernel
  have hinj := List.inj_on_of_nodup_map (nodup_of_distinctFrom hdistinct).1
  refine hinj ?_ ?_ (congrArg UInt32.toNat hcode)
  · exact List.mem_filter.mpr ⟨Array.mem_toList_iff.mpr hentry, by rw [hmain]; rfl⟩
  · exact List.mem_filter.mpr ⟨Array.mem_toList_iff.mpr hother, by rw [hmain']; rfl⟩

/-! ### The key symbol found for a code point -/

/-- For a listed code point outside of Latin-1 the least key symbol is found that is listed with
    it. -/
theorem ofCodePoint_le_of_mem {entry : Keysym × UInt32} (hmem : entry ∈ table)
    (hlatin : isLatin1 entry.2 = false) :
    (ofCodePoint entry.2, entry.2) ∈ table ∧ ofCodePoint entry.2 ≤ entry.1 := by
  have hsome : (table.find? fun other => other.2 == entry.2).isSome = true :=
    Array.find?_isSome.mpr ⟨entry, hmem, beq_self_eq_true entry.2⟩
  obtain ⟨first, hfirst⟩ := Option.isSome_iff_exists.mp hsome
  have hsymbol : ofCodePoint entry.2 = first.1 := by
    rw [ofCodePoint, hlatin, if_neg Bool.false_ne_true, hfirst]
    rfl
  have hcode := Array.find?_some hfirst
  rw [beq_iff_eq] at hcode
  rw [hsymbol]
  constructor
  · rw [← hcode]
    exact Array.mem_of_find?_eq_some hfirst
  · rcases ascending_table.eq_or_lt_of_find? hfirst hmem (beq_self_eq_true _) with rfl | hlt
    · exact UInt32.le_refl _
    · exact UInt32.le_of_lt hlt

/-- For a code point that is neither of Latin-1 nor listed, a key symbol is found that holds it. -/
theorem ofCodePoint_eq_direct {codePoint : UInt32} (hlatin : isLatin1 codePoint = false)
    (hunlisted : ∀ entry ∈ table, entry.2 ≠ codePoint) :
    ofCodePoint codePoint = direct codePoint := by
  have hnone : table.find? (fun entry => entry.2 == codePoint) = none :=
    Array.find?_eq_none.mpr fun entry hmem => by simpa using hunlisted entry hmem
  rw [ofCodePoint, hlatin, if_neg Bool.false_ne_true, hnone]
  rfl

/-- A listed key symbol outside of the keypad is found again. -/
theorem ofCodePoint_of_mem {entry : Keysym × UInt32} (hmem : entry ∈ table)
    (hmain : isKeypad entry.1 = false) : ofCodePoint entry.2 = entry.1 := by
  have hlatin := (keypad_repeats hmem).2 hmain
  obtain ⟨hfound, -⟩ := ofCodePoint_le_of_mem hmem hlatin
  by_cases hkeypad : isKeypad (ofCodePoint entry.2) = true
  · -- Had one of the keypad been found, another with the code point would come before it.
    rcases (keypad_repeats hfound).1 hkeypad with hlatin' | ⟨other, hother, hlt, hmain', hcode⟩
    · rw [hlatin] at hlatin'
      exact absurd hlatin' Bool.false_ne_true
    · have hle := (ofCodePoint_le_of_mem hother ((keypad_repeats hother).2 hmain')).2
      rw [hcode] at hle
      exact absurd hlt (UInt32.not_lt.mpr hle)
  · have hsame := eq_of_code_eq hfound hmem (Bool.eq_false_iff.mpr hkeypad) hmain rfl
    exact congrArg Prod.fst hsame

/-- A key symbol of the keypad is not found again. -/
theorem ofCodePoint_ne_of_isKeypad {entry : Keysym × UInt32} (hmem : entry ∈ table)
    (hkeypad : isKeypad entry.1 = true) : ofCodePoint entry.2 ≠ entry.1 := by
  rcases (keypad_repeats hmem).1 hkeypad with hlatin | ⟨other, hother, -, hmain, hcode⟩
  · -- The character itself is found, and it is of Latin-1.
    intro hsame
    have hcode : entry.2 = entry.1 := by rwa [ofCodePoint, if_pos hlatin] at hsame
    rw [hcode, (apart_of_mem hmem).isLatin1_eq] at hlatin
    exact absurd hlatin Bool.false_ne_true
  · rw [← hcode, ofCodePoint_of_mem hother hmain]
    intro hsame
    rw [hsame, hkeypad] at hmain
    exact absurd hmain.symm Bool.false_ne_true

/-! ### From a key symbol to its character and back -/

/-- The character of a key symbol has three bytes at most. -/
theorem toCodePoint_lt (symbol : Keysym) : toCodePoint symbol < 0x01000000 := by
  rcases toCodePoint_cases symbol with
    ⟨hlatin, hcode⟩ | ⟨-, hcode⟩ | hmem | ⟨-, -, hcode⟩
  · rw [hcode]
    exact UInt32.lt_trans (lt_of_isLatin1 hlatin) (by decide)
  · rw [hcode]
    exact lowBytes_lt symbol
  · exact UInt32.lt_trans (apart_of_mem hmem).code_lt (by decide)
  · rw [hcode]
    decide

/-- The key symbol found for the character of a key symbol stands for that character. -/
theorem toCodePoint_ofCodePoint_toCodePoint (symbol : Keysym) :
    toCodePoint (ofCodePoint (toCodePoint symbol)) = toCodePoint symbol := by
  rw [toCodePoint_ofCodePoint, lowBytes_of_lt (toCodePoint_lt symbol)]

/-- If a key symbol that holds a code point is found again, the code point has no other. -/
theorem unlisted_of_ofCodePoint_lowBytes {symbol : Keysym} (hdirect : isDirect symbol = true)
    (hsame : ofCodePoint (lowBytes symbol) = symbol) :
    isLatin1 (lowBytes symbol) = false ∧ ∀ entry ∈ table, entry.2 ≠ lowBytes symbol := by
  have hlatin : isLatin1 (lowBytes symbol) = false := by
    rw [Bool.eq_false_iff]
    intro hlatin
    rw [ofCodePoint, if_pos hlatin] at hsame
    have hnot := isLatin1_direct (lowBytes symbol)
    rw [direct_lowBytes hdirect, ← hsame, hlatin] at hnot
    exact Bool.noConfusion hnot
  refine ⟨hlatin, fun entry hmem hcode => ?_⟩
  -- Else a listed key symbol would be found, and none of these holds a code point.
  rw [← hcode] at hlatin hsame
  obtain ⟨hfound, -⟩ := ofCodePoint_le_of_mem hmem hlatin
  have hnot := (apart_of_mem hfound).isDirect_eq
  rw [hsame, hdirect] at hnot
  exact Bool.noConfusion hnot

/-- The key symbol that holds a code point of three bytes is the marker with the code point. -/
theorem direct_of_lt {codePoint : UInt32} (hlt : codePoint < 0x01000000) :
    direct codePoint = 0x01000000 ||| codePoint := by
  rw [direct, lowBytes_of_lt hlt]
  rfl

/-- No listed code point is zero, so a key symbol of its own is found for zero. -/
theorem ofCodePoint_zero : ofCodePoint 0 = direct 0 :=
  ofCodePoint_eq_direct (by decide) snd_ne_zero_of_mem

/-- **Which key symbols their characters lead back to.**  From its character a key symbol is found
    again exactly if it is of Latin-1, if it is listed outside of the keypad, or if it holds a code
    point of three bytes that is neither of Latin-1 nor listed.  Of every key symbol, the one that
    is found stands for the same character, and is itself found again. -/
theorem ofCodePoint_toCodePoint_eq_iff :
    (∀ symbol : Keysym, ofCodePoint (toCodePoint symbol) = symbol ↔
      isLatin1 symbol = true ∨
        ((∃ codePoint, (symbol, codePoint) ∈ table) ∧ ¬ (0xff80 ≤ symbol ∧ symbol ≤ 0xffbd)) ∨
        ∃ codePoint < 0x01000000, symbol = 0x01000000 ||| codePoint ∧
          isLatin1 codePoint = false ∧ ∀ entry ∈ table, entry.2 ≠ codePoint) ∧
      ∀ symbol : Keysym,
        toCodePoint (ofCodePoint (toCodePoint symbol)) = toCodePoint symbol ∧
          ofCodePoint (toCodePoint (ofCodePoint (toCodePoint symbol)))
            = ofCodePoint (toCodePoint symbol) := by
  refine ⟨fun symbol => ⟨fun hsame => ?_, ?_⟩, fun symbol => ?_⟩
  · rcases toCodePoint_cases symbol with
      ⟨hlatin, -⟩ | ⟨hdirect, hcode⟩ | hmem | ⟨-, hdirect, hcode⟩
    · exact .inl hlatin
    · rw [hcode] at hsame
      obtain ⟨hlatin, hunlisted⟩ := unlisted_of_ofCodePoint_lowBytes hdirect hsame
      have hmade : symbol = 0x01000000 ||| lowBytes symbol := by
        rw [← direct_of_lt (lowBytes_lt symbol), direct_lowBytes hdirect]
      exact .inr (.inr ⟨lowBytes symbol, lowBytes_lt symbol, hmade, hlatin, hunlisted⟩)
    · refine .inr (.inl ⟨⟨_, hmem⟩, fun hkeypad => ?_⟩)
      exact ofCodePoint_ne_of_isKeypad hmem ((isKeypad_iff symbol).mpr hkeypad) hsame
    · -- A key symbol without a character is not the one that holds zero.
      rw [hcode, ofCodePoint_zero] at hsame
      rw [← hsame, isDirect_direct] at hdirect
      exact Bool.noConfusion hdirect
  · rintro (hlatin | ⟨⟨codePoint, hmem⟩, hmain⟩ | ⟨codePoint, hlt, rfl, hlatin, hunlisted⟩)
    · rw [toCodePoint_of_isLatin1 hlatin, ofCodePoint, if_pos hlatin]
    · have hcode : toCodePoint symbol = codePoint := toCodePoint_of_mem hmem
      rw [hcode]
      exact ofCodePoint_of_mem hmem (Bool.eq_false_iff.mpr (mt (isKeypad_iff symbol).mp hmain))
    · rw [← direct_of_lt hlt, toCodePoint_direct, lowBytes_of_lt hlt,
        ofCodePoint_eq_direct hlatin hunlisted]
  · have hkept := toCodePoint_ofCodePoint_toCodePoint symbol
    exact ⟨hkept, by rw [hkept]⟩

/-- One key symbol of each kind: of Latin-1, of a Polish letter that is listed, and of an emoji that
    is not. -/
theorem ofCodePoint_toCodePoint_of_each_kind :
    ofCodePoint (toCodePoint 0x41) = 0x41 ∧
      (((0x01a1, 0x0104) : Keysym × UInt32) ∈ table ∧
        ofCodePoint (toCodePoint 0x01a1) = 0x01a1) ∧
      ((∀ entry ∈ table, entry.2 ≠ 0x1f600) ∧
        ofCodePoint (toCodePoint 0x0101f600) = 0x0101f600) := by
  have hletter : ((0x01a1, 0x0104) : Keysym × UInt32) ∈ table :=
    List.mem_toArray.mpr List.mem_cons_self
  have hemoji : ∀ entry ∈ table, entry.2 ≠ 0x1f600 := by
    intro entry hmem hcode
    have hlt := (apart_of_mem hmem).code_lt
    rw [hcode] at hlt
    exact absurd hlt (by decide)
  obtain ⟨hfound, -⟩ := ofCodePoint_toCodePoint_eq_iff
  exact ⟨(hfound 0x41).mpr (.inl (by decide)),
    ⟨hletter, (hfound 0x01a1).mpr (.inr (.inl ⟨⟨0x0104, hletter⟩, by decide⟩))⟩,
    ⟨hemoji, (hfound 0x0101f600).mpr
      (.inr (.inr ⟨0x1f600, by decide, by decide, by decide, hemoji⟩))⟩⟩

end Keysym

end EventPipeline
