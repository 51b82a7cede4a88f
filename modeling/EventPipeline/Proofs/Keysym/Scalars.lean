import EventPipeline.Proofs.Keysym.Characters

namespace EventPipeline

namespace Keysym

/-!
# Key symbols that stand for no character of Unicode

A key symbol with the top byte `1` is read as its three lower bytes, whatever they are.  Three bytes
can hold more than the code points of Unicode, and some of these are kept for surrogates.

* `IsScalar` — the values that are characters of Unicode.
* `isStray` — the key symbols that hold three bytes which are no character.

Latin-1 and the list give characters only, so what is read off a key symbol is no character exactly
if the key symbol is a stray one (`isScalar_toCodePoint_iff`).
-/

/-! ### Characters of Unicode -/

/-- A value is a character of Unicode: a code point that is not kept for surrogates. -/
def IsScalar (value : UInt32) : Prop :=
  value ≤ 0x10ffff ∧ ¬ (0xd800 ≤ value ∧ value ≤ 0xdfff)

instance (value : UInt32) : Decidable (IsScalar value) :=
  inferInstanceAs (Decidable (value ≤ 0x10ffff ∧ ¬ (0xd800 ≤ value ∧ value ≤ 0xdfff)))

/-- The bounds are those between which a value can be turned into a character. -/
theorem isScalar_iff_isValidChar (value : UInt32) : IsScalar value ↔ value.isValidChar := by
  simp only [IsScalar, UInt32.le_iff_toNat_le, UInt32.reduceToNat]
  show _ ↔ value.toNat < 0xd800 ∨ (0xdfff < value.toNat ∧ value.toNat < 0x110000)
  omega

/-- Zero, which is read off a key symbol without a character, is a value of Unicode as well. -/
theorem isScalar_zero : IsScalar 0 := by decide

/-! ### Stray key symbols -/

/-- Whether a key symbol holds three bytes that are no character: a surrogate, or more than the last
    code point. -/
def isStray (symbol : Keysym) : Bool :=
  (0x0100d800 ≤ symbol && symbol ≤ 0x0100dfff) || (0x01110000 ≤ symbol && symbol ≤ 0x01ffffff)

theorem isStray_iff (symbol : Keysym) :
    isStray symbol = true ↔
      (0x0100d800 ≤ symbol.toNat ∧ symbol.toNat ≤ 0x0100dfff) ∨
        (0x01110000 ≤ symbol.toNat ∧ symbol.toNat ≤ 0x01ffffff) := by
  simp [isStray, UInt32.le_iff_toNat_le]

/-- A stray key symbol holds a code point, as far as its top byte tells. -/
theorem isDirect_of_isStray {symbol : Keysym} (hstray : isStray symbol = true) :
    isDirect symbol = true := by
  rw [isStray_iff] at hstray
  rw [isDirect_iff]
  omega

/-- A stray key symbol is one whose three lower bytes are no character. -/
theorem isScalar_lowBytes_iff {symbol : Keysym} (hdirect : isDirect symbol = true) :
    IsScalar (lowBytes symbol) ↔ isStray symbol = false := by
  have hlow := toNat_lowBytes symbol
  rw [isDirect_iff] at hdirect
  rw [isScalar_iff_isValidChar, ← Bool.not_eq_true, isStray_iff]
  show (lowBytes symbol).toNat < 0xd800 ∨
    (0xdfff < (lowBytes symbol).toNat ∧ (lowBytes symbol).toNat < 0x110000) ↔ _
  omega

/-- Of a key symbol that holds a code point the three lower bytes are read. -/
theorem toCodePoint_of_isDirect {symbol : Keysym} (hdirect : isDirect symbol = true) :
    toCodePoint symbol = lowBytes symbol := by
  calc toCodePoint symbol
      = toCodePoint (direct (lowBytes symbol)) := by rw [direct_lowBytes hdirect]
    _ = lowBytes (lowBytes symbol) := toCodePoint_direct _
    _ = lowBytes symbol := lowBytes_lowBytes symbol

/-- What is read off a key symbol is a character exactly if the key symbol is no stray one. -/
theorem isScalar_toCodePoint_iff (symbol : Keysym) :
    IsScalar (toCodePoint symbol) ↔ isStray symbol = false := by
  by_cases hdirect : isDirect symbol = true
  · rw [toCodePoint_of_isDirect hdirect, isScalar_lowBytes_iff hdirect]
  · -- Latin-1 and the list have no other values.
    have hplain : IsScalar (toCodePoint symbol) :=
      (isScalar_iff_isValidChar _).mpr
        (isValidChar_of_isDirect_eq_false (Bool.eq_false_iff.mpr hdirect))
    have hnot : isStray symbol = false := Bool.eq_false_iff.mpr (mt isDirect_of_isStray hdirect)
    exact iff_of_true hplain hnot

/-- Being zero is no way out: zero is read off no stray key symbol. -/
theorem eq_zero_or_isScalar_iff (value : UInt32) : value = 0 ∨ IsScalar value ↔ IsScalar value := by
  constructor
  · rintro (rfl | hscalar)
    · exact isScalar_zero
    · exact hscalar
  · exact .inr

/-- **Which key symbols stand for a character or for none.**  All do but the stray ones, which
    hold a surrogate or more than the last code point; of these the number less the marker is
    read.  The same is read off every event: zero or a character, unless the event is about a key
    with a stray symbol. -/
theorem toCodePoint_scalar_unless_stray (symbol : Keysym) (e : Event) :
    ((toCodePoint symbol = 0 ∨ IsScalar (toCodePoint symbol)) ↔ isStray symbol = false) ∧
      (isStray symbol = true → (toCodePoint symbol).toNat = symbol.toNat - 0x01000000) ∧
      ((e.keyCharacter = 0 ∨ IsScalar e.keyCharacter) ↔
        ∀ data, e.key? = some data → isStray data.symbol = false) := by
  refine ⟨?_, fun hstray => ?_, ?_⟩
  · rw [eq_zero_or_isScalar_iff, isScalar_toCodePoint_iff]
  · have hlow := toNat_lowBytes symbol
    rw [toCodePoint_of_isDirect (isDirect_of_isStray hstray), hlow]
    rw [isStray_iff] at hstray
    omega
  · rw [eq_zero_or_isScalar_iff]
    cases hkey : e.key? with
    | none =>
      have hcharacter : e.keyCharacter = 0 := by rw [Event.keyCharacter, hkey]; rfl
      rw [hcharacter]
      exact iff_of_true isScalar_zero fun data hdata => absurd hdata (Option.some_ne_none data).symm
    | some data =>
      have hcharacter : e.keyCharacter = data.symbol.toCodePoint := by
        rw [Event.keyCharacter, hkey]
        rfl
      rw [hcharacter, isScalar_toCodePoint_iff]
      simp

/-- Of the first stray key symbol a surrogate is read, also off an event, and of the last one a
    value that no code point has. -/
theorem not_isScalar_of_stray_symbols :
    (toCodePoint 0x0100d800 = 0xd800 ∧
        ¬ (toCodePoint 0x0100d800 = 0 ∨ IsScalar (toCodePoint 0x0100d800))) ∧
      (∃ e : Event, e = .keyPress { symbol := 0x0100d800 } ∧ e.keyCharacter = 0xd800 ∧
        ¬ (e.keyCharacter = 0 ∨ IsScalar e.keyCharacter)) ∧
      toCodePoint 0x01ffffff = 0xffffff ∧
        ¬ (toCodePoint 0x01ffffff = 0 ∨ IsScalar (toCodePoint 0x01ffffff)) := by
  refine ⟨by decide, ⟨_, rfl, by decide⟩, by decide⟩

end Keysym

end EventPipeline
