import EventPipeline.Keysym.Search
import EventPipeline.Keysym.Table

namespace EventPipeline

/-!
# Key symbols and characters

A key symbol names what is engraved on a key. Most printable Latin-1 symbols have the number of
their character, a symbol whose top byte is `1` holds a code point in its other bytes, and the
rest are listed in `Keysym.table`.

* `Keysym.toCodePoint` — the character of a key symbol, `0` if it has none.
* `Keysym.ofCodePoint` — a key symbol for a character.
-/

/-- A key symbol of the X11 numbering. -/
abbrev Keysym := UInt32

namespace Keysym

/-- Placeholder for a key without a known symbol. -/
def void : Keysym := 0x00ffffff

/-- Whether a value is both the number of a key symbol and the code point of its character. -/
def isLatin1 (value : UInt32) : Bool :=
  (0x20 ≤ value && value ≤ 0x7e) || (0xa0 ≤ value && value ≤ 0xff)

/-- The top byte of the key symbols that hold a code point. -/
def directMarker : UInt32 := 0x01000000

/-- The three lower bytes of a value. -/
def lowBytes (value : UInt32) : UInt32 := value &&& 0x00ffffff

/-- The key symbol that holds the given code point. -/
def direct (codePoint : UInt32) : Keysym := directMarker ||| lowBytes codePoint

/-- Whether a key symbol holds a code point. -/
def isDirect (symbol : Keysym) : Bool := symbol &&& 0xff000000 == directMarker

/-- The code point of the character that a key symbol stands for, `0` if there is none. -/
def toCodePoint (symbol : Keysym) : UInt32 :=
  if isLatin1 symbol then symbol
  else if isDirect symbol then lowBytes symbol
  else ((bisect? table symbol).map (·.2)).getD 0

/-- A key symbol for the character with the given code point: the least one listed, or one that
    holds the code point if none is. -/
def ofCodePoint (codePoint : UInt32) : Keysym :=
  if isLatin1 codePoint then codePoint
  else ((table.find? fun entry => entry.2 == codePoint).map (·.1)).getD (direct codePoint)

/-- The key symbol for a character. -/
def ofChar (c : Char) : Keysym := ofCodePoint c.val

/-! ### The three kinds of key symbol -/

theorem lt_of_isLatin1 {value : UInt32} (hlatin : isLatin1 value = true) : value < 0x100 := by
  simp only [isLatin1, Bool.or_eq_true, Bool.and_eq_true, decide_eq_true_eq, UInt32.le_iff_toNat_le,
    UInt32.lt_iff_toNat_lt, UInt32.reduceToNat] at hlatin ⊢
  omega

/-- A code point of three bytes is all in the lower bytes. -/
theorem lowBytes_of_lt {value : UInt32} (hlt : value < 0x01000000) : lowBytes value = value := by
  have hmask : value.toNat &&& 16777215 = value.toNat % 16777216 :=
    Nat.and_two_pow_sub_one_eq_mod value.toNat 24
  rw [UInt32.lt_iff_toNat_lt] at hlt
  apply UInt32.toNat.inj
  rw [lowBytes, UInt32.toNat_and]
  exact hmask.trans (Nat.mod_eq_of_lt hlt)

@[simp] theorem lowBytes_lowBytes (value : UInt32) :
    lowBytes (lowBytes value) = lowBytes value := by
  rw [lowBytes, lowBytes, UInt32.and_assoc]
  rfl

/-- A mask sees the marker and the lower bytes of a direct key symbol apart. -/
theorem direct_and (codePoint mask : UInt32) :
    direct codePoint &&& mask =
      (directMarker &&& mask) ||| (codePoint &&& (0x00ffffff &&& mask)) := by
  rw [direct, lowBytes, ← UInt32.toBitVec_inj]
  simp only [UInt32.toBitVec_and, UInt32.toBitVec_or, BitVec.and_or_distrib_right, BitVec.and_assoc]

theorem isDirect_direct (codePoint : UInt32) : isDirect (direct codePoint) = true := by
  rw [isDirect, beq_iff_eq, direct_and]
  show directMarker ||| (codePoint &&& 0) = directMarker
  rw [UInt32.and_zero, UInt32.or_zero]

theorem lowBytes_direct (codePoint : UInt32) :
    lowBytes (direct codePoint) = lowBytes codePoint := by
  rw [lowBytes, direct_and]
  exact UInt32.zero_or

theorem isLatin1_direct (codePoint : UInt32) : isLatin1 (direct codePoint) = false := by
  rw [Bool.eq_false_iff]
  intro hlatin
  have hlt : (direct codePoint).toNat < 256 := UInt32.lt_iff_toNat_lt.mp (lt_of_isLatin1 hlatin)
  have hmarker : directMarker.toNat = 16777216 := rfl
  have hle : directMarker.toNat ≤ (direct codePoint).toNat := by
    rw [direct, UInt32.toNat_or]
    exact Nat.left_le_or
  omega

theorem toCodePoint_of_isLatin1 {symbol : Keysym} (hlatin : isLatin1 symbol = true) :
    toCodePoint symbol = symbol :=
  if_pos hlatin

theorem toCodePoint_direct (codePoint : UInt32) :
    toCodePoint (direct codePoint) = lowBytes codePoint := by
  rw [toCodePoint, isLatin1_direct, if_neg Bool.false_ne_true, if_pos (isDirect_direct codePoint),
    lowBytes_direct]

/-- A key symbol that holds a code point is made up of the marker and the lower bytes. -/
theorem direct_lowBytes {symbol : Keysym} (hdirect : isDirect symbol = true) :
    direct (lowBytes symbol) = symbol := by
  have hmarker : symbol &&& 0xff000000 = directMarker := by
    rwa [isDirect, beq_iff_eq] at hdirect
  rw [direct, lowBytes_lowBytes, lowBytes, ← hmarker, ← UInt32.toBitVec_inj]
  simp only [UInt32.toBitVec_and, UInt32.toBitVec_or, ← BitVec.and_or_distrib_left]
  exact BitVec.and_allOnes

/-- A key symbol is its own code point, or holds it, or is listed with it, or stands for none. -/
theorem toCodePoint_cases (symbol : Keysym) :
    (isLatin1 symbol = true ∧ toCodePoint symbol = symbol) ∨
      (isDirect symbol = true ∧ toCodePoint symbol = lowBytes symbol) ∨
      (symbol, toCodePoint symbol) ∈ table ∨
      (isLatin1 symbol = false ∧ isDirect symbol = false ∧ toCodePoint symbol = 0) := by
  by_cases hlatin : isLatin1 symbol = true
  · exact .inl ⟨hlatin, if_pos hlatin⟩
  · rw [toCodePoint, if_neg hlatin]
    by_cases hdirect : isDirect symbol = true
    · exact .inr (.inl ⟨hdirect, if_pos hdirect⟩)
    · rw [if_neg hdirect]
      cases hfound : bisect? table symbol with
      | none =>
        exact .inr (.inr (.inr ⟨Bool.eq_false_iff.mpr hlatin, Bool.eq_false_iff.mpr hdirect, rfl⟩))
      | some entry =>
        obtain ⟨hmem, hkey⟩ := mem_of_bisectWithin hfound
        subst hkey
        exact .inr (.inr (.inl hmem))

/-- A key symbol for a code point is the code point itself, it is listed with the code point, or it
    holds the code point. -/
theorem ofCodePoint_cases (codePoint : UInt32) :
    (isLatin1 codePoint = true ∧ ofCodePoint codePoint = codePoint) ∨
      (ofCodePoint codePoint, codePoint) ∈ table ∨ ofCodePoint codePoint = direct codePoint := by
  by_cases hlatin : isLatin1 codePoint = true
  · exact .inl ⟨hlatin, if_pos hlatin⟩
  · rw [ofCodePoint, if_neg hlatin]
    cases hfind : table.find? fun entry => entry.2 == codePoint with
    | none => exact .inr (.inr rfl)
    | some entry =>
      have hcode := Array.find?_some hfind
      have hmem := Array.mem_of_find?_eq_some hfind
      rw [beq_iff_eq] at hcode
      subst hcode
      exact .inr (.inl hmem)

end Keysym

end EventPipeline
