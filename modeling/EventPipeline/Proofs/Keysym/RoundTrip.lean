import EventPipeline.Keysym.Basic
import Mathlib.Data.List.Chain

namespace EventPipeline

namespace Keysym

/-!
# From a character to a key symbol and back

A key symbol is found for every code point, and it stands for that code point again.

* `ascending_table`, `apart_of_mem` — what the two searches rely on: the listed key symbols ascend,
  and none of them is read in another way than by the list.
* `toCodePoint_of_mem` — a listed key symbol stands for the code point it is listed with.
* `toCodePoint_ofCodePoint` — the round trip of one code point.

A code point is looked up from the start of the list and a key symbol by halving it, so the way
there and the way back agree only because of both facts about the list.
-/

/-! ### The list of key symbols -/

/-- The listed key symbols ascend strictly, so none is listed twice. -/
theorem ascending_table : Ascending table := by
  have hchain : table.toList.IsChain fun a b => a.1 < b.1 := by decide +kernel
  exact List.isChain_iff_pairwise.mp hchain

/-- What a truth value says of all entries holds of each.  As a truth value a property is decided by
    going through the list alone, whatever else can be enumerated. -/
theorem of_all_table {p : Keysym × UInt32 → Bool} (hall : table.toList.all p = true)
    {entry : Keysym × UInt32} (hmem : entry ∈ table) : p entry = true :=
  List.all_eq_true.mp hall entry (Array.mem_toList_iff.mpr hmem)

/-- What holds of every listed key symbol and its code point. -/
structure Apart (entry : Keysym × UInt32) : Prop where
  /-- The key symbol is not of Latin-1. -/
  isLatin1_eq : isLatin1 entry.1 = false
  /-- It does not hold a code point. -/
  isDirect_eq : isDirect entry.1 = false
  /-- It is not the placeholder. -/
  ne_void : entry.1 ≠ void
  /-- The code point is not the one that stands for none. -/
  code_ne_zero : entry.2 ≠ 0
  /-- The code point has two bytes and is one of a character. -/
  code_lt : entry.2 < 0xd800

/-- Every listed key symbol is read in no other way than by the list. -/
theorem apart_of_mem {entry : Keysym × UInt32} (hmem : entry ∈ table) : Apart entry := by
  have hlisted : (table.toList.all fun entry => !isLatin1 entry.1 && !isDirect entry.1 &&
      entry.1 != void && entry.2 != 0 && decide (entry.2 < 0xd800)) = true := by
    decide +kernel
  have hentry := of_all_table hlisted hmem
  simp only [Bool.and_eq_true, Bool.not_eq_true', bne_iff_ne, decide_eq_true_eq] at hentry
  obtain ⟨⟨⟨⟨hlatin, hdirect⟩, hvoid⟩, hzero⟩, hlt⟩ := hentry
  exact ⟨hlatin, hdirect, hvoid, hzero, hlt⟩

/-- A listed key symbol stands for the code point it is listed with. -/
theorem toCodePoint_of_mem {entry : Keysym × UInt32} (hmem : entry ∈ table) :
    toCodePoint entry.1 = entry.2 := by
  have hapart := apart_of_mem hmem
  have hfound : bisect? table entry.1 = some entry :=
    (bisect?_eq_some_iff ascending_table).mpr ⟨hmem, rfl⟩
  rw [toCodePoint, hapart.isLatin1_eq, hapart.isDirect_eq, if_neg Bool.false_ne_true,
    if_neg Bool.false_ne_true, hfound]
  rfl

/-! ### The round trip -/

/-- The key symbol found for a code point stands for its three lower bytes. -/
theorem toCodePoint_ofCodePoint (codePoint : UInt32) :
    toCodePoint (ofCodePoint codePoint) = lowBytes codePoint := by
  rcases ofCodePoint_cases codePoint with ⟨hlatin, hsymbol⟩ | hmem | hsymbol
  · -- A code point of Latin-1 is its own key symbol.
    have hlt : codePoint < 0x01000000 := UInt32.lt_trans (lt_of_isLatin1 hlatin) (by decide)
    rw [hsymbol, toCodePoint_of_isLatin1 hlatin, lowBytes_of_lt hlt]
  · have hcode : toCodePoint (ofCodePoint codePoint) = codePoint := toCodePoint_of_mem hmem
    have hlt : codePoint < 0x01000000 := UInt32.lt_trans (apart_of_mem hmem).code_lt (by decide)
    rw [hcode, lowBytes_of_lt hlt]
  · rw [hsymbol, toCodePoint_direct]

/-- No code point has the placeholder for its key symbol. -/
theorem ofCodePoint_ne_void (codePoint : UInt32) : ofCodePoint codePoint ≠ void := by
  rcases ofCodePoint_cases codePoint with ⟨hlatin, hsymbol⟩ | hmem | hsymbol
  · intro hvoid
    rw [hsymbol] at hvoid
    rw [hvoid] at hlatin
    exact absurd hlatin (by decide)
  · exact (apart_of_mem hmem).ne_void
  · intro hvoid
    have hdirect := isDirect_direct codePoint
    rw [← hsymbol, hvoid] at hdirect
    exact absurd hdirect (by decide)

/-- **A code point survives the way to a key symbol and back.**  Of any 32 bits the three lower
    bytes come back, so every value of three bytes does, and every character.  Therefore no two
    values of three bytes share a key symbol.  The placeholder is the key symbol of none. -/
theorem codePoint_roundTrip :
    (∀ value : UInt32, toCodePoint (ofCodePoint value) = value &&& 0x00ffffff) ∧
      (∀ value : UInt32, value < 0x01000000 → toCodePoint (ofCodePoint value) = value) ∧
      (∀ c : Char, toCodePoint (ofChar c) = c.val) ∧
      (∀ a b : UInt32, a < 0x01000000 → b < 0x01000000 → ofCodePoint a = ofCodePoint b → a = b) ∧
      ∀ value : UInt32, ofCodePoint value ≠ void := by
  have hthree : ∀ value : UInt32, value < 0x01000000 → toCodePoint (ofCodePoint value) = value := by
    intro value hlt
    rw [toCodePoint_ofCodePoint, lowBytes_of_lt hlt]
  refine ⟨toCodePoint_ofCodePoint, hthree, ?_, ?_, ofCodePoint_ne_void⟩
  · intro c
    have hmax : c.val.toNat < 0x110000 := by
      obtain hlow | ⟨-, hhigh⟩ := c.valid
      · exact Nat.lt_trans hlow (by decide)
      · exact hhigh
    exact hthree c.val (UInt32.lt_iff_toNat_lt.mpr (Nat.lt_trans hmax (by decide)))
  · intro a b ha hb hsame
    rw [← hthree a ha, hsame, hthree b hb]

end Keysym

end EventPipeline
