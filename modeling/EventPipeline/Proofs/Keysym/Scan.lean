import EventPipeline.Proofs.Keysym.RoundTrip
import Mathlib.Algebra.Group.Nat.Defs

namespace EventPipeline

/-!
# The search and the scan

The table of key symbols is searched by halves.  This file compares the search with reading the
table from its start, and the character of a key symbol with the rules in plain arithmetic.

* `bisectWithLooks` — the search by halves with a bound on its looks at the table, each of which may
  fall outside of it.
* `scan?` — the first entry with a key, read from the start of a list.
* `Keysym.byRule` — the character of a key symbol, in plain arithmetic and with a scan.

The search stays inside the table and ends after as many looks as the table can be halved
(`bisectWithLooks_eq`).  In an ascending table it finds what the scan finds (`bisect?_eq_scan?`).
-/

section

variable {κ ν : Type}

/-! ### The search, look by look -/

/-- The search among the positions from `lo` up to but not including `hi`, with no more than the
    given number of looks at the table.  It fails if it looks outside the table, or if it would need
    more looks. -/
def bisectWithLooks [LT κ] [DecidableLT κ] (table : Array (κ × ν)) (key : κ) :
    Nat → Nat → Nat → Option (Option (κ × ν))
  | 0, lo, hi => if lo < hi then none else some none
  | looks + 1, lo, hi =>
    if lo < hi then
      let mid := (lo + hi) / 2
      match table[mid]? with
      | none => none
      | some entry =>
        if key < entry.1 then bisectWithLooks table key looks lo mid
        else if entry.1 < key then bisectWithLooks table key looks (mid + 1) hi
        else some (some entry)
    else some none

/-- The search by halves never fails: it looks inside the table only, and it ends after as many
    looks as the positions can be halved. -/
theorem bisectWithLooks_eq [LT κ] [DecidableLT κ] {table : Array (κ × ν)} {key : κ} {looks : Nat}
    {lo hi : Nat} (hi_le : hi ≤ table.size) (hlooks : hi - lo < 2 ^ looks) :
    bisectWithLooks table key looks lo hi = some (bisectWithin table key lo hi hi_le) := by
  induction looks generalizing lo hi with
  | zero =>
    -- No position is left to look at.
    have hempty : ¬ lo < hi := by
      rw [Nat.pow_zero] at hlooks
      omega
    rw [bisectWithLooks, bisectWithin, if_neg hempty, dif_neg hempty]
  | succ looks ih =>
    rw [bisectWithLooks, bisectWithin]
    by_cases hlt : lo < hi
    · have hmid : (lo + hi) / 2 < table.size := by omega
      -- Either half has at most half of the positions.
      have hhalves : (lo + hi) / 2 - lo < 2 ^ looks ∧ hi - ((lo + hi) / 2 + 1) < 2 ^ looks := by
        rw [Nat.pow_succ] at hlooks
        omega
      rw [if_pos hlt, dif_pos hlt]
      simp only [Array.getElem?_eq_getElem hmid]
      by_cases hbelow : key < (table[(lo + hi) / 2]).1
      · rw [if_pos hbelow, if_pos hbelow]
        exact ih (by omega) hhalves.1
      · rw [if_neg hbelow, if_neg hbelow]
        by_cases habove : (table[(lo + hi) / 2]).1 < key
        · rw [if_pos habove, if_pos habove]
          exact ih hi_le hhalves.2
        · rw [if_neg habove, if_neg habove]
    · rw [if_neg hlt, dif_neg hlt]

/-- A whole table is searched with as many looks as its size has binary digits. -/
theorem bisectWithLooks_size [LT κ] [DecidableLT κ] (table : Array (κ × ν)) (key : κ) {looks : Nat}
    (hlooks : table.size < 2 ^ looks) :
    bisectWithLooks table key looks 0 table.size = some (bisect? table key) := by
  apply bisectWithLooks_eq
  omega

/-! ### The scan -/

/-- The first entry with the given key, read from the start of the list. -/
def scan? [DecidableEq κ] (key : κ) (entries : List (κ × ν)) : Option (κ × ν) :=
  entries.find? fun entry => entry.1 == key

variable [LT κ] [DecidableLT κ] [DecidableEq κ] [Std.Asymm (α := κ) (· < ·)]
  [Std.Trichotomous (α := κ) (· < ·)] {table : Array (κ × ν)}

omit [DecidableEq κ] in
/-- In an ascending table an entry is told from its key. -/
theorem Ascending.eq_of_key_eq (hasc : Ascending table) {entry other : κ × ν}
    (hentry : entry ∈ table) (hother : other ∈ table) (hkeys : other.1 = entry.1) :
    other = entry := by
  have hfound : bisect? table entry.1 = some entry := (bisect?_eq_some_iff hasc).mpr ⟨hentry, rfl⟩
  have hfound' : bisect? table entry.1 = some other :=
    (bisect?_eq_some_iff hasc).mpr ⟨hother, hkeys⟩
  exact Option.some.inj (hfound'.symm.trans hfound)

/-- **The search finds what the scan finds**, in every ascending table and for every key. -/
theorem bisect?_eq_scan? (hasc : Ascending table) (key : κ) :
    bisect? table key = scan? key table.toList := by
  cases hscan : scan? key table.toList with
  | none =>
    -- No entry has the key, so the search finds none.
    rw [Option.eq_none_iff_forall_ne_some]
    intro entry hfound
    obtain ⟨hmem, hkey⟩ := (bisect?_eq_some_iff hasc).mp hfound
    have hother := List.find?_eq_none.mp hscan entry (Array.mem_toList_iff.mpr hmem)
    exact hother (beq_iff_eq.mpr hkey)
  | some entry =>
    have hfound : (table.toList.find? fun entry => entry.1 == key) = some entry := hscan
    have hmem : entry ∈ table := Array.mem_toList_iff.mp (List.mem_of_find?_eq_some hfound)
    have hkey : entry.1 = key := by simpa using List.find?_some hfound
    exact (bisect?_eq_some_iff hasc).mpr ⟨hmem, hkey⟩

end

namespace Keysym

/-! ### The rules in plain arithmetic -/

/-- The code point of a key symbol by the rules: of most printable symbols of Latin-1 it is their
    number, of a symbol with the top byte `1` the rest of it, and of the others what is listed for
    them, or `0`. -/
def byRule (symbol : Keysym) : UInt32 :=
  if (0x20 ≤ symbol ∧ symbol ≤ 0x7e) ∨ (0xa0 ≤ symbol ∧ symbol ≤ 0xff) then symbol
  else if symbol.toNat / 16777216 = 1 then UInt32.ofNat (symbol.toNat % 16777216)
  else ((scan? symbol table.toList).map (·.2)).getD 0

theorem isLatin1_iff (symbol : Keysym) :
    isLatin1 symbol = true ↔
      (0x20 ≤ symbol ∧ symbol ≤ 0x7e) ∨ (0xa0 ≤ symbol ∧ symbol ≤ 0xff) := by
  simp [isLatin1]

theorem toNat_lowBytes (value : UInt32) : (lowBytes value).toNat = value.toNat % 16777216 := by
  rw [lowBytes, UInt32.toNat_and]
  exact Nat.and_two_pow_sub_one_eq_mod value.toNat 24

theorem lowBytes_lt (value : UInt32) : lowBytes value < 0x01000000 := by
  rw [UInt32.lt_iff_toNat_lt, toNat_lowBytes]
  exact Nat.mod_lt _ (by decide)

/-- A value is made up of its top byte and its lower bytes. -/
theorem toNat_topByte (value : UInt32) :
    (value &&& 0xff000000).toNat + (lowBytes value).toNat = value.toNat := by
  have hdisjoint :
      (value.toBitVec &&& 0xff000000#32) &&& (value.toBitVec &&& 0x00ffffff#32) = 0#32 := by
    rw [BitVec.and_assoc, ← BitVec.and_assoc 0xff000000#32, BitVec.and_comm 0xff000000#32,
      BitVec.and_assoc value.toBitVec, show 0xff000000#32 &&& 0x00ffffff#32 = 0#32 from rfl]
    simp
  have hsum : (value.toBitVec &&& 0xff000000#32) + (value.toBitVec &&& 0x00ffffff#32)
      = value.toBitVec := by
    rw [BitVec.add_eq_or_of_and_eq_zero _ _ hdisjoint, ← BitVec.and_or_distrib_left]
    exact BitVec.and_allOnes
  have hnat := congrArg BitVec.toNat hsum
  rw [BitVec.toNat_add_of_and_eq_zero hdisjoint] at hnat
  exact hnat

/-- A key symbol holds a code point exactly if its top byte is `1`. -/
theorem isDirect_iff (symbol : Keysym) :
    isDirect symbol = true ↔ symbol.toNat / 16777216 = 1 := by
  have hparts := toNat_topByte symbol
  have hlow := toNat_lowBytes symbol
  rw [isDirect, beq_iff_eq, ← UInt32.toNat_inj]
  show (symbol &&& 0xff000000).toNat = 16777216 ↔ _
  omega

/-- The character of a key symbol is the one by the rules. -/
theorem toCodePoint_eq_byRule (symbol : Keysym) : toCodePoint symbol = byRule symbol := by
  rw [toCodePoint, byRule]
  by_cases hlatin : isLatin1 symbol = true
  · rw [if_pos hlatin, if_pos ((isLatin1_iff symbol).mp hlatin)]
  · rw [if_neg hlatin, if_neg (mt (isLatin1_iff symbol).mpr hlatin)]
    by_cases hdirect : isDirect symbol = true
    · rw [if_pos hdirect, if_pos ((isDirect_iff symbol).mp hdirect), ← toNat_lowBytes,
        UInt32.ofNat_toNat]
    · rw [if_neg hdirect, if_neg (mt (isDirect_iff symbol).mpr hdirect),
        bisect?_eq_scan? ascending_table]

/-- A listed code point is never zero, so zero stands for no character only. -/
theorem snd_ne_zero_of_mem : ∀ entry ∈ table, entry.2 ≠ 0 :=
  fun _ hmem => (apart_of_mem hmem).code_ne_zero

/-- A key symbol that no rule of arithmetic reads stands for no character exactly if it is not
    listed. -/
theorem toCodePoint_eq_zero_iff {symbol : Keysym} (hlatin : isLatin1 symbol = false)
    (hdirect : isDirect symbol = false) :
    toCodePoint symbol = 0 ↔ ∀ entry ∈ table, entry.1 ≠ symbol := by
  constructor
  · intro hzero entry hmem hkey
    have hcode : toCodePoint symbol = entry.2 := by rw [← hkey, toCodePoint_of_mem hmem]
    exact snd_ne_zero_of_mem entry hmem (hcode.symm.trans hzero)
  · intro hnone
    have hfound : bisect? table symbol = none := by
      rw [Option.eq_none_iff_forall_ne_some]
      intro entry hfound
      obtain ⟨hmem, hkey⟩ := (bisect?_eq_some_iff ascending_table).mp hfound
      exact hnone entry hmem hkey
    rw [toCodePoint, hlatin, hdirect, if_neg Bool.false_ne_true, if_neg Bool.false_ne_true, hfound]
    rfl

/-- **A key symbol is read by the rules.**  Every key symbol stands for the character that the rules
    give in plain arithmetic and with a scan of the list.  A listed one stands for the code point of
    the one entry it has; one that is neither of Latin-1 nor holds a code point stands for none
    exactly if it is not listed.  Ten looks inside the list are enough.

    For every ascending table and every key the search by halves ends inside the table after as many
    looks as its size has binary digits, with the entry that a scan finds, or with none where a scan
    finds none. -/
theorem toCodePoint_readsByRule :
    (∀ symbol, toCodePoint symbol = byRule symbol) ∧
      (∀ entry ∈ table, toCodePoint entry.1 = entry.2 ∧ entry.2 ≠ 0 ∧
        ∀ other ∈ table, other.1 = entry.1 → other = entry) ∧
      (∀ symbol, isLatin1 symbol = false → isDirect symbol = false →
        (toCodePoint symbol = 0 ↔ ∀ entry ∈ table, entry.1 ≠ symbol)) ∧
      (∀ symbol, bisectWithLooks table symbol 10 0 table.size
        = some (scan? symbol table.toList)) ∧
      ∀ {κ ν : Type} [LT κ] [DecidableLT κ] [DecidableEq κ] [Std.Asymm (α := κ) (· < ·)]
        [Std.Trichotomous (α := κ) (· < ·)] (entries : Array (κ × ν)), Ascending entries →
        ∀ key, bisect? entries key = scan? key entries.toList ∧
          bisectWithLooks entries key (entries.size.log2 + 1) 0 entries.size
            = some (scan? key entries.toList) := by
  refine ⟨toCodePoint_eq_byRule, ?_, fun symbol => toCodePoint_eq_zero_iff, ?_, ?_⟩
  · intro entry hmem
    exact ⟨toCodePoint_of_mem hmem, snd_ne_zero_of_mem entry hmem,
      fun other hother => ascending_table.eq_of_key_eq hmem hother⟩
  · intro symbol
    have hsize : table.size = 614 := by decide +kernel
    rw [bisectWithLooks_size table symbol (by rw [hsize]; decide), bisect?_eq_scan? ascending_table]
  · intro κ ν _ _ _ _ _ entries hasc key
    have hscan := bisect?_eq_scan? hasc key
    refine ⟨hscan, ?_⟩
    rw [bisectWithLooks_size entries key Nat.lt_log2_self, hscan]

/-- The Polish L with a stroke is listed, the symbol after it is not, and a search of a table of two
    entries ends after two looks. -/
theorem readsByRule_lstroke :
    ((0x01a3, 0x0141) ∈ table ∧ toCodePoint 0x01a3 = 0x0141) ∧
      (isLatin1 0x01a4 = false ∧ isDirect 0x01a4 = false ∧ toCodePoint 0x01a4 = 0) ∧
      Ascending #[(3, 'c'), (5, 'e')] ∧
      bisectWithLooks #[(3, 'c'), (5, 'e')] 5 2 0 2 = some (some (5, 'e')) := by
  have hmem : ((0x01a3, 0x0141) : Keysym × UInt32) ∈ table := by decide +kernel
  have hnone : (table.toList.all fun entry => entry.1 != 0x01a4) = true := by decide +kernel
  have hasc : Ascending #[(3, 'c'), (5, 'e')] := by
    simp [Ascending]
  refine ⟨⟨hmem, (toCodePoint_readsByRule.2.1 _ hmem).1⟩, ⟨by decide, by decide, ?_⟩, hasc,
    (toCodePoint_readsByRule.2.2.2.2 _ hasc 5).2⟩
  refine (toCodePoint_readsByRule.2.2.1 0x01a4 (by decide) (by decide)).mpr fun entry hentry => ?_
  simpa using List.all_eq_true.mp hnone entry (Array.mem_toList_iff.mpr hentry)

end Keysym

end EventPipeline
