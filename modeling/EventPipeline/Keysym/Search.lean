namespace EventPipeline

/-!
# Searching an ascending table

* `Ascending` — pairs in strictly ascending order of their first component.
* `bisect?` — the entry with a given key, found by halving the part of the table that can still
  hold it.
* `bisect?_eq_some_iff` — in an ascending table it finds exactly what is there.
-/

variable {κ ν : Type} [LT κ] [DecidableLT κ]

/-- The keys of the table ascend strictly, so no key occurs twice. -/
def Ascending (table : Array (κ × ν)) : Prop :=
  table.toList.Pairwise fun a b => a.1 < b.1

/-- The entry with the given key among the positions from `lo` up to but not including `hi`. -/
def bisectWithin (table : Array (κ × ν)) (key : κ) (lo hi : Nat) (hi_le : hi ≤ table.size) :
    Option (κ × ν) :=
  if lo_lt : lo < hi then
    let mid := (lo + hi) / 2
    let entry := table[mid]
    if key < entry.1 then
      bisectWithin table key lo mid (by omega)
    else if entry.1 < key then
      bisectWithin table key (mid + 1) hi hi_le
    else
      some entry
  else
    none
termination_by hi - lo

/-- The entry with the given key of a table whose keys ascend. -/
def bisect? (table : Array (κ × ν)) (key : κ) : Option (κ × ν) :=
  bisectWithin table key 0 table.size (Nat.le_refl _)

/-! ### What the search finds -/

section

variable {table : Array (κ × ν)}

omit [DecidableLT κ] in
/-- Later entries of an ascending table have greater keys. -/
theorem Ascending.lt (hasc : Ascending table) {i j : Nat} (hij : i < j) (hj : j < table.size) :
    (table[i]).1 < (table[j]).1 :=
  List.pairwise_iff_getElem.mp hasc i j (Nat.lt_trans hij hj) hj hij

omit [DecidableLT κ] in
/-- Of two entries of an ascending table the one with the lesser key stands first. -/
theorem Ascending.lt_of_lt [Std.Asymm (α := κ) (· < ·)] (hasc : Ascending table) {i j : Nat}
    (hi : i < table.size) (hj : j < table.size) (hkeys : (table[i]).1 < (table[j]).1) : i < j := by
  have hnot : ¬ (table[j]).1 < (table[i]).1 := Std.Asymm.asymm _ _ hkeys
  rcases Nat.lt_trichotomy i j with hij | rfl | hji
  · exact hij
  · exact absurd hkeys hnot
  · exact absurd (hasc.lt hji hi) hnot

omit [DecidableLT κ] in
/-- In an ascending table the first entry with a property has the least key among those that have
    it. -/
theorem Ascending.eq_or_lt_of_find? (hasc : Ascending table) {p : κ × ν → Bool}
    {first entry : κ × ν} (hfirst : table.find? p = some first) (hmem : entry ∈ table)
    (hp : p entry = true) : entry = first ∨ first.1 < entry.1 := by
  rw [← Array.find?_toList, List.find?_eq_some_iff_append] at hfirst
  obtain ⟨-, before, after, hsplit, hbefore⟩ := hfirst
  rw [Ascending, hsplit] at hasc
  rw [← Array.mem_toList_iff, hsplit, List.mem_append, List.mem_cons] at hmem
  rcases hmem with hin | hsame | hin
  · -- No entry before the first has the property.
    have hnot := hbefore entry hin
    rw [hp] at hnot
    exact absurd hnot (by decide)
  · exact .inl hsame
  · have hlater := (List.pairwise_append.mp hasc).2.1
    exact .inr ((List.pairwise_cons.mp hlater).1 entry hin)

variable {key : κ} {lo hi : Nat} {hi_le : hi ≤ table.size}

/-- What is found is an entry of the table and has the key. -/
theorem mem_of_bisectWithin [Std.Trichotomous (α := κ) (· < ·)] {entry : κ × ν}
    (hfound : bisectWithin table key lo hi hi_le = some entry) :
    entry ∈ table ∧ entry.1 = key := by
  fun_induction bisectWithin table key lo hi hi_le with
  | case1 lo hi hi_le lo_lt mid middle hbelow ih => exact ih hfound
  | case2 lo hi hi_le lo_lt mid middle hnot_below habove ih => exact ih hfound
  | case3 lo hi hi_le lo_lt mid middle hnot_below hnot_above =>
    obtain rfl := Option.some.inj hfound
    exact ⟨Array.getElem_mem _, Std.Trichotomous.trichotomous _ _ hnot_above hnot_below⟩
  | case4 lo hi hi_le hempty => exact absurd hfound (by simp)

/-- An entry whose key is looked for is found, wherever among the positions it stands. -/
theorem bisectWithin_eq_getElem [Std.Asymm (α := κ) (· < ·)] (hasc : Ascending table) {i : Nat}
    (hlo : lo ≤ i) (hi_gt : i < hi) (hkey : (table[i]).1 = key) :
    bisectWithin table key lo hi hi_le = some table[i] := by
  fun_induction bisectWithin table key lo hi hi_le with
  | case1 lo hi hi_le lo_lt mid middle hbelow ih =>
    -- The key is less than that in the middle, so the entry stands before the middle.
    have hbefore : i < mid := hasc.lt_of_lt _ _ (by rw [hkey]; exact hbelow)
    exact ih hlo hbefore hkey
  | case2 lo hi hi_le lo_lt mid middle hnot_below habove ih =>
    have hafter : mid < i := hasc.lt_of_lt _ _ (by rw [hkey]; exact habove)
    exact ih hafter hi_gt hkey
  | case3 lo hi hi_le lo_lt mid middle hnot_below hnot_above =>
    -- The key is that in the middle, and no entry before or after it has the same key.
    have hmid : mid < table.size := by omega
    rcases Nat.lt_trichotomy i mid with hbefore | hsame | hafter
    · have hless := hasc.lt hbefore hmid
      rw [hkey] at hless
      exact absurd hless hnot_below
    · simp only [middle, hsame]
    · have hless := hasc.lt hafter (by omega)
      rw [hkey] at hless
      exact absurd hless hnot_above
  | case4 lo hi hi_le hempty => omega

/-- An ascending table is searched for exactly what is in it. -/
theorem bisect?_eq_some_iff [Std.Asymm (α := κ) (· < ·)] [Std.Trichotomous (α := κ) (· < ·)]
    (hasc : Ascending table) {entry : κ × ν} :
    bisect? table key = some entry ↔ entry ∈ table ∧ entry.1 = key := by
  constructor
  · exact mem_of_bisectWithin
  · rintro ⟨hmem, hkey⟩
    obtain ⟨i, hi, rfl⟩ := Array.getElem_of_mem hmem
    exact bisectWithin_eq_getElem hasc (Nat.zero_le i) hi hkey

end

end EventPipeline
