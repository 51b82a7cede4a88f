import EventPipeline.Proofs.Device.Lookup
import Mathlib.Data.List.Nodup

namespace EventPipeline

/-!
# Well-formed arenas

* `Arena.WellFormed` — the vacated handles are those of the vacant slots, one for each, and no
  slot is numbered beyond the capacity.

A new value goes to a vacant slot (`Arena.WellFormed.occupant?_insert`), so an insertion is seen
under the new handle alone (`Arena.WellFormed.get?_insert`).  Insertions, removals and changes of
one slot keep an arena well formed (`Arena.WellFormed.place`).  Its list of values has each value
once, under the handle that names it (`Arena.WellFormed.mem_toList_iff`,
`Arena.WellFormed.nodup_toList`).
-/

namespace Arena

variable {kind : HandleKind} {α : Type}

/-- The vacated handles are those of the vacant slots, one for each, and no slot is numbered beyond
    the capacity. -/
structure WellFormed (a : Arena kind α) : Prop where
  /-- The slots are numbered within the capacity. -/
  size_le : a.slots.size ≤ capacity
  /-- A vacated handle belongs to a vacant slot. -/
  vacant : ∀ h ∈ a.vacated,
    0 < h.slot.toNat ∧ h.slot.toNat ≤ a.slots.size ∧ a.occupant? h.slot.toNat = none
  /-- No two of them belong to the same slot. -/
  nodup : (a.vacated.map Handle.slot).Nodup
  /-- Every vacant slot has one. -/
  complete : ∀ n, 0 < n → n ≤ a.slots.size → a.occupant? n = none →
    ∃ h ∈ a.vacated, h.slot.toNat = n

theorem wellFormed_empty : (empty : Arena kind α).WellFormed where
  size_le := Nat.zero_le _
  vacant := fun h hh => absurd hh List.not_mem_nil
  nodup := List.nodup_nil
  complete := fun n hpos hle _ => absurd hle (by show ¬ n ≤ 0; omega)

/-- An arena stays well formed when a slot is given another occupant, or none, if its handle is
    among the vacated ones in the end exactly if it has none. -/
theorem WellFormed.place {a : Arena kind α} (ha : a.WellFormed) {h : Handle kind}
    (hpos : 0 < h.slot.toNat) (hle : h.slot.toNat ≤ a.slots.size) {o? : Option (Occupant α)}
    {vacated : List (Handle kind)} (hnodup : (vacated.map Handle.slot).Nodup)
    (hmem : ∀ g ∈ vacated, (g ∈ a.vacated ∧ g.slot ≠ h.slot) ∨ (o? = none ∧ g.slot = h.slot))
    (hkept : ∀ g ∈ a.vacated, g.slot ≠ h.slot → g ∈ vacated)
    (hown : o? = none → ∃ g ∈ vacated, g.slot = h.slot) :
    (⟨a.place h o?, vacated⟩ : Arena kind α).WellFormed := by
  have hoccupant : ∀ n, (⟨a.place h o?, vacated⟩ : Arena kind α).occupant? n =
      if n = h.slot.toNat then o? else a.occupant? n :=
    occupant?_place hpos hle
  have hsize : (⟨a.place h o?, vacated⟩ : Arena kind α).slots.size = a.slots.size := size_place o?
  refine ⟨?_, ?_, hnodup, ?_⟩
  · rw [hsize]
    exact ha.size_le
  · intro g hg
    rw [hsize, hoccupant]
    rcases hmem g hg with ⟨hbefore, hne⟩ | ⟨hnone, hslot⟩
    · have hne' : g.slot.toNat ≠ h.slot.toNat := fun heq => hne (UInt32.toNat_inj.mp heq)
      rw [if_neg hne']
      exact ha.vacant g hbefore
    · rw [hslot, if_pos rfl]
      exact ⟨hpos, hle, hnone⟩
  · intro n hn hn' hnone
    rw [hsize] at hn'
    rw [hoccupant] at hnone
    by_cases hslot : n = h.slot.toNat
    · rw [if_pos hslot] at hnone
      obtain ⟨g, hg, hgslot⟩ := hown hnone
      exact ⟨g, hg, by rw [hgslot, hslot]⟩
    · rw [if_neg hslot] at hnone
      obtain ⟨g, hg, rfl⟩ := ha.complete n hn hn' hnone
      exact ⟨g, hkept g hg fun heq => hslot (by rw [heq]), rfl⟩

/-! ### Insertions -/

section

variable {a : Arena kind α} (ha : a.WellFormed)
include ha

/-- Without a vacated handle every slot has an occupant. -/
theorem WellFormed.size_of_vacated_eq_nil (hfull : a.vacated = []) : a.size = a.slots.size := by
  rw [size, ← Array.length_toList, List.countP_eq_length]
  intro o? ho?
  obtain ⟨i, hi, rfl⟩ := List.mem_iff_getElem.mp ho?
  rw [Array.length_toList] at hi
  rw [Array.getElem_toList, ← Option.ne_none_iff_isSome]
  intro hnone
  have hoccupant : a.occupant? (i + 1) = none := by
    rw [occupant?, if_neg (by omega), Nat.add_sub_cancel, Array.getElem?_eq_getElem hi, hnone]
    rfl
  obtain ⟨h, hh, -⟩ := ha.complete (i + 1) (by omega) (by omega) hoccupant
  rw [hfull] at hh
  exact absurd hh List.not_mem_nil

/-- A new slot may be numbered as long as there is room. -/
theorem WellFormed.toNat_slot_first (hroom : a.size < capacity) (hfull : a.vacated = []) :
    (Handle.first (UInt32.ofNat (a.slots.size + 1)) : Handle kind).slot.toNat
      = a.slots.size + 1 := by
  rw [ha.size_of_vacated_eq_nil hfull, capacity] at hroom
  exact UInt32.toNat_ofNat_of_lt' (by show _ < 4294967296; omega)

/-- A new value is put into a vacant slot, under the generation of its handle. -/
theorem WellFormed.occupant?_insert (hroom : a.size < capacity) (v : α) :
    0 < (a.insert v).1.slot.toNat ∧ a.occupant? (a.insert v).1.slot.toNat = none ∧
      ∀ n, (a.insert v).2.occupant? n =
        if n = (a.insert v).1.slot.toNat then some ⟨(a.insert v).1.generation, v⟩
        else a.occupant? n := by
  cases hvacated : a.vacated with
  | cons h rest =>
    obtain ⟨hpos, hle, hnone⟩ := ha.vacant h (by rw [hvacated]; exact List.mem_cons_self)
    rw [insert_of_vacated_eq_cons hvacated]
    exact ⟨hpos, hnone, occupant?_place hpos hle⟩
  | nil =>
    have hslot := ha.toNat_slot_first hroom hvacated
    rw [insert_of_vacated_eq_nil hvacated]
    simp only [hslot]
    exact ⟨by omega, occupant?_of_lt (by omega), occupant?_push⟩

/-- The new value is in one of the slots, and all slots before are slots still. -/
theorem WellFormed.slots_insert (hroom : a.size < capacity) (v : α) :
    (a.insert v).1.slot.toNat ≤ (a.insert v).2.slots.size ∧
      a.slots.size ≤ (a.insert v).2.slots.size := by
  obtain ⟨-, -, hoccupant⟩ := ha.occupant?_insert hroom v
  have hnew := hoccupant (a.insert v).1.slot.toNat
  rw [if_pos rfl] at hnew
  refine ⟨(bounds_of_occupant?_eq_some hnew).2, ?_⟩
  cases hvacated : a.vacated with
  | cons h rest =>
    rw [insert_of_vacated_eq_cons hvacated]
    exact Nat.le_of_eq (size_place _).symm
  | nil =>
    rw [insert_of_vacated_eq_nil hvacated]
    show a.slots.size ≤ (a.slots.push _).size
    rw [Array.size_push]
    omega

theorem WellFormed.insert (hroom : a.size < capacity) (v : α) : (a.insert v).2.WellFormed := by
  cases hvacated : a.vacated with
  | cons h rest =>
    have hnodup := ha.nodup
    rw [hvacated, List.map_cons, List.nodup_cons] at hnodup
    obtain ⟨hpos, hle, -⟩ := ha.vacant h (by rw [hvacated]; exact List.mem_cons_self)
    rw [insert_of_vacated_eq_cons hvacated]
    apply ha.place hpos hle hnodup.2
    · -- The slot of the new value is none of those that stay vacant.
      intro g hg
      refine .inl ⟨by rw [hvacated]; exact List.mem_cons_of_mem h hg, ?_⟩
      exact fun heq => hnodup.1 (List.mem_map.mpr ⟨g, hg, heq⟩)
    · intro g hg hne
      rw [hvacated, List.mem_cons] at hg
      rcases hg with rfl | hg
      · exact absurd rfl hne
      · exact hg
    · exact fun hnone => absurd hnone (by simp)
  | nil =>
    have hsize := ha.size_of_vacated_eq_nil hvacated
    rw [insert_of_vacated_eq_nil hvacated]
    refine ⟨?_, fun h hh => absurd hh List.not_mem_nil, List.nodup_nil, ?_⟩
    · show (a.slots.push _).size ≤ capacity
      rw [Array.size_push]
      omega
    · intro n hn hle hvacant
      have hle' : n ≤ (a.slots.push (some ⟨1, v⟩)).size := hle
      rw [Array.size_push] at hle'
      rw [occupant?_push] at hvacant
      by_cases hlast : n = a.slots.size + 1
      · rw [if_pos hlast] at hvacant
        exact absurd hvacant (by simp)
      · rw [if_neg hlast] at hvacant
        obtain ⟨h, hh, -⟩ := ha.complete n hn (by omega) hvacant
        rw [hvacated] at hh
        exact absurd hh List.not_mem_nil

/-- **A new handle names the new value, and all others what they named before.** -/
theorem WellFormed.get?_insert (hroom : a.size < capacity) (v : α) (g : Handle kind) :
    (a.insert v).2.get? g = if g = (a.insert v).1 then some v else a.get? g := by
  obtain ⟨-, hnone, hoccupant⟩ := ha.occupant?_insert hroom v
  apply get?_eq_ite_of_occupant? hoccupant
  intro o ho
  rw [hnone] at ho
  exact absurd ho (by simp)

end

/-! ### Removals and changes -/

section

variable {a : Arena kind α}

/-- A slot with an occupant is none of the vacant ones. -/
theorem WellFormed.slot_ne_of_mem_vacated (ha : a.WellFormed) {h : Handle kind} {o : Occupant α}
    (hsome : a.occupant? h.slot.toNat = some o) : ∀ g ∈ a.vacated, g.slot ≠ h.slot := by
  intro g hg hslot
  obtain ⟨-, -, hnone⟩ := ha.vacant g hg
  rw [hslot, hsome] at hnone
  exact absurd hnone (by simp)

theorem WellFormed.erase (ha : a.WellFormed) (h : Handle kind) : (a.erase h).2.WellFormed := by
  cases hget : a.get? h with
  | none =>
    rw [erase_of_get?_eq_none hget]
    exact ha
  | some v =>
    rw [erase_of_get?_eq_some hget]
    rw [get?_eq_some_iff] at hget
    obtain ⟨hpos, hle⟩ := bounds_of_occupant?_eq_some hget
    have hother := ha.slot_ne_of_mem_vacated hget
    apply ha.place hpos hle
    · show (h.slot :: a.vacated.map Handle.slot).Nodup
      rw [List.nodup_cons]
      refine ⟨?_, ha.nodup⟩
      intro hmem
      obtain ⟨g, hg, hslot⟩ := List.mem_map.mp hmem
      exact hother g hg hslot
    · intro g hg
      rcases List.mem_cons.mp hg with rfl | hg
      · exact .inr ⟨rfl, rfl⟩
      · exact .inl ⟨hg, hother g hg⟩
    · exact fun g hg _ => List.mem_cons_of_mem _ hg
    · exact fun _ => ⟨h.successor, List.mem_cons_self, rfl⟩

theorem WellFormed.modify (ha : a.WellFormed) (h : Handle kind) (f : α → α) :
    (a.modify h f).2.WellFormed := by
  cases hget : a.get? h with
  | none =>
    rw [modify_of_get?_eq_none hget]
    exact ha
  | some v =>
    rw [modify_of_get?_eq_some hget]
    rw [get?_eq_some_iff] at hget
    obtain ⟨hpos, hle⟩ := bounds_of_occupant?_eq_some hget
    -- The slot keeps an occupant, so the vacant slots are the same as before.
    apply ha.place hpos hle ha.nodup
    · exact fun g hg => .inl ⟨hg, ha.slot_ne_of_mem_vacated hget g hg⟩
    · exact fun g hg _ => hg
    · exact fun hnone => absurd hnone (by simp)

end

/-! ### Lists of all values -/

section

variable {a : Arena kind α}

theorem toNat_ofNat_of_lt {i : Nat} (hsize : a.slots.size ≤ capacity) (hi : i < a.slots.size) :
    (UInt32.ofNat (i + 1)).toNat = i + 1 := by
  rw [capacity] at hsize
  exact UInt32.toNat_ofNat_of_lt' (by show _ < 4294967296; omega)

/-- The list of all values has each under the handle that names it. -/
theorem WellFormed.mem_toList_iff (ha : a.WellFormed) {h : Handle kind} {v : α} :
    (h, v) ∈ a.toList ↔ a.get? h = some v := by
  rw [get?_eq_some_iff, toList, List.mem_filterMap]
  constructor
  · rintro ⟨⟨o?, i⟩, hmem, ho⟩
    rw [List.mk_mem_zipIdx_iff_getElem?, Array.getElem?_toList] at hmem
    obtain ⟨hi, -⟩ := Array.getElem?_eq_some_iff.mp hmem
    obtain ⟨o, rfl, hparts⟩ := Option.map_eq_some_iff.mp ho
    obtain ⟨rfl, rfl⟩ := Prod.mk.inj hparts
    simp only
    rw [toNat_ofNat_of_lt ha.size_le hi, occupant?, if_neg (by omega), Nat.add_sub_cancel, hmem]
    rfl
  · intro hsome
    obtain ⟨hpos, hle⟩ := bounds_of_occupant?_eq_some hsome
    refine ⟨(some ⟨h.generation, v⟩, h.slot.toNat - 1), ?_, ?_⟩
    · rw [List.mk_mem_zipIdx_iff_getElem?, Array.getElem?_toList]
      rw [occupant?, if_neg (by omega)] at hsome
      exact Option.join_eq_some_iff.mp hsome
    · have hslot : UInt32.ofNat (h.slot.toNat - 1 + 1) = h.slot := by
        rw [Nat.sub_add_cancel hpos, UInt32.ofNat_toNat]
      show some ((⟨_, h.generation⟩ : Handle kind), v) = some (h, v)
      rw [hslot]

/-- The values are listed in the order of their slots. -/
theorem WellFormed.pairwise_toList (ha : a.WellFormed) :
    a.toList.Pairwise fun x y => x.1.slot.toNat < y.1.slot.toNat := by
  rw [toList, List.pairwise_filterMap, List.pairwise_iff_getElem]
  intro i j hi hj hij x hx y hy
  rw [List.length_zipIdx, Array.length_toList] at hi hj
  rw [List.getElem_zipIdx] at hx hy
  obtain ⟨o, -, rfl⟩ := Option.map_eq_some_iff.mp hx
  obtain ⟨o', -, rfl⟩ := Option.map_eq_some_iff.mp hy
  simp only [Nat.zero_add]
  rw [toNat_ofNat_of_lt ha.size_le hi, toNat_ofNat_of_lt ha.size_le hj]
  omega

/-- Each handle is listed once. -/
theorem WellFormed.nodup_toList (ha : a.WellFormed) : (a.toList.map Prod.fst).Nodup := by
  rw [List.Nodup, List.pairwise_map]
  refine ha.pairwise_toList.imp ?_
  intro x y hlt heq
  rw [heq] at hlt
  exact Nat.lt_irrefl _ hlt

theorem length_toList (a : Arena kind α) : a.toList.length = a.size := by
  have hslots : a.size = (a.slots.toList.zipIdx.map Prod.fst).countP Option.isSome := by
    rw [List.zipIdx_map_fst, size]
  rw [hslots, List.countP_map, toList, List.length_filterMap_eq_countP]
  refine List.countP_congr ?_
  rintro ⟨o?, i⟩ -
  simp

/-- As many values are kept as there are handles in a list of those that name one. -/
theorem WellFormed.size_eq_length (ha : a.WellFormed) {names : List (Handle kind)}
    (hnodup : names.Nodup) (hnames : ∀ h, h ∈ names ↔ (a.get? h).isSome = true) :
    a.size = names.length := by
  rw [← a.length_toList, ← List.length_map Prod.fst]
  refine List.Perm.length_eq ((List.perm_ext_iff_of_nodup ha.nodup_toList hnodup).mpr ?_)
  intro h
  rw [hnames, List.mem_map, Option.isSome_iff_exists]
  constructor
  · rintro ⟨⟨h', v⟩, hmem, rfl⟩
    exact ⟨v, ha.mem_toList_iff.mp hmem⟩
  · rintro ⟨v, hv⟩
    exact ⟨(h, v), ha.mem_toList_iff.mpr hv, rfl⟩

end

end Arena

end EventPipeline
