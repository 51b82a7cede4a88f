import EventPipeline.Arena

namespace EventPipeline

/-!
# Lookups in an arena

An arena is seen through what its handles name.

* `Arena.occupant?` — the occupant of the slot with a number.
* `Arena.occupant?_place`, `Arena.occupant?_push` — the occupants after one slot was changed, or one
  appended.

A handle names a value exactly if this lives in the handle's slot under the handle's generation
(`Arena.get?_eq_some_iff`).  So what is done to one slot is seen under its own handle alone
(`Arena.get?_eq_ite_of_occupant?`), and with it a removal and a change (`Arena.get?_erase`,
`Arena.get?_modify`).
-/

namespace Arena

variable {kind : HandleKind} {α : Type}

/-! ### Occupants by number -/

/-- The occupant of the slot with a number, if it has one. -/
def occupant? (a : Arena kind α) (n : Nat) : Option (Occupant α) :=
  if n = 0 then none else a.slots[n - 1]?.join

section

variable {a : Arena kind α} {h : Handle kind}

theorem position?_eq_none (hzero : h.slot.toNat = 0) : position? h = none := by
  have hslot : h.slot = 0 := UInt32.toNat_inj.mp hzero
  rw [position?, if_pos hslot]

theorem position?_eq_some (hpos : h.slot.toNat ≠ 0) : position? h = some (h.slot.toNat - 1) := by
  have hslot : h.slot ≠ 0 := fun hslot => hpos (congrArg UInt32.toNat hslot)
  rw [position?, if_neg hslot]

/-- A handle names what lives in its slot under its generation. -/
theorem get?_eq_some_iff {v : α} :
    a.get? h = some v ↔ a.occupant? h.slot.toNat = some ⟨h.generation, v⟩ := by
  unfold get? occupant?
  by_cases hzero : h.slot.toNat = 0
  · rw [position?_eq_none hzero, if_pos hzero]
    simp
  · rw [position?_eq_some hzero, if_neg hzero]
    simp only [Option.bind_eq_bind, Option.bind_some]
    -- The slot is beyond the last, or vacant, or has an occupant of some generation.
    rcases a.slots[h.slot.toNat - 1]? with _ | _ | o
    · simp
    · simp
    · obtain ⟨generation, value⟩ := o
      by_cases hgeneration : generation = h.generation
      · simp [hgeneration]
      · simp [hgeneration]

/-- A slot beyond the last has no occupant. -/
theorem occupant?_of_lt {n : Nat} (hlt : a.slots.size < n) : a.occupant? n = none := by
  have hget : a.slots[n - 1]? = none := Array.getElem?_eq_none (by omega)
  rw [occupant?, if_neg (by omega), hget]
  rfl

/-- A slot with an occupant is among the slots. -/
theorem bounds_of_occupant?_eq_some {n : Nat} {o : Occupant α} (hsome : a.occupant? n = some o) :
    0 < n ∧ n ≤ a.slots.size := by
  constructor
  · rcases Nat.eq_zero_or_pos n with rfl | hpos
    · rw [occupant?, if_pos rfl] at hsome
      exact absurd hsome (by simp)
    · exact hpos
  · rcases Nat.lt_or_ge a.slots.size n with hlt | hle
    · rw [occupant?_of_lt hlt] at hsome
      exact absurd hsome (by simp)
    · exact hle

@[simp] theorem size_place (o : Option (Occupant α)) : (a.place h o).size = a.slots.size := by
  unfold place
  split
  · exact Array.size_setIfInBounds
  · rfl

/-- Putting an occupant into a slot leaves the other slots as they are. -/
theorem occupant?_place {o : Option (Occupant α)} {vacated : List (Handle kind)}
    (hpos : 0 < h.slot.toNat) (hle : h.slot.toNat ≤ a.slots.size) (n : Nat) :
    (⟨a.place h o, vacated⟩ : Arena kind α).occupant? n =
      if n = h.slot.toNat then o else a.occupant? n := by
  have hposition := position?_eq_some (h := h) (by omega)
  unfold occupant? place
  rw [hposition]
  by_cases hzero : n = 0
  · rw [if_pos hzero, if_pos hzero, if_neg (by omega)]
  · rw [if_neg hzero, if_neg hzero]
    by_cases hslot : n = h.slot.toNat
    · rw [if_pos hslot, hslot]
      simp only
      rw [Array.getElem?_setIfInBounds_self_of_lt (by omega)]
      rfl
    · rw [if_neg hslot]
      simp only
      rw [Array.getElem?_setIfInBounds_ne (by omega)]

/-- A slot appended to the others takes the number after theirs. -/
theorem occupant?_push {o : Option (Occupant α)} {vacated : List (Handle kind)} (n : Nat) :
    (⟨a.slots.push o, vacated⟩ : Arena kind α).occupant? n =
      if n = a.slots.size + 1 then o else a.occupant? n := by
  unfold occupant?
  rw [Array.getElem?_push]
  by_cases hzero : n = 0
  · rw [if_pos hzero, if_pos hzero, if_neg (by omega)]
  · rw [if_neg hzero, if_neg hzero]
    by_cases hlast : n = a.slots.size + 1
    · rw [if_pos hlast, if_pos (by omega)]
      rfl
    · rw [if_neg hlast, if_neg (by omega)]

/-- What the handles name once a slot was given a value under a handle of its own, or lost it.
    Other handles of the slot must have named nothing before. -/
theorem get?_eq_ite_of_occupant? {b : Arena kind α} {w? : Option α}
    (hoccupant : ∀ n, b.occupant? n =
      if n = h.slot.toNat then w?.map fun w => ⟨h.generation, w⟩ else a.occupant? n)
    (hown : ∀ o, a.occupant? h.slot.toNat = some o → o.generation = h.generation)
    (g : Handle kind) : b.get? g = if g = h then w? else a.get? g := by
  ext w
  rw [get?_eq_some_iff, hoccupant]
  by_cases hslot : g.slot.toNat = h.slot.toNat
  · rw [if_pos hslot]
    by_cases hgeneration : g.generation = h.generation
    · have hg : g = h := Handle.ext (UInt32.toNat_inj.mp hslot) hgeneration
      rw [if_pos hg, hg]
      cases w? <;> simp
    · -- Neither the occupant before nor that after has the generation of the handle.
      have hg : g ≠ h := fun hg => hgeneration (congrArg Handle.generation hg)
      have hbefore : a.occupant? h.slot.toNat ≠ some ⟨g.generation, w⟩ :=
        fun hsome => hgeneration (hown _ hsome)
      rw [if_neg hg, get?_eq_some_iff, hslot]
      cases w? <;> simp [Ne.symm hgeneration, hbefore]
  · have hg : g ≠ h := fun hg => hslot (by rw [hg])
    rw [if_neg hslot, if_neg hg, get?_eq_some_iff]

theorem insert_of_vacated_eq_cons {rest : List (Handle kind)} (hvacated : a.vacated = h :: rest)
    (v : α) : a.insert v = (h, ⟨a.place h (some ⟨h.generation, v⟩), rest⟩) := by
  rw [insert, hvacated]

theorem vacated_insert (a : Arena kind α) (v : α) : (a.insert v).2.vacated = a.vacated.tail := by
  rw [insert]
  cases a.vacated <;> rfl

theorem insert_of_vacated_eq_nil (hvacated : a.vacated = []) (v : α) :
    a.insert v =
      (.first (UInt32.ofNat (a.slots.size + 1)), ⟨a.slots.push (some ⟨1, v⟩), []⟩) := by
  rw [insert, hvacated]
  rfl

end

/-! ### Removals and changes -/

section

variable {a : Arena kind α} {h : Handle kind} {v : α}

theorem erase_of_get?_eq_none (hnone : a.get? h = none) : a.erase h = (none, a) := by
  rw [erase, hnone]

theorem erase_of_get?_eq_some (hsome : a.get? h = some v) :
    a.erase h = (some v, ⟨a.place h none, h.successor :: a.vacated⟩) := by
  rw [erase, hsome]

theorem fst_erase (a : Arena kind α) (h : Handle kind) : (a.erase h).1 = a.get? h := by
  cases hget : a.get? h with
  | none => rw [erase_of_get?_eq_none hget]
  | some v => rw [erase_of_get?_eq_some hget]

theorem modify_of_get?_eq_none (hnone : a.get? h = none) (f : α → α) :
    a.modify h f = (false, a) := by
  rw [modify, hnone]

theorem modify_of_get?_eq_some (hsome : a.get? h = some v) (f : α → α) :
    a.modify h f = (true, { a with slots := a.place h (some ⟨h.generation, f v⟩) }) := by
  rw [modify, hsome]

theorem fst_modify (a : Arena kind α) (h : Handle kind) (f : α → α) :
    (a.modify h f).1 = (a.get? h).isSome := by
  cases hget : a.get? h with
  | none => rw [modify_of_get?_eq_none hget]; rfl
  | some v => rw [modify_of_get?_eq_some hget]; rfl

/-- What a handle names once the slot of a value was given another occupant, or none. -/
theorem get?_place (hsome : a.get? h = some v) (w? : Option α) (vacated : List (Handle kind))
    (g : Handle kind) :
    (⟨a.place h (w?.map fun w => ⟨h.generation, w⟩), vacated⟩ : Arena kind α).get? g =
      if g = h then w? else a.get? g := by
  rw [get?_eq_some_iff] at hsome
  obtain ⟨hpos, hle⟩ := bounds_of_occupant?_eq_some hsome
  apply get?_eq_ite_of_occupant? (occupant?_place hpos hle)
  intro o ho
  obtain rfl := Option.some.inj (hsome.symm.trans ho)
  rfl

/-- **A removal takes the value from its handle, and from no other.** -/
theorem get?_erase (a : Arena kind α) (h g : Handle kind) :
    (a.erase h).2.get? g = if g = h then none else a.get? g := by
  cases hget : a.get? h with
  | none =>
    rw [erase_of_get?_eq_none hget]
    by_cases hg : g = h
    · rw [if_pos hg, hg, hget]
    · rw [if_neg hg]
  | some v =>
    rw [erase_of_get?_eq_some hget]
    exact get?_place hget none _ g

/-- **A change is seen under its handle, and under no other.** -/
theorem get?_modify (a : Arena kind α) (h : Handle kind) (f : α → α) (g : Handle kind) :
    (a.modify h f).2.get? g = if g = h then (a.get? h).map f else a.get? g := by
  cases hget : a.get? h with
  | none =>
    rw [modify_of_get?_eq_none hget]
    by_cases hg : g = h
    · rw [if_pos hg, hg, hget]
      rfl
    · rw [if_neg hg]
  | some v =>
    rw [modify_of_get?_eq_some hget]
    exact get?_place hget (some (f v)) _ g

end

theorem get?_empty (h : Handle kind) : (empty : Arena kind α).get? h = none := by
  rw [Option.eq_none_iff_forall_ne_some]
  intro v hv
  rw [get?_eq_some_iff] at hv
  obtain ⟨hpos, hle⟩ := bounds_of_occupant?_eq_some hv
  exact absurd hpos (Nat.not_lt_of_le hle)

end Arena

end EventPipeline
