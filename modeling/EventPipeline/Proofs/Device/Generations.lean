import EventPipeline.Proofs.Device.WellFormed

namespace EventPipeline

/-!
# The generations of handles

As long as no slot runs out of generations, no handle is given out twice.

* `Handle.turns` — how many of some handles belong to a slot.
* `Handle.Unrecycled` — no slot has had more handles than there are generations.
* `Arena.Issues` — the generations of an arena, counted by the handles that it has given out.

The generation of a new handle is told from the number of those before it in the slot, so it is
none of theirs (`Arena.Issues.fst_insert_notMem`).  Every operation keeps the count
(`Arena.Issues.insert`, `Arena.Issues.erase`, `Arena.Issues.modify`).
-/

/-! ### Turns -/

namespace Handle

variable {kind : HandleKind}

/-- How many of the handles belong to a slot. -/
def turns (issued : List (Handle kind)) (slot : UInt32) : Nat := issued.countP (·.slot = slot)

/-- No slot has more handles than there are odd generations. -/
def Unrecycled (issued : List (Handle kind)) : Prop := ∀ slot, turns issued slot ≤ 2147483648

theorem turns_concat (issued : List (Handle kind)) (h : Handle kind) (slot : UInt32) :
    turns (issued ++ [h]) slot = turns issued slot + if h.slot = slot then 1 else 0 := by
  rw [turns, List.countP_append, List.countP_singleton, turns]
  simp

theorem turns_concat_self (issued : List (Handle kind)) (h : Handle kind) :
    turns (issued ++ [h]) h.slot = turns issued h.slot + 1 := by
  rw [turns_concat, if_pos rfl]

theorem turns_concat_of_ne {issued : List (Handle kind)} {h : Handle kind} {slot : UInt32}
    (hne : h.slot ≠ slot) : turns (issued ++ [h]) slot = turns issued slot := by
  rw [turns_concat, if_neg hne, Nat.add_zero]

theorem turns_le_turns_concat (issued : List (Handle kind)) (h : Handle kind) (slot : UInt32) :
    turns issued slot ≤ turns (issued ++ [h]) slot := by
  rw [turns_concat]
  exact Nat.le_add_right _ _

/-- A slot without a handle has had no turn. -/
theorem turns_eq_zero {issued : List (Handle kind)} {slot : UInt32}
    (hnone : ∀ h ∈ issued, h.slot ≠ slot) : turns issued slot = 0 := by
  rw [turns, List.countP_eq_zero]
  intro h hh
  simp [hnone h hh]

/-- A slot has no more turns than there are handles. -/
theorem unrecycled_of_length_le {issued : List (Handle kind)} (hle : issued.length ≤ 2147483648) :
    Unrecycled issued :=
  fun _ => Nat.le_trans List.countP_le_length hle

/-- Fewer handles leave more generations. -/
theorem Unrecycled.of_prefix {issued later : List (Handle kind)} (hbefore : issued <+: later)
    (hlater : Unrecycled later) : Unrecycled issued :=
  fun slot => Nat.le_trans hbefore.sublist.countP_le (hlater slot)

end Handle

/-! ### Arenas and what they have given out -/

namespace Arena

variable {kind : HandleKind} {α : Type}

open Handle (turns turns_concat_self turns_concat_of_ne turns_le_turns_concat turns_eq_zero
  Unrecycled)

/-- An arena that has given out the handles of a list, none of them twice.  The `n`-th handle of a
    slot has the generation `2 * n - 1`, as long as that is in range. -/
structure Issues (a : Arena kind α) (issued : List (Handle kind)) : Prop where
  wellFormed : a.WellFormed
  /-- No handle was given out twice. -/
  nodup : issued.Nodup
  /-- The handles belong to the slots in use. -/
  slot_le : ∀ h ∈ issued, h.slot.toNat ≤ a.slots.size
  /-- What names a value was given out. -/
  mem_of_isSome : ∀ h, (a.get? h).isSome = true → h ∈ issued
  /-- The generations of a slot grow with its handles. -/
  generation_lt : ∀ h ∈ issued, h.generation.toNat < 2 * turns issued h.slot
  /-- What names a value is the latest handle of its slot. -/
  generation_of_isSome : ∀ h, (a.get? h).isSome = true →
    h.generation.toNat + 1 = 2 * turns issued h.slot
  /-- The next handle of a vacant slot has the next generation. -/
  generation_of_vacated : ∀ h ∈ a.vacated,
    h.generation.toNat = (2 * turns issued h.slot + 1) % 4294967296

theorem issues_empty : (empty : Arena kind α).Issues [] := by
  refine ⟨wellFormed_empty, List.nodup_nil, ?_, ?_, ?_, ?_, ?_⟩
  · exact fun h hh => absurd hh List.not_mem_nil
  · exact fun h hh => absurd hh (by rw [get?_empty]; exact Bool.false_ne_true)
  · exact fun h hh => absurd hh List.not_mem_nil
  · exact fun h hh => absurd hh (by rw [get?_empty]; exact Bool.false_ne_true)
  · exact fun h hh => absurd hh List.not_mem_nil

namespace Issues

variable {a : Arena kind α} {issued : List (Handle kind)}

/-- The generation of the next handle follows those of its slot so far. -/
theorem generation_fst_insert (ha : a.Issues issued) (hroom : a.size < capacity) (v : α) :
    (a.insert v).1.generation.toNat = (2 * turns issued (a.insert v).1.slot + 1) % 4294967296 := by
  cases hvacated : a.vacated with
  | cons h rest =>
    rw [insert_of_vacated_eq_cons hvacated]
    exact ha.generation_of_vacated h (by rw [hvacated]; exact List.mem_cons_self)
  | nil =>
    -- The slot is new, so it has had no turn.
    have hslot := ha.wellFormed.toNat_slot_first hroom hvacated
    have hturns : turns issued
        (Handle.first (UInt32.ofNat (a.slots.size + 1)) : Handle kind).slot = 0 := by
      apply turns_eq_zero
      intro h hh heq
      have hle := ha.slot_le h hh
      rw [heq, hslot] at hle
      omega
    rw [insert_of_vacated_eq_nil hvacated]
    simp only [hturns]
    rfl

/-- **A new handle was never given out before.** -/
theorem fst_insert_notMem (ha : a.Issues issued) (hroom : a.size < capacity) (v : α)
    (hunrecycled : Unrecycled (issued ++ [(a.insert v).1])) : (a.insert v).1 ∉ issued := by
  intro hmem
  have hgeneration := ha.generation_fst_insert hroom v
  have hlt := ha.generation_lt _ hmem
  have hturns := hunrecycled (a.insert v).1.slot
  rw [turns_concat_self] at hturns
  -- With one turn more the generation is still in range, so it exceeds all before it in the slot.
  omega

/-- **Insertion.**  The new handle joins those that were given out. -/
theorem insert (ha : a.Issues issued) (hroom : a.size < capacity) (v : α)
    (hunrecycled : Unrecycled (issued ++ [(a.insert v).1])) :
    (a.insert v).2.Issues (issued ++ [(a.insert v).1]) := by
  have hnew := ha.fst_insert_notMem hroom v hunrecycled
  have hgeneration := ha.generation_fst_insert hroom v
  have hturns := hunrecycled (a.insert v).1.slot
  rw [turns_concat_self] at hturns
  obtain ⟨hle, hgrow⟩ := ha.wellFormed.slots_insert hroom v
  obtain ⟨-, hvacant, hoccupant⟩ := ha.wellFormed.occupant?_insert hroom v
  refine ⟨ha.wellFormed.insert hroom v, ?_, ?_, ?_, ?_, ?_, ?_⟩
  · rw [List.nodup_append]
    refine ⟨ha.nodup, List.nodup_singleton _, ?_⟩
    rintro g hg h hh rfl
    rw [List.mem_singleton.mp hh] at hg
    exact hnew hg
  · intro g hg
    rcases List.mem_append.mp hg with hg | hg
    · exact Nat.le_trans (ha.slot_le g hg) hgrow
    · rw [List.mem_singleton.mp hg]
      exact hle
  · intro g hg
    rw [ha.wellFormed.get?_insert hroom] at hg
    rw [List.mem_append, List.mem_singleton]
    by_cases heq : g = (a.insert v).1
    · exact .inr heq
    · rw [if_neg heq] at hg
      exact .inl (ha.mem_of_isSome g hg)
  · intro g hg
    rcases List.mem_append.mp hg with hg | hg
    · have hlt := ha.generation_lt g hg
      have hmono := turns_le_turns_concat issued (a.insert v).1 g.slot
      omega
    · rw [List.mem_singleton.mp hg, turns_concat_self]
      omega
  · intro g hg
    rw [ha.wellFormed.get?_insert hroom] at hg
    by_cases heq : g = (a.insert v).1
    · rw [heq, turns_concat_self]
      omega
    · -- What another handle names lives in another slot.
      rw [if_neg heq] at hg
      obtain ⟨w, hw⟩ := Option.isSome_iff_exists.mp hg
      have hslot : (a.insert v).1.slot ≠ g.slot := by
        intro hslot
        rw [get?_eq_some_iff, ← hslot, hvacant] at hw
        exact absurd hw (by simp)
      rw [turns_concat_of_ne hslot]
      exact ha.generation_of_isSome g hg
  · intro g hg
    -- A slot that stays vacant is not the one that was filled.
    have hslot : (a.insert v).1.slot ≠ g.slot := by
      intro hslot
      obtain ⟨-, -, hnone⟩ := (ha.wellFormed.insert hroom v).vacant g hg
      rw [hoccupant, hslot, if_pos rfl] at hnone
      exact absurd hnone (by simp)
    rw [vacated_insert] at hg
    rw [turns_concat_of_ne hslot]
    exact ha.generation_of_vacated g (List.mem_of_mem_tail hg)

/-- **Removal.**  The next handle of the slot is due. -/
theorem erase (ha : a.Issues issued) (h : Handle kind) : (a.erase h).2.Issues issued := by
  cases hget : a.get? h with
  | none =>
    rw [erase_of_get?_eq_none hget]
    exact ha
  | some v =>
    have hlatest := ha.generation_of_isSome h (by rw [hget]; rfl)
    have hother : ∀ g, ((a.erase h).2.get? g).isSome = true → (a.get? g).isSome = true := by
      intro g hg
      rw [get?_erase] at hg
      by_cases heq : g = h
      · rw [if_pos heq] at hg
        exact Bool.noConfusion hg
      · rw [if_neg heq] at hg
        exact hg
    have hwell := ha.wellFormed.erase h
    rw [erase_of_get?_eq_some hget] at *
    refine ⟨hwell, ha.nodup, ?_, fun g hg => ha.mem_of_isSome g (hother g hg), ha.generation_lt,
      fun g hg => ha.generation_of_isSome g (hother g hg), ?_⟩
    · intro g hg
      show g.slot.toNat ≤ (a.place h none).size
      rw [size_place]
      exact ha.slot_le g hg
    · intro g hg
      rcases List.mem_cons.mp hg with rfl | hg
      · -- The slot has had as many turns as before, and its last generation is two less.
        rw [Handle.generation_successor, Handle.slot_successor, ← hlatest, UInt32.toNat_add]
        rfl
      · exact ha.generation_of_vacated g hg

/-- **Change.**  The handles stay as they are. -/
theorem modify (ha : a.Issues issued) (h : Handle kind) (f : α → α) :
    (a.modify h f).2.Issues issued := by
  have hsome : ∀ g, ((a.modify h f).2.get? g).isSome = true → (a.get? g).isSome = true := by
    intro g hg
    rw [get?_modify] at hg
    by_cases heq : g = h
    · rw [if_pos heq, Option.isSome_map] at hg
      rw [heq]
      exact hg
    · rw [if_neg heq] at hg
      exact hg
  have hwell := ha.wellFormed.modify h f
  have hslots : (a.modify h f).2.slots.size = a.slots.size ∧
      (a.modify h f).2.vacated = a.vacated := by
    cases hget : a.get? h with
    | none =>
      rw [modify_of_get?_eq_none hget]
      exact ⟨rfl, rfl⟩
    | some v =>
      rw [modify_of_get?_eq_some hget]
      exact ⟨size_place _, rfl⟩
  refine ⟨hwell, ha.nodup, ?_, fun g hg => ha.mem_of_isSome g (hsome g hg), ha.generation_lt,
    fun g hg => ha.generation_of_isSome g (hsome g hg), ?_⟩
  · rw [hslots.1]
    exact ha.slot_le
  · rw [hslots.2]
    exact ha.generation_of_vacated

end Issues

end Arena

end EventPipeline
