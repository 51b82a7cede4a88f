import EventPipeline.Proofs.Device.Generations
import EventPipeline.Proofs.Device.Registry

namespace EventPipeline

/-!
# Devices under handles that are never given out again

A device table is a finite map from handles to records.  A handle names the same device for good,
and nothing once the device was forgotten.

* `DeviceTable.Tracks` — the invariant, which ties a table to its registry.
* `DeviceTable.Refines` — what the operations on a table answer and do, told from the registry.

Every step does to the table what it does to the registry (`DeviceTable.Tracks.perform`), and so
does every run (`DeviceTable.Tracks.run`).
-/

namespace DeviceTable

/-- A table that has the records of a registry, under the handles that this says were given out. -/
structure Tracks (t : DeviceTable) (r : Registry) : Prop where
  issues : t.devices.Issues r.issued
  /-- The table knows the same devices as the registry. -/
  get?_eq : ∀ id, t.get? id = r.known id
  lawful : r.Lawful
  /-- The core devices stay the same. -/
  pointer_eq : t.pointer = initial.pointer
  keyboard_eq : t.keyboard = initial.keyboard

/-- The core devices are the first to be given handles. -/
theorem tracks_initial : initial.Tracks .initial := by
  have hempty : (Arena.empty : Arena .device Device).Issues [] := Arena.issues_empty
  have hroom : (Arena.empty : Arena .device Device).size < Arena.capacity := by decide
  have hpointer := hempty.insert hroom { name := "Core Pointer", kind := .pointer }
    (Handle.unrecycled_of_length_le (by decide))
  have hroom' : ((Arena.empty : Arena .device Device).insert
      { name := "Core Pointer", kind := .pointer }).2.size < Arena.capacity := by decide
  have hkeyboard := hpointer.insert hroom' { name := "Core Keyboard", kind := .keyboard }
    (Handle.unrecycled_of_length_le (by decide))
  have hdevices : initial.devices = (((Arena.empty : Arena .device Device).insert
      { name := "Core Pointer", kind := .pointer }).2.insert
      { name := "Core Keyboard", kind := .keyboard }).2 := rfl
  refine ⟨hkeyboard, ?_, Registry.lawful_initial, rfl, rfl⟩
  · intro id
    rw [get?, hdevices, hpointer.wellFormed.get?_insert hroom',
      hempty.wellFormed.get?_insert hroom, Arena.get?_empty, Registry.known_initial]
    rfl

theorem insert_of_fst_eq_none {t : DeviceTable} {d : Device} (hnone : (t.insert d).1 = none) :
    t.insert d = (none, t) := by
  unfold insert at hnone ⊢
  by_cases hroom : t.devices.size < Arena.capacity
  · rw [if_pos hroom] at hnone
    exact absurd hnone (by simp)
  · rw [if_neg hroom]

namespace Tracks

variable {t : DeviceTable} {r : Registry} (ht : t.Tracks r)
include ht

theorem isCore_eq (id : DeviceId) : t.isCore id = initial.isCore id := by
  rw [isCore, isCore, ht.pointer_eq, ht.keyboard_eq]

/-- A removal gives the record of a device that is known and not a core device. -/
theorem fst_erase (id : DeviceId) : (t.erase id).1 = r.removable? id := by
  unfold erase Registry.removable?
  rw [ht.isCore_eq, ← ht.get?_eq]
  by_cases hcore : initial.isCore id = true
  · rw [if_pos hcore, if_pos hcore]
  · rw [if_neg hcore, if_neg hcore]
    exact t.devices.fst_erase id

/-- A removal that gives no record changes nothing. -/
theorem erase_of_removable?_eq_none {id : DeviceId} (hnone : r.removable? id = none) :
    t.erase id = (none, t) := by
  unfold Registry.removable? at hnone
  unfold erase
  rw [ht.isCore_eq]
  by_cases hcore : initial.isCore id = true
  · rw [if_pos hcore]
  · rw [if_neg hcore, ← ht.get?_eq, get?] at hnone
    rw [if_neg hcore, Arena.erase_of_get?_eq_none hnone]

/-- Recording a stage answers whether the device is known. -/
theorem fst_setStage (id : DeviceId) (stage : Option StageId) :
    (t.setStage id stage).1 = (r.known id).isSome := by
  rw [← ht.get?_eq]
  exact t.devices.fst_modify id _

/-- Recording a stage for an unknown device changes nothing. -/
theorem setStage_of_known_eq_none {id : DeviceId} (hnone : r.known id = none)
    (stage : Option StageId) : t.setStage id stage = (false, t) := by
  rw [← ht.get?_eq, get?] at hnone
  rw [setStage, Arena.modify_of_get?_eq_none hnone]

/-- As many devices are known as there are handles that name one. -/
theorem size_eq : t.size = (r.issued.filter fun id => (r.known id).isSome).length := by
  refine ht.issues.wellFormed.size_eq_length (ht.issues.nodup.filter _) ?_
  intro id
  have hget : t.devices.get? id = r.known id := ht.get?_eq id
  rw [List.mem_filter, hget, and_iff_right_iff_imp]
  intro hsome
  exact ((ht.lawful.isSome_known_iff id).mp hsome).1

/-- **Insertion.** -/
theorem insert (d : Device) {id : DeviceId} (hid : (t.insert d).1 = some id)
    (hunrecycled : Handle.Unrecycled (r.issued ++ [id])) : (t.insert d).2.Tracks (r.add id d) := by
  unfold DeviceTable.insert at hid ⊢
  by_cases hroom : t.devices.size < Arena.capacity
  · rw [if_pos hroom] at hid ⊢
    obtain rfl := Option.some.inj hid
    have hnew := ht.issues.fst_insert_notMem hroom d hunrecycled
    refine ⟨ht.issues.insert hroom d hunrecycled, ?_, ht.lawful.add hnew d, ht.pointer_eq,
      ht.keyboard_eq⟩
    intro g
    show (t.devices.insert d).2.get? g = Function.update r.known _ (some d) g
    rw [ht.issues.wellFormed.get?_insert hroom, Function.update_apply, ← ht.get?_eq]
    rfl
  · rw [if_neg hroom] at hid
    exact absurd hid (by simp)

/-- **Removal.** -/
theorem erase {id : DeviceId} (hsome : (r.removable? id).isSome = true) :
    (t.erase id).2.Tracks (r.remove id) := by
  have hlawful := ht.lawful.remove hsome
  unfold Registry.removable? at hsome
  unfold DeviceTable.erase
  rw [ht.isCore_eq]
  by_cases hcore : initial.isCore id = true
  · rw [if_pos hcore] at hsome
    exact Bool.noConfusion hsome
  · rw [if_neg hcore]
    refine ⟨ht.issues.erase id, ?_, hlawful, ht.pointer_eq, ht.keyboard_eq⟩
    intro g
    show (t.devices.erase id).2.get? g = Function.update r.known id none g
    rw [Arena.get?_erase, Function.update_apply, ← ht.get?_eq]
    rfl

/-- **Change.** -/
theorem setStage (id : DeviceId) (stage : Option StageId) :
    (t.setStage id stage).2.Tracks (r.move id stage) := by
  refine ⟨ht.issues.modify id _, ?_, ht.lawful.move id stage, ht.pointer_eq, ht.keyboard_eq⟩
  intro g
  show (t.devices.modify id fun d => { d with stage }).2.get? g =
    Function.update r.known id ((r.known id).map fun d => { d with stage }) g
  rw [Arena.get?_modify, Function.update_apply, ← ht.get?_eq, ← ht.get?_eq]
  rfl

/-- **Step.**  A step does to the table what it does to the registry. -/
theorem perform (c : Command) (hunrecycled : Handle.Unrecycled (r.note c (t.perform c).1).issued) :
    (t.perform c).2.Tracks (r.note c (t.perform c).1) := by
  cases c with
  | insert d =>
    have hanswer : (t.perform (.insert d)).1 = .handle (t.insert d).1 := rfl
    rw [hanswer] at hunrecycled ⊢
    cases hid : (t.insert d).1 with
    | none =>
      show (t.insert d).2.Tracks r
      rw [insert_of_fst_eq_none hid]
      exact ht
    | some id =>
      rw [hid] at hunrecycled
      exact ht.insert d hid hunrecycled
  | erase id =>
    show (t.erase id).2.Tracks (if (r.removable? id).isSome then r.remove id else r)
    by_cases hsome : (r.removable? id).isSome = true
    · rw [if_pos hsome]
      exact ht.erase hsome
    · rw [if_neg hsome, ht.erase_of_removable?_eq_none (Option.not_isSome_iff_eq_none.mp hsome)]
      exact ht
  | setStage id stage => exact ht.setStage id stage
  | core kind => exact ht
  | get id => exact ht
  | list => exact ht

/-- **Run.**  So does a run. -/
theorem run (steps : List Command)
    (hunrecycled : Handle.Unrecycled (r.noteAll steps (t.run steps).1).issued) :
    (t.run steps).2.Tracks (r.noteAll steps (t.run steps).1) := by
  induction steps generalizing t r with
  | nil => exact ht
  | cons c rest ih =>
    have hfirst := ht.perform c (hunrecycled.of_prefix (Registry.grows_noteAll _ _ _).issued)
    exact ih hfirst hunrecycled

end Tracks

/-! ### The table as a finite map -/

/-- What the operations on a table answer and do, told from the registry. -/
structure Refines (t : DeviceTable) (r : Registry) : Prop where
  /-- No handle was given out twice, those of the core devices included. -/
  nodup : r.issued.Nodup
  /-- The table has the records of the registry. -/
  get?_eq : ∀ id, t.get? id = r.known id
  /-- A handle names a device exactly if it was given out and not taken back. -/
  isSome_get?_iff : ∀ id, (t.get? id).isSome = true ↔ id ∈ r.issued ∧ id ∉ r.removed
  /-- The core devices are always known, and are not removed. -/
  core : ∀ id, initial.isCore id = true → (t.get? id).isSome = true ∧ t.erase id = (none, t)
  /-- A new device is given a handle exactly if there is room for it. -/
  isSome_insert_iff : ∀ d, (t.insert d).1.isSome = true ↔ t.size < Arena.capacity
  /-- A removal gives the record of a device that is known and not a core device. -/
  fst_erase : ∀ id, (t.erase id).1 = r.removable? id
  /-- Recording a stage answers whether the device is known. -/
  fst_setStage : ∀ id stage, (t.setStage id stage).1 = (r.known id).isSome
  /-- It changes the stage of that device, and nothing that another handle names. -/
  get?_setStage : ∀ id stage g, (t.setStage id stage).2.get? g =
    if g = id then (t.get? id).map fun d => { d with stage } else t.get? g
  /-- Under a handle that names no device nothing is found and nothing changes. -/
  unknown : ∀ id, r.known id = none →
    t.get? id = none ∧ t.erase id = (none, t) ∧ ∀ stage, t.setStage id stage = (false, t)
  /-- As many devices are known as there are handles that name one. -/
  size_eq : t.size = (r.issued.filter fun id => (r.known id).isSome).length
  /-- The list of devices has each device once, under the handle that names it. -/
  mem_toList_iff : ∀ id d, (id, d) ∈ t.toList ↔ r.known id = some d
  nodup_toList : (t.toList.map Prod.fst).Nodup

theorem Tracks.refines {t : DeviceTable} {r : Registry} (ht : t.Tracks r) : t.Refines r where
  nodup := ht.issues.nodup
  get?_eq := ht.get?_eq
  isSome_get?_iff := by
    intro id
    rw [ht.get?_eq]
    exact ht.lawful.isSome_known_iff id
  core := by
    intro id hcore
    have hkept : r.removable? id = none := by
      unfold Registry.removable?
      rw [if_pos hcore]
    rw [ht.get?_eq]
    exact ⟨ht.lawful.isSome_known_core id hcore, ht.erase_of_removable?_eq_none hkept⟩
  isSome_insert_iff := by
    intro d
    unfold DeviceTable.insert DeviceTable.size
    by_cases hroom : t.devices.size < Arena.capacity
    · rw [if_pos hroom]
      exact iff_of_true rfl hroom
    · rw [if_neg hroom]
      exact iff_of_false Bool.false_ne_true hroom
  fst_erase := ht.fst_erase
  fst_setStage := ht.fst_setStage
  get?_setStage := fun id stage g => t.devices.get?_modify id _ g
  unknown := by
    intro id hnone
    have hkept : r.removable? id = none := by
      unfold Registry.removable?
      rw [hnone, ite_self]
    exact ⟨by rw [ht.get?_eq, hnone], ht.erase_of_removable?_eq_none hkept,
      ht.setStage_of_known_eq_none hnone⟩
  size_eq := ht.size_eq
  mem_toList_iff := by
    intro id d
    rw [← ht.get?_eq]
    exact ht.issues.wellFormed.mem_toList_iff
  nodup_toList := ht.issues.wellFormed.nodup_toList

/-- **A device table is a finite map whose handles are never given out again.**  After any steps
    on the new table, as long as no slot has had more handles than there are generations, the
    table answers and changes as the registry of the steps says.  Every handle that a step has
    given out was new, and every handle that a step has taken back stays unknown, whatever is put
    into its slot. -/
theorem run_refines_registry (steps : List Command)
    (hunrecycled :
      Handle.Unrecycled (Registry.initial.noteAll steps (initial.run steps).1).issued) :
    let r := Registry.initial.noteAll steps (initial.run steps).1
    let t := (initial.run steps).2
    t.Refines r ∧
      (∀ before d later id, steps = before ++ .insert d :: later →
        ((initial.run before).2.insert d).1 = some id →
          id ∈ r.issued ∧
            id ∉ (Registry.initial.noteAll before (initial.run before).1).issued) ∧
      ∀ before id later, steps = before ++ .erase id :: later →
        ((initial.run before).2.erase id).1.isSome = true →
          id ∈ r.removed ∧ t.get? id = none ∧ t.erase id = (none, t) ∧
            ∀ stage, t.setStage id stage = (false, t) := by
  intro r t
  have ht : t.Tracks r := tracks_initial.run steps hunrecycled
  have hrefines := ht.refines
  refine ⟨hrefines, ?_, ?_⟩
  · rintro before d later id rfl hid
    -- The handles given out by then and the new one come first among all that were given out.
    have hbefore : (Registry.initial.noteAll before (initial.run before).1).issued ++ [id]
        <+: r.issued := by
      have hkept := (Registry.initial.grows_noteAll_of_step initial before (.insert d) later).issued
      have hanswer : ((initial.run before).2.perform (.insert d)).1 = .handle (some id) :=
        congrArg Reply.handle hid
      rw [hanswer] at hkept
      exact hkept
    have hnodup := hbefore.sublist.nodup hrefines.nodup
    rw [List.nodup_append] at hnodup
    refine ⟨hbefore.subset (List.mem_append_right _ (List.mem_singleton_self id)), ?_⟩
    intro hmem
    exact hnodup.2.2 id hmem id (List.mem_singleton_self id) rfl
  · rintro before id later rfl hsome
    have hremoved : id ∈ r.removed := by
      have hgrows := Registry.initial.grows_noteAll_of_step initial before (.erase id) later
      have hkept := hgrows.removed
      have hprior : (initial.run before).2.Tracks
          (Registry.initial.noteAll before (initial.run before).1) := by
        have hall := Registry.initial.noteAll_append initial before (.erase id :: later)
        rw [hall] at hunrecycled
        exact tracks_initial.run before
          (hunrecycled.of_prefix (Registry.grows_noteAll _ _ _).issued)
      rw [hprior.fst_erase] at hsome
      rw [Registry.note, if_pos hsome] at hkept
      exact hkept.subset (List.mem_append_right _ (List.mem_singleton_self id))
    have hnone : r.known id = none := by
      have hiff := ht.lawful.isSome_known_iff id
      rw [← Option.not_isSome_iff_eq_none, hiff]
      exact fun hkept => hkept.2 hremoved
    exact ⟨hremoved, hrefines.unknown id hnone⟩

/-- A tablet is plugged in and out, a mouse takes its slot, and the stages of both are recorded. -/
def reusingSlot : List Command :=
  [.insert { name := "Tablet", kind := .extension }, .erase ⟨3, 1⟩,
    .insert { name := "Mouse", kind := .pointer }, .setStage ⟨3, 1⟩ (some ⟨1, 1⟩),
    .setStage ⟨3, 3⟩ (some ⟨2, 1⟩)]

/-- The handle of the tablet does not name the mouse. -/
theorem get?_reusingSlot :
    Handle.Unrecycled (Registry.initial.noteAll reusingSlot (initial.run reusingSlot).1).issued ∧
      (initial.run reusingSlot).2.get? ⟨3, 1⟩ = none ∧
      (initial.run reusingSlot).2.get? ⟨3, 3⟩
        = some { name := "Mouse", kind := .pointer, stage := some ⟨2, 1⟩ } := by
  have hunrecycled :
      Handle.Unrecycled (Registry.initial.noteAll reusingSlot (initial.run reusingSlot).1).issued :=
    Handle.unrecycled_of_length_le (by decide +kernel)
  obtain ⟨-, -, hforgotten⟩ := run_refines_registry reusingSlot hunrecycled
  obtain ⟨-, hnone, -⟩ := hforgotten [.insert { name := "Tablet", kind := .extension }] ⟨3, 1⟩ _ rfl
    (by decide +kernel)
  exact ⟨hunrecycled, hnone, by decide +kernel⟩

end DeviceTable

end EventPipeline
