import EventPipeline.Device
import Mathlib.Data.List.Infix
import Mathlib.Logic.Function.Basic

namespace EventPipeline

/-!
# The registry of devices

What the steps on a device table and their answers tell of devices, without slots or generations.

* `Registry` — the records under their handles, with the handles that were ever given out and those
  taken back.
* `Registry.note` — what a step does to the registry.  Of the answer it needs the handle of a new
  device alone.
* `Registry.Grows` — a registry to which only later handles were added.
* `Registry.Lawful` — what was given out and not taken back is known, and nothing else.

No step drops what was given out or taken back before it (`Registry.grows_noteAll_of_step`), and the
registry stays lawful as long as new handles are new (`Registry.Lawful.add`).
-/

/-- What is known of devices, told from the steps on a table and their answers. -/
structure Registry where
  /-- The handles that were given out, in their order, those of the core devices first. -/
  issued : List DeviceId
  /-- The handles that were taken back. -/
  removed : List DeviceId
  /-- The records that the handles name. -/
  known : DeviceId → Option Device

namespace Registry

/-- Two core devices, and no other. -/
def initial : Registry where
  issued := [DeviceTable.initial.pointer, DeviceTable.initial.keyboard]
  removed := []
  known := Function.update
    (Function.update (fun _ => none) DeviceTable.initial.pointer
      (some { name := "Core Pointer", kind := .pointer }))
    DeviceTable.initial.keyboard (some { name := "Core Keyboard", kind := .keyboard })

/-- The record that a removal gives: that of a device that is known and not a core device. -/
def removable? (r : Registry) (id : DeviceId) : Option Device :=
  if DeviceTable.initial.isCore id then none else r.known id

/-- The registry after a new device was given a handle. -/
def add (r : Registry) (id : DeviceId) (d : Device) : Registry where
  issued := r.issued ++ [id]
  removed := r.removed
  known := Function.update r.known id (some d)

/-- The registry after a handle was taken back. -/
def remove (r : Registry) (id : DeviceId) : Registry where
  issued := r.issued
  removed := r.removed ++ [id]
  known := Function.update r.known id none

/-- The registry after the stage of a device was recorded, if the device is known. -/
def move (r : Registry) (id : DeviceId) (stage : Option StageId) : Registry :=
  { r with known := Function.update r.known id ((r.known id).map fun d => { d with stage }) }

/-- The registry after a step, given its answer. -/
def note (r : Registry) : DeviceTable.Command → DeviceTable.Reply → Registry
  | .insert d, .handle (some id) => r.add id d
  | .insert _, .handle none | .insert _, .record _ | .insert _, .known _
  | .insert _, .devices _ => r
  | .erase id, _ => if (r.removable? id).isSome then r.remove id else r
  | .setStage id stage, _ => r.move id stage
  | .core _, _ | .get _, _ | .list, _ => r

/-- The registry after some steps, given their answers. -/
def noteAll (r : Registry) : List DeviceTable.Command → List DeviceTable.Reply → Registry
  | c :: steps, answer :: answers => (r.note c answer).noteAll steps answers
  | [], _ | _ :: _, [] => r

/-- A registry to which only later handles were added. -/
structure Grows (r r' : Registry) : Prop where
  /-- What was given out before comes first. -/
  issued : r.issued <+: r'.issued
  /-- So does what was taken back before. -/
  removed : r.removed <+: r'.removed

theorem Grows.refl (r : Registry) : r.Grows r := ⟨List.prefix_refl _, List.prefix_refl _⟩

theorem Grows.trans {r r' r'' : Registry} (h : r.Grows r') (h' : r'.Grows r'') : r.Grows r'' :=
  ⟨h.issued.trans h'.issued, h.removed.trans h'.removed⟩

theorem grows_add (r : Registry) (id : DeviceId) (d : Device) : r.Grows (r.add id d) :=
  ⟨List.prefix_append _ _, List.prefix_refl _⟩

theorem grows_remove (r : Registry) (id : DeviceId) : r.Grows (r.remove id) :=
  ⟨List.prefix_refl _, List.prefix_append _ _⟩

theorem grows_move (r : Registry) (id : DeviceId) (stage : Option StageId) :
    r.Grows (r.move id stage) :=
  ⟨List.prefix_refl _, List.prefix_refl _⟩

/-- **Step.**  A step adds to the handles that were given out or taken back, and drops none. -/
theorem grows_note (r : Registry) (c : DeviceTable.Command) (answer : DeviceTable.Reply) :
    r.Grows (r.note c answer) := by
  cases c with
  | insert d =>
    rcases answer with (_ | id) | _ | _ | _
    · exact Grows.refl r
    · exact r.grows_add id d
    all_goals exact Grows.refl r
  | erase id =>
    rw [note]
    split
    · exact r.grows_remove id
    · exact Grows.refl r
  | setStage id stage => exact r.grows_move id stage
  | core kind => exact Grows.refl r
  | get id => exact Grows.refl r
  | list => exact Grows.refl r

/-- **Run.**  So does a run. -/
theorem grows_noteAll (r : Registry) (steps : List DeviceTable.Command)
    (answers : List DeviceTable.Reply) : r.Grows (r.noteAll steps answers) := by
  induction steps generalizing r answers with
  | nil => exact Grows.refl r
  | cons c rest ih =>
    cases answers with
    | nil => exact Grows.refl r
    | cons answer answers => exact (r.grows_note c answer).trans (ih (r.note c answer) answers)

/-- The registry of a run may be told in two parts. -/
theorem noteAll_append (r : Registry) (t : DeviceTable) (steps later : List DeviceTable.Command) :
    r.noteAll (steps ++ later) (t.run (steps ++ later)).1 =
      (r.noteAll steps (t.run steps).1).noteAll later ((t.run steps).2.run later).1 := by
  induction steps generalizing r t with
  | nil => rfl
  | cons c rest ih => exact ih (r.note c (t.perform c).1) (t.perform c).2

/-- What a step in the middle of a run adds is kept to the end. -/
theorem grows_noteAll_of_step (r : Registry) (t : DeviceTable)
    (before : List DeviceTable.Command) (c : DeviceTable.Command)
    (later : List DeviceTable.Command) :
    ((r.noteAll before (t.run before).1).note c ((t.run before).2.perform c).1).Grows
      (r.noteAll (before ++ c :: later) (t.run (before ++ c :: later)).1) := by
  rw [r.noteAll_append t before (c :: later)]
  exact grows_noteAll _ later _

/-- What is known is what was given out and not taken back, and the core devices are. -/
structure Lawful (r : Registry) : Prop where
  /-- A handle names a device exactly if it was given out and not taken back. -/
  isSome_known_iff : ∀ id, (r.known id).isSome = true ↔ id ∈ r.issued ∧ id ∉ r.removed
  /-- The core devices are always known. -/
  isSome_known_core : ∀ id, DeviceTable.initial.isCore id = true → (r.known id).isSome = true
  /-- What was taken back was given out before. -/
  removed_subset : ∀ id ∈ r.removed, id ∈ r.issued

theorem known_initial (id : DeviceId) :
    initial.known id =
      if id = DeviceTable.initial.keyboard then
        some { name := "Core Keyboard", kind := .keyboard }
      else if id = DeviceTable.initial.pointer then
        some { name := "Core Pointer", kind := .pointer }
      else none := by
  show Function.update (Function.update (fun _ => none) _ _) _ _ id = _
  rw [Function.update_apply, Function.update_apply]

/-- At first the core devices are known, and nothing else was given a handle. -/
theorem lawful_initial : initial.Lawful := by
  have hiff : ∀ id, (initial.known id).isSome = true ↔
      id = DeviceTable.initial.pointer ∨ id = DeviceTable.initial.keyboard := by
    intro id
    rw [known_initial]
    by_cases hkeyboard : id = DeviceTable.initial.keyboard
    · rw [if_pos hkeyboard]
      exact iff_of_true rfl (.inr hkeyboard)
    · by_cases hpointer : id = DeviceTable.initial.pointer
      · rw [if_neg hkeyboard, if_pos hpointer]
        exact iff_of_true rfl (.inl hpointer)
      · rw [if_neg hkeyboard, if_neg hpointer]
        exact iff_of_false Bool.false_ne_true (not_or.mpr ⟨hpointer, hkeyboard⟩)
  refine ⟨?_, ?_, ?_⟩
  · intro id
    rw [hiff]
    simp [initial]
  · intro id hcore
    rw [hiff]
    unfold DeviceTable.isCore at hcore
    simpa using hcore
  · exact fun id hid => absurd hid List.not_mem_nil

namespace Lawful

variable {r : Registry} (hr : r.Lawful)
include hr

theorem add {id : DeviceId} (hnew : id ∉ r.issued) (d : Device) : (r.add id d).Lawful := by
  refine ⟨?_, ?_, ?_⟩
  · intro g
    show (Function.update r.known id (some d) g).isSome = true ↔
      g ∈ r.issued ++ [id] ∧ g ∉ r.removed
    rw [Function.update_apply, List.mem_append, List.mem_singleton]
    by_cases hg : g = id
    · rw [if_pos hg, hg]
      -- A handle that was never given out was not taken back either.
      have hkept : id ∉ r.removed := fun hmem => hnew (hr.removed_subset id hmem)
      simp [hkept]
    · rw [if_neg hg, hr.isSome_known_iff]
      simp [hg]
  · intro g hcore
    show (Function.update r.known id (some d) g).isSome = true
    rw [Function.update_apply]
    by_cases hg : g = id
    · rw [if_pos hg]
      rfl
    · rw [if_neg hg]
      exact hr.isSome_known_core g hcore
  · intro g hg
    exact List.mem_append_left _ (hr.removed_subset g hg)

theorem remove {id : DeviceId} (hsome : (r.removable? id).isSome = true) :
    (r.remove id).Lawful := by
  unfold removable? at hsome
  by_cases hcore : DeviceTable.initial.isCore id = true
  · rw [if_pos hcore] at hsome
    exact Bool.noConfusion hsome
  rw [if_neg hcore] at hsome
  refine ⟨?_, ?_, ?_⟩
  · intro g
    show (Function.update r.known id none g).isSome = true ↔ g ∈ r.issued ∧ g ∉ r.removed ++ [id]
    rw [Function.update_apply, List.mem_append, List.mem_singleton]
    by_cases hg : g = id
    · rw [if_pos hg]
      simp [hg]
    · rw [if_neg hg, hr.isSome_known_iff]
      simp [hg]
  · intro g hcore'
    -- A core device is none that can be taken back.
    have hg : g ≠ id := fun hg => hcore (by rw [← hg, hcore'])
    show (Function.update r.known id none g).isSome = true
    rw [Function.update_apply, if_neg hg]
    exact hr.isSome_known_core g hcore'
  · intro g hg
    rcases List.mem_append.mp hg with hg | hg
    · exact hr.removed_subset g hg
    · rw [List.mem_singleton.mp hg]
      exact ((hr.isSome_known_iff id).mp hsome).1

theorem move (id : DeviceId) (stage : Option StageId) : (r.move id stage).Lawful := by
  have hsame : ∀ g, ((r.move id stage).known g).isSome = (r.known g).isSome := by
    intro g
    show (Function.update r.known id ((r.known id).map fun d => { d with stage }) g).isSome = _
    rw [Function.update_apply]
    by_cases hg : g = id
    · rw [if_pos hg, hg, Option.isSome_map]
    · rw [if_neg hg]
  refine ⟨?_, ?_, hr.removed_subset⟩
  · intro g
    rw [hsame]
    exact hr.isSome_known_iff g
  · intro g hcore
    rw [hsame]
    exact hr.isSome_known_core g hcore

end Lawful

end Registry

end EventPipeline
