import EventPipeline.Proofs.Android.Account
import EventPipeline.Proofs.Device.Core

namespace EventPipeline

/-!
# The stage of the core pointer

The core pointer follows the motions of Android to the stages that they are aimed at.  It moves
before a motion is translated, so it also follows a motion that turns out to have no event.

* `Android.Command.target?` — the stage that an input takes the core pointer to.
* `Android.stageAfter` — the stage that inputs leave a pointer over.
* `Device.following` — the record of a device that has followed some inputs.

One input changes the stage of the core pointer and no other record
(`Session.get?_perform_android`), and so do the inputs of a run (`Session.get?_run_android`).  An
input without an event leaves the records alone only if it moves no pointer, or aims at the stage
that the core pointer is over already.
-/

/-! ### One input -/

/-- The stage that a device is over, if the device is known and is over one. -/
def DeviceTable.stageOf (t : DeviceTable) (id : DeviceId) : Option StageId :=
  (t.get? id).bind (·.stage)

namespace Android

/-- The stage that an input takes the core pointer to.  A key moves no pointer. -/
def Command.target? : Command → Option (Option StageId)
  | .motion _ stage => some stage
  | .key _ _ => none

/-- The stage that inputs leave a pointer over, which was over the given stage before. -/
def stageAfter (stage : Option StageId) (inputs : List Command) : Option StageId :=
  inputs.foldl (fun stage c => c.target?.getD stage) stage

/-- A pointer is left over the stage of the last motion. -/
theorem stageAfter_eq (stage : Option StageId) (inputs : List Command) :
    stageAfter stage inputs = (inputs.filterMap (·.target?)).getLast?.getD stage := by
  induction inputs generalizing stage with
  | nil => rfl
  | cons c rest ih =>
    have hrest : stageAfter stage (c :: rest) = stageAfter (c.target?.getD stage) rest := rfl
    rw [hrest, ih]
    cases htarget : c.target? with
    | none => rw [List.filterMap_cons_none htarget, Option.getD_none]
    | some target =>
      -- The target is the last of the stages only if no other motion comes.
      rw [List.filterMap_cons_some htarget, Option.getD_some, List.getLast?_cons, Option.getD_some]

end Android

/-- The record of a device that has followed some inputs. -/
def Device.following (inputs : List Android.Command) (d : Device) : Device :=
  { d with stage := Android.stageAfter d.stage inputs }

/-- A device that has followed no input is where it was. -/
theorem Device.map_following_nil (d? : Option Device) : d?.map (Device.following []) = d? :=
  Option.map_id'

namespace Android

@[simp] theorem Command.pointer_follow (devices : DeviceTable) (c : Command) :
    (c.follow devices).pointer = devices.pointer := by
  cases c <;> rfl

/-- The core pointer follows an input, and every other record is left alone. -/
theorem Command.get?_follow (devices : DeviceTable) (c : Command) (id : DeviceId) :
    (c.follow devices).get? id =
      if id = devices.pointer then (devices.get? id).map (Device.following [c])
      else devices.get? id := by
  cases c with
  | motion m stage => exact devices.get?_setStage devices.pointer stage id
  | key k stage =>
    -- To follow a key is to follow nothing.
    have hnothing : Device.following [.key k stage] = Device.following [] := rfl
    rw [hnothing, Device.map_following_nil, ite_self]
    rfl

end Android

namespace Session

variable {δ : Type}

/-- What an input of Android does to the devices. -/
theorem devices_perform_android (s : Session δ) (c : Android.Command) :
    (s.perform (.android c)).value.2.hub.devices = c.follow s.hub.devices := by
  rw [hub_perform_android]
  rfl

/-- **Step.**  The core pointer follows an input, and nothing else known of devices changes. -/
theorem get?_perform_android (s : Session δ) (c : Android.Command) (id : DeviceId) :
    (s.perform (.android c)).value.2.hub.devices.get? id =
      if id = s.hub.devices.pointer then (s.hub.devices.get? id).map (Device.following [c])
      else s.hub.devices.get? id := by
  rw [devices_perform_android]
  exact c.get?_follow s.hub.devices id

/-- An input leaves the records alone exactly if it moves no pointer, or takes the core pointer to
    the stage that this is over. -/
theorem get?_perform_android_eq_iff (s : Session δ) (c : Android.Command) {d : Device}
    (hpointer : s.hub.devices.get? s.hub.devices.pointer = some d) :
    (∀ id, (s.perform (.android c)).value.2.hub.devices.get? id = s.hub.devices.get? id) ↔
      ∀ target, c.target? = some target → target = d.stage := by
  have hstage : ∀ target, c.target? = some target → (d.following [c]).stage = target := by
    intro target htarget
    show c.target?.getD d.stage = target
    rw [htarget, Option.getD_some]
  constructor
  · intro hsame target htarget
    have hmoved := hsame s.hub.devices.pointer
    rw [get?_perform_android, if_pos rfl, hpointer, Option.map_some, Option.some.injEq] at hmoved
    rw [← hstage target htarget, hmoved]
  · intro htarget id
    rw [get?_perform_android]
    by_cases hid : id = s.hub.devices.pointer
    · -- The stage that is recorded for the core pointer is the one recorded before.
      have hkept : c.target?.getD d.stage = d.stage := by
        cases hc : c.target? with
        | none => rfl
        | some target => exact htarget target hc
      have hfollowing : d.following [c] = d := by
        show { d with stage := c.target?.getD d.stage } = d
        rw [hkept]
      rw [if_pos hid, hid, hpointer, Option.map_some, hfollowing]
    · rw [if_neg hid]

/-! ### Runs -/

/-- **Run.**  The core pointer follows all inputs, and nothing else changes that is known of
    devices. -/
theorem get?_run_android (s : Session δ) (inputs : List Android.Command) (id : DeviceId) :
    (s.run (inputs.map .android)).value.2.hub.devices.get? id =
      if id = s.hub.devices.pointer then (s.hub.devices.get? id).map (Device.following inputs)
      else s.hub.devices.get? id := by
  induction inputs generalizing s with
  | nil =>
    rw [Device.map_following_nil, ite_self]
    rfl
  | cons c rest ih =>
    have hpointer :
        (s.perform (.android c)).value.2.hub.devices.pointer = s.hub.devices.pointer := by
      rw [devices_perform_android, Android.Command.pointer_follow]
    have hlater : (s.run ((c :: rest).map .android)).value.2
        = ((s.perform (.android c)).value.2.run (rest.map .android)).value.2 := rfl
    rw [hlater, ih, hpointer, get?_perform_android]
    by_cases hid : id = s.hub.devices.pointer
    · rw [if_pos hid, if_pos hid, if_pos hid, Option.map_map]
      rfl
    · rw [if_neg hid, if_neg hid, if_neg hid]

/-- **The core pointer follows every motion.**  Let some inputs of Android come after any steps of
    a new session.  The core pointer is then over the stage of the last motion among them, whether
    this had an event or not, or where it was before if there was no motion; no other record has
    changed.  So an input without an event leaves all records as they are exactly if it is a key,
    or a motion that is aimed at the stage which the core pointer is over. -/
theorem run_follows_motions (settings : ClickSettings) (steps : List (Command δ))
    (inputs : List Android.Command) :
    let s := ((withSettings settings : Session δ).run steps).value.2
    let t := (s.run (inputs.map .android)).value.2
    let pointer := DeviceTable.initial.pointer
    let stage := (inputs.filterMap (·.target?)).getLast?.getD (s.hub.devices.stageOf pointer)
    t.hub.devices.get? pointer = some { name := "Core Pointer", kind := .pointer, stage } ∧
      (∀ id, id ≠ pointer → t.hub.devices.get? id = s.hub.devices.get? id) ∧
      ∀ c : Android.Command, c.isConsumed = false →
        (t.perform (.android c)).value.1 = .queued false ∧
          ((∀ id, (t.perform (.android c)).value.2.hub.devices.get? id = t.hub.devices.get? id) ↔
            ∀ target, c.target? = some target → target = stage) := by
  intro s t pointer stage
  have hs : s.hub.devices.KeepsCore := keepsCore_run DeviceTable.keepsCore_initial steps
  have ht : t.hub.devices.KeepsCore := keepsCore_run hs (inputs.map .android)
  have hrun : ∀ id, t.hub.devices.get? id
      = if id = pointer then (s.hub.devices.get? id).map (Device.following inputs)
        else s.hub.devices.get? id := by
    intro id
    have hget := s.get?_run_android inputs id
    rw [hs.pointer_eq] at hget
    exact hget
  have hpointer : t.hub.devices.get? pointer
      = some { name := "Core Pointer", kind := .pointer, stage } := by
    obtain ⟨before, hbefore⟩ := hs.get?_pointer
    have hstage : stage = Android.stageAfter before inputs := by
      have hover : s.hub.devices.stageOf pointer = before := by
        rw [DeviceTable.stageOf, hbefore]
        rfl
      rw [Android.stageAfter_eq, ← hover]
    rw [hrun, if_pos rfl, hbefore, hstage]
    rfl
  refine ⟨hpointer, ?_, ?_⟩
  · intro id hid
    rw [hrun, if_neg hid]
  · intro c hrejected
    refine ⟨?_, ?_⟩
    · rw [reply_perform_android, hrejected]
    · have hown : t.hub.devices.get? t.hub.devices.pointer
          = some { name := "Core Pointer", kind := .pointer, stage } := by
        rw [ht.pointer_eq]
        exact hpointer
      exact t.get?_perform_android_eq_iff c hown

-- At the start the core pointer is over no stage.
example : DeviceTable.initial.stageOf DeviceTable.initial.pointer = none := by decide

/-- The end of a touch that another part of the system has taken over. -/
def cancelAt (timeNanos : Int64) : Android.Motion := { action := 3, timeNanos }

/-- A touch of the first stage is followed, and so is the cancel that is aimed at the second one. -/
theorem followed_cancel_on_second_stage :
    let inputs : List Android.Command := [.motion (touchAt 0) (some (.first 1))]
    let cancel : Android.Command := .motion (cancelAt 1000000) (some (.first 2))
    let t := ((withSettings {} : Session Unit).run (inputs.map .android)).value.2
    DeviceTable.initial.keyboard ≠ DeviceTable.initial.pointer ∧ cancel.isConsumed = false ∧
      t.hub.devices.get? DeviceTable.initial.pointer
        = some { name := "Core Pointer", kind := .pointer, stage := some (.first 1) } ∧
      t.hub.devices.get? DeviceTable.initial.keyboard
        = some { name := "Core Keyboard", kind := .keyboard } ∧
      ¬ ∀ id,
        (t.perform (.android cancel)).value.2.hub.devices.get? id = t.hub.devices.get? id := by
  intro inputs cancel t
  have hkeyboard : DeviceTable.initial.keyboard ≠ DeviceTable.initial.pointer := by decide
  have hrejected : cancel.isConsumed = false := by decide
  obtain ⟨hpointer, hothers, hinput⟩ := run_follows_motions (δ := Unit) {} [] inputs
  refine ⟨hkeyboard, hrejected, hpointer, ?_, ?_⟩
  · have hkept := hothers DeviceTable.initial.keyboard hkeyboard
    exact hkept.trans (by decide)
  · intro hsame
    have htarget := (hinput cancel hrejected).2.mp hsame (some (.first 2)) rfl
    exact absurd htarget (by decide)

/-- A cancel has no event, and takes the core pointer to another stage all the same. -/
theorem rejected_cancel_moves_pointer :
    let touched := ((withSettings {} : Session Unit).perform
      (.android (.motion (touchAt 0) (some (.first 1))))).value
    let cancelled := (touched.2.perform
      (.android (.motion (cancelAt 1000000) (some (.first 2))))).value
    touched.1 = .queued true ∧ cancelled.1 = .queued false ∧
      touched.2.hub.devices.stageOf DeviceTable.initial.pointer = some (.first 1) ∧
      cancelled.2.hub.devices.stageOf DeviceTable.initial.pointer = some (.first 2) := by
  refine ⟨?_, ?_, ?_, ?_⟩ <;> decide +kernel

end Session

end EventPipeline
