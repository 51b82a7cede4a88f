import EventPipeline.Proofs.Device.WellFormed
import EventPipeline.Proofs.Handler.Alike
import EventPipeline.Proofs.Queue.Input

namespace EventPipeline

/-!
# The core devices

The core pointer and the core keyboard are there from the start, and no step of a session takes them
away.  What a platform reports about buttons and motions is reported by the core pointer.

* `DeviceTable.KeepsCore` — the invariant: the core devices are known as at the start, but for the
  stages that they are over.
* `Event.IsBy` — an event of a button or of a motion names a device.

Every step on a table keeps the invariant (`DeviceTable.KeepsCore.perform`), so every step and
every run of a session does (`Session.keepsCore_perform`, `Session.keepsCore_run`).  An input of a
platform adds events by the core pointer only (`Session.isBy_of_mem_appended`).
-/

/-! ### Steps on a table -/

/-- A handle that was just given out named nothing before. -/
theorem Arena.WellFormed.get?_fst_insert {kind : HandleKind} {α : Type} {a : Arena kind α}
    (ha : a.WellFormed) (hroom : a.size < capacity) (v : α) : a.get? (a.insert v).1 = none := by
  obtain ⟨-, hvacant, -⟩ := ha.occupant?_insert hroom v
  rw [Option.eq_none_iff_forall_ne_some]
  intro w hw
  rw [get?_eq_some_iff, hvacant] at hw
  exact absurd hw (by simp)

namespace DeviceTable

/-- A stage is recorded for its device, and for no other. -/
theorem get?_setStage (t : DeviceTable) (id : DeviceId) (stage : Option StageId) (g : DeviceId) :
    (t.setStage id stage).2.get? g =
      if g = id then (t.get? g).map (fun d => { d with stage }) else t.get? g := by
  have hget : (t.setStage id stage).2.get? g
      = if g = id then (t.get? id).map (fun d => { d with stage }) else t.get? g :=
    Arena.get?_modify t.devices id _ g
  by_cases hsame : g = id
  · rw [hget, if_pos hsame, if_pos hsame, hsame]
  · rw [hget, if_neg hsame, if_neg hsame]

/-- A table that knows the core devices as at the start, but for the stages that they are over. -/
structure KeepsCore (t : DeviceTable) : Prop where
  wellFormed : t.devices.WellFormed
  /-- The core devices stay the same. -/
  pointer_eq : t.pointer = initial.pointer
  keyboard_eq : t.keyboard = initial.keyboard
  /-- Their records differ from the first ones in the stage alone. -/
  get?_eq : ∀ id d, initial.isCore id = true → initial.get? id = some d →
    ∃ stage, t.get? id = some { d with stage }

theorem keepsCore_initial : initial.KeepsCore where
  wellFormed := by
    have hroom : (Arena.empty : Arena .device Device).size < Arena.capacity := by decide
    have hroom' : ((Arena.empty : Arena .device Device).insert
        { name := "Core Pointer", kind := .pointer }).2.size < Arena.capacity := by decide
    exact (Arena.wellFormed_empty.insert hroom _).insert hroom' _
  pointer_eq := rfl
  keyboard_eq := rfl
  get?_eq := fun _ d _ hfirst => ⟨d.stage, hfirst⟩

namespace KeepsCore

variable {t : DeviceTable} (ht : t.KeepsCore)
include ht

theorem isCore_eq (id : DeviceId) : t.isCore id = initial.isCore id := by
  rw [isCore, isCore, ht.pointer_eq, ht.keyboard_eq]

/-- A core device cannot be forgotten. -/
theorem erase_of_isCore {id : DeviceId} (hcore : initial.isCore id = true) :
    t.erase id = (none, t) := by
  rw [DeviceTable.erase, ht.isCore_eq, if_pos hcore]

theorem insert (d : Device) : (t.insert d).2.KeepsCore := by
  rw [DeviceTable.insert]
  by_cases hroom : t.devices.size < Arena.capacity
  · rw [if_pos hroom]
    refine ⟨ht.wellFormed.insert hroom d, ht.pointer_eq, ht.keyboard_eq, ?_⟩
    intro id first hcore hfirst
    obtain ⟨stage, hknown⟩ := ht.get?_eq id first hcore hfirst
    -- The new handle is none of the core devices, which are known already.
    have hother : id ≠ (t.devices.insert d).1 := by
      rintro rfl
      have hnew := ht.wellFormed.get?_fst_insert hroom d
      rw [get?, hnew] at hknown
      exact absurd hknown (by simp)
    refine ⟨stage, ?_⟩
    show (t.devices.insert d).2.get? id = _
    rw [ht.wellFormed.get?_insert hroom, if_neg hother]
    exact hknown
  · rw [if_neg hroom]
    exact ht

theorem erase (id : DeviceId) : (t.erase id).2.KeepsCore := by
  by_cases hcore : initial.isCore id = true
  · rw [ht.erase_of_isCore hcore]
    exact ht
  · rw [DeviceTable.erase, ht.isCore_eq, if_neg hcore]
    refine ⟨ht.wellFormed.erase id, ht.pointer_eq, ht.keyboard_eq, ?_⟩
    intro id' first hcore' hfirst
    obtain ⟨stage, hknown⟩ := ht.get?_eq id' first hcore' hfirst
    -- The device that is forgotten is none of the core devices.
    have hother : id' ≠ id := by
      rintro rfl
      exact hcore hcore'
    refine ⟨stage, ?_⟩
    show (t.devices.erase id).2.get? id' = _
    rw [Arena.get?_erase, if_neg hother]
    exact hknown

theorem setStage (id : DeviceId) (stage : Option StageId) : (t.setStage id stage).2.KeepsCore := by
  refine ⟨ht.wellFormed.modify id _, ht.pointer_eq, ht.keyboard_eq, ?_⟩
  intro id' first hcore hfirst
  obtain ⟨before, hknown⟩ := ht.get?_eq id' first hcore hfirst
  by_cases hsame : id' = id
  · refine ⟨stage, ?_⟩
    rw [t.get?_setStage, if_pos hsame, hknown, Option.map_some]
  · refine ⟨before, ?_⟩
    rw [t.get?_setStage, if_neg hsame, hknown]

/-- **Step on a table.** -/
theorem perform (c : Command) : (t.perform c).2.KeepsCore := by
  cases c with
  | insert d => exact ht.insert d
  | erase id => exact ht.erase id
  | setStage id stage => exact ht.setStage id stage
  | core kind => exact ht
  | get id => exact ht
  | list => exact ht

/-- The core pointer is known under the name and the kind that it has from the start. -/
theorem get?_pointer : ∃ stage, t.get? initial.pointer
    = some { name := "Core Pointer", kind := .pointer, stage } :=
  ht.get?_eq _ { name := "Core Pointer", kind := .pointer } (by decide) (by decide)

/-- So is the core keyboard. -/
theorem get?_keyboard : ∃ stage, t.get? initial.keyboard
    = some { name := "Core Keyboard", kind := .keyboard, stage } :=
  ht.get?_eq _ { name := "Core Keyboard", kind := .keyboard } (by decide) (by decide)

end KeepsCore

end DeviceTable

/-! ### The device of an event -/

/-- An event of a button or of a motion names the given device. -/
def Event.IsBy (e : Event) (id : DeviceId) : Prop :=
  e.kind.family = .button ∨ e.kind.family = .motion → e.device = some id

/-- Events with the same payload name the same device. -/
theorem Event.IsBy.of_payload_eq {e f : Event} {id : DeviceId} (hby : e.IsBy id)
    (hpayload : f.payload = e.payload) : f.IsBy id := by
  have hfamily : f.kind.family = e.kind.family := by
    rw [← f.family_eq, ← e.family_eq, hpayload]
  obtain ⟨-, -, -, -, hdevice⟩ := Event.reads_eq_of_payload_eq hpayload
  intro hpointing
  rw [hfamily] at hpointing
  rw [hdevice]
  exact hby hpointing

/-- Scroll steps and keys are by no device. -/
theorem Event.isBy_of_family {e : Event}
    (hother : e.kind.family = .scroll ∨ e.kind.family = .key) (id : DeviceId) : e.IsBy id := by
  intro hpointing
  rcases hother with hfamily | hfamily
  · rw [hfamily] at hpointing
    exact absurd hpointing (by decide)
  · rw [hfamily] at hpointing
    exact absurd hpointing (by decide)

/-- What Android reports about buttons and motions is by the core pointer. -/
theorem Android.Command.isBy_of_event? {c : Command} {pointer : DeviceId} {e : Event}
    (he : c.event? pointer = some e) : e.IsBy pointer := by
  cases c with
  | motion m stage =>
    obtain ⟨f, hf, rfl⟩ := Option.map_eq_some_iff.mp he
    rw [Motion.toEvent?] at hf
    obtain ⟨action, -, hf⟩ := Option.bind_eq_some_iff.mp hf
    cases action with
    | down => obtain rfl := Option.some.inj hf; exact fun _ => rfl
    | up => obtain rfl := Option.some.inj hf; exact fun _ => rfl
    | move => obtain rfl := Option.some.inj hf; exact fun _ => rfl
    | scroll =>
      obtain ⟨direction, -, hf⟩ := Option.bind_eq_some_iff.mp hf
      obtain rfl := Option.some.inj hf
      exact Event.isBy_of_family (.inl rfl) pointer
  | key k stage =>
    obtain ⟨f, hf, rfl⟩ := Option.map_eq_some_iff.mp he
    refine Event.isBy_of_family (.inr ?_) pointer
    show f.kind.family = .key
    obtain hkind | hkind := Key.kind_of_toEvent? hf
    · rw [hkind]
      rfl
    · rw [hkind]
      rfl

/-- What a desktop reports about buttons and motions is by the core pointer. -/
theorem Desktop.Input.isBy_of_event? {i : Input} {pointer : DeviceId} {c : Command} {e : Event}
    (he : i.event? pointer c = some e) : e.IsBy pointer := by
  obtain ⟨f, hf, rfl⟩ := Option.map_eq_some_iff.mp he
  cases c with
  | restart stage => exact absurd hf (by simp)
  | modifiers k => exact absurd hf (by simp)
  | cursor x y time => obtain rfl := Option.some.inj hf; exact fun _ => rfl
  | mouse pressed button time =>
    obtain rfl := Option.some.inj hf
    cases pressed with
    | true => exact fun _ => rfl
    | false => exact fun _ => rfl
  | wheel delta time =>
    obtain ⟨direction, -, rfl⟩ := Option.map_eq_some_iff.mp hf
    exact Event.isBy_of_family (.inl rfl) pointer
  | key pressed key text time =>
    obtain rfl := Option.some.inj hf
    cases pressed with
    | true => exact Event.isBy_of_family (.inr rfl) pointer
    | false => exact Event.isBy_of_family (.inr rfl) pointer

/-! ### Runs of a session -/

namespace Session

variable {δ : Type}

/-- An input of a platform adds events by the core pointer, and so is a click behind them. -/
theorem isBy_of_mem_appended {s : Session δ} {c : Command δ} (hplatform : c.isPlatform = true)
    {f : Event} (hf : f ∈ s.appended c) : f.IsBy s.hub.devices.pointer := by
  obtain ⟨e, he, hpayload⟩ := exists_event?_of_mem_appended hplatform hf
  have hby : e.IsBy s.hub.devices.pointer := by
    cases c with
    | hub c => exact Bool.noConfusion hplatform
    | android c => exact Android.Command.isBy_of_event? he
    | desktop c => exact Desktop.Input.isBy_of_event? he
  exact hby.of_payload_eq hpayload

/-- **Step.**  No step of a session takes a core device away. -/
theorem keepsCore_perform {s : Session δ} (hs : s.hub.devices.KeepsCore) (c : Command δ) :
    (s.perform c).value.2.hub.devices.KeepsCore := by
  cases c with
  | hub c =>
    cases c with
    | intake c => exact hs
    | dispatcher c => exact hs
    | devices c => exact hs.perform c
    | deliverPending =>
      -- A handler is given events, not the devices.
      have hdevices : (s.hub.deliverPending).value.2.devices = s.hub.devices := by
        rw [Hub.deliverPending_eq]
        split <;> rfl
      show (s.hub.deliverPending).value.2.devices.KeepsCore
      rw [hdevices]
      exact hs
  | android c =>
    -- The core pointer follows a motion to its stage.
    rw [hub_perform_android]
    cases c with
    | motion m stage => exact hs.setStage _ stage
    | key k stage => exact hs
  | desktop c =>
    rw [hub_perform_desktop]
    exact hs

/-- **Run.**  No run of a session takes a core device away. -/
theorem keepsCore_run {s : Session δ} (hs : s.hub.devices.KeepsCore) (steps : List (Command δ)) :
    (s.run steps).value.2.hub.devices.KeepsCore := by
  induction steps generalizing s with
  | nil => exact hs
  | cons c rest ih => exact ih (keepsCore_perform hs c)

/-- **The core devices outlive every run.**  After every run from a new session, each core device is
    the one that it was at the start, and the two differ; their records have kept their names and
    kinds; and to forget one of them fails and changes nothing.  An event of a button or a motion
    that an input of a platform added on the way names the core pointer, which is known still. -/
theorem run_keeps_core (settings : ClickSettings) (steps : List (Command δ)) :
    let start : Session δ := withSettings settings
    let pointer := DeviceTable.initial.pointer
    let keyboard := DeviceTable.initial.keyboard
    let t := (start.run steps).value.2.hub.devices
    pointer ≠ keyboard ∧
      t.core? .pointer = some pointer ∧ t.core? .keyboard = some keyboard ∧
      t.core? .extension = none ∧
      (∃ stage, t.get? pointer = some { name := "Core Pointer", kind := .pointer, stage }) ∧
      (∃ stage, t.get? keyboard = some { name := "Core Keyboard", kind := .keyboard, stage }) ∧
      t.erase pointer = (none, t) ∧ t.erase keyboard = (none, t) ∧
      ∀ before c later, steps = before ++ c :: later → c.isPlatform = true →
        ∀ e ∈ (start.run before).value.2.appended c,
          e.kind.family = .button ∨ e.kind.family = .motion →
            e.device = some pointer ∧ (t.get? pointer).isSome = true := by
  intro start pointer keyboard t
  have hstart : start.hub.devices.KeepsCore := DeviceTable.keepsCore_initial
  have ht : t.KeepsCore := keepsCore_run hstart steps
  refine ⟨by decide, congrArg some ht.pointer_eq, congrArg some ht.keyboard_eq, rfl,
    ht.get?_pointer, ht.get?_keyboard, ht.erase_of_isCore (by decide),
    ht.erase_of_isCore (by decide), ?_⟩
  intro before c later _ hplatform e he hpointing
  -- The core pointer was the same when the event was added.
  have hthen := (keepsCore_run hstart before).pointer_eq
  have hdevice := isBy_of_mem_appended hplatform he hpointing
  obtain ⟨stage, hknown⟩ := ht.get?_pointer
  exact ⟨hdevice.trans (congrArg some hthen), by rw [hknown]; rfl⟩

end Session

end EventPipeline
