import EventPipeline.Arena

namespace EventPipeline

/-!
# Input devices

* `Device` — a device's record: its name, its kind, and the stage it is over.
* `DeviceTable` — the known devices. A core pointer and a core keyboard are always among them.
* `DeviceTable.perform`, `DeviceTable.run` — one step on a table, named by a
  `DeviceTable.Command`, and the steps of a list.
-/

/-- The kinds of input device. -/
inductive DeviceKind where
  /-- A mouse, a touch screen or another pointing device. -/
  | pointer
  /-- A keyboard. -/
  | keyboard
  /-- A tablet, a pad or another extension. -/
  | extension
deriving DecidableEq, Repr

/-- What is known of an input device. -/
structure Device where
  /-- The name shown to users. -/
  name : String
  /-- The kind of device. -/
  kind : DeviceKind
  /-- The stage that the device is over. -/
  stage : Option StageId := none
deriving DecidableEq, Repr

/-- The known devices, with the core pointer and the core keyboard. -/
structure DeviceTable where
  /-- The records. -/
  devices : Arena .device Device
  /-- The core pointer. -/
  pointer : DeviceId
  /-- The core keyboard. -/
  keyboard : DeviceId
deriving DecidableEq, Repr

namespace DeviceTable

/-- The table that knows the two core devices only. -/
def initial : DeviceTable :=
  let (pointer, devices) := Arena.empty.insert { name := "Core Pointer", kind := .pointer }
  let (keyboard, devices) := devices.insert { name := "Core Keyboard", kind := .keyboard }
  { devices, pointer, keyboard }

instance : Inhabited DeviceTable := ⟨initial⟩

/-- The core device of the given kind. There is no core extension. -/
def core? (t : DeviceTable) : DeviceKind → Option DeviceId
  | .pointer => some t.pointer
  | .keyboard => some t.keyboard
  | .extension => none

/-- Whether a handle names a core device. -/
def isCore (t : DeviceTable) (id : DeviceId) : Bool := id == t.pointer || id == t.keyboard

/-- The record of a device. -/
def get? (t : DeviceTable) (id : DeviceId) : Option Device := t.devices.get? id

/-- Makes a device known, if there is room for it. -/
def insert (t : DeviceTable) (d : Device) : Option DeviceId × DeviceTable :=
  if t.devices.size < Arena.capacity then
    let (id, devices) := t.devices.insert d
    (some id, { t with devices })
  else
    (none, t)

/-- Forgets a device and gives its record. Core devices stay. -/
def erase (t : DeviceTable) (id : DeviceId) : Option Device × DeviceTable :=
  if t.isCore id then (none, t)
  else
    let (d?, devices) := t.devices.erase id
    (d?, { t with devices })

/-- Records the stage that a device is over, and says whether the device is known. -/
def setStage (t : DeviceTable) (id : DeviceId) (stage : Option StageId) : Bool × DeviceTable :=
  let (found, devices) := t.devices.modify id fun d => { d with stage }
  (found, { t with devices })

/-- How many devices are known. -/
def size (t : DeviceTable) : Nat := t.devices.size

/-- The devices with their handles, in the order of their slots. -/
def toList (t : DeviceTable) : List (DeviceId × Device) := t.devices.toList

/-! ### Steps -/

/-- A step on a device table. -/
inductive Command where
  /-- Makes a device known. -/
  | insert (d : Device)
  /-- Forgets a device. -/
  | erase (id : DeviceId)
  /-- Records the stage that a device is over. -/
  | setStage (id : DeviceId) (stage : Option StageId)
  /-- Asks for the core device of a kind. -/
  | core (kind : DeviceKind)
  /-- Asks for the record of a device. -/
  | get (id : DeviceId)
  /-- Asks for all devices. -/
  | list
deriving DecidableEq, Repr

/-- What a step on a device table answers. -/
inductive Reply where
  /-- The handle of a device, if there is one. -/
  | handle (id : Option DeviceId)
  /-- The record of a device, if there is one. -/
  | record (d : Option Device)
  /-- Whether the device was known. -/
  | known (found : Bool)
  /-- All devices, in the order of their slots. -/
  | devices (ds : List (DeviceId × Device))
deriving DecidableEq, Repr

/-- The answer to a step, and the table after it. -/
def perform (t : DeviceTable) : Command → Reply × DeviceTable
  | .insert d => (t.insert d).map .handle fun t => t
  | .erase id => (t.erase id).map .record fun t => t
  | .setStage id stage => (t.setStage id stage).map .known fun t => t
  | .core kind => (.handle (t.core? kind), t)
  | .get id => (.record (t.get? id), t)
  | .list => (.devices t.toList, t)

/-- The answers to the steps of a list, and the table after the last one. -/
def run (t : DeviceTable) : List Command → List Reply × DeviceTable
  | [] => ([], t)
  | c :: rest =>
    let (answer, t) := t.perform c
    let (answers, t) := run t rest
    (answer :: answers, t)

end DeviceTable

end EventPipeline
