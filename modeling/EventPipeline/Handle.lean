namespace EventPipeline

/-!
# Handles

Events name the stage they are aimed at and the device they came from by handles. A handle is a
name, not ownership: it may outlive what it names, and it is only ever copied, compared and
looked up.

* `Handle` — a slot number with the generation of the slot's occupant.
* `StageId`, `DeviceId` — handles of the two kinds of thing that are named.
-/

/-- The kinds of thing that a handle can name. -/
inductive HandleKind where
  /-- A stage, a top-level drawing surface. -/
  | stage
  /-- An input device. -/
  | device
deriving DecidableEq, Repr

/-- The name of a thing kept in a numbered slot. The generation tells the occupants of one slot
    apart; it is odd for every handle that is given out. -/
@[ext] structure Handle (kind : HandleKind) where
  /-- The slot, counted from `1`. -/
  slot : UInt32
  /-- Which occupant of the slot is meant. -/
  generation : UInt32
deriving DecidableEq, Repr

/-- The name of a stage. -/
abbrev StageId := Handle .stage

/-- The name of an input device. -/
abbrev DeviceId := Handle .device

namespace Handle

variable {kind : HandleKind}

/-- The handle with the given parts. An even generation stands for the odd one after it. -/
def ofParts (slot generation : UInt32) : Handle kind := ⟨slot, generation ||| 1⟩

/-- The handle of the first occupant of a slot. -/
def first (slot : UInt32) : Handle kind := ⟨slot, 1⟩

/-- The handle of the occupant that follows this one in the same slot. -/
def successor (h : Handle kind) : Handle kind := ⟨h.slot, h.generation + 2⟩

@[simp] theorem slot_first (slot : UInt32) : (first slot : Handle kind).slot = slot := rfl

@[simp] theorem slot_successor (h : Handle kind) : h.successor.slot = h.slot := rfl

@[simp] theorem generation_successor (h : Handle kind) :
    h.successor.generation = h.generation + 2 := rfl

end Handle

end EventPipeline
