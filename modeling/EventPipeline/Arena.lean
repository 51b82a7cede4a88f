import EventPipeline.Handle

namespace EventPipeline

/-!
# Generational arenas

An arena keeps values in numbered slots and hands out a handle for each. A slot that was vacated
is used again, the one vacated last first, but its next occupant has another generation, so an
old handle never names a new value.

* `Arena.get?`, `Arena.insert`, `Arena.erase`, `Arena.modify` — looking up and changing.
* `Arena.size`, `Arena.capacity` — how many values are kept, and how many there is room for.
* `Arena.toList` — the handles in use with their values, in the order of the slots.
-/

/-- The occupant of a slot. -/
structure Occupant (α : Type) where
  /-- The generation of the occupant's handle. -/
  generation : UInt32
  /-- What is kept. -/
  value : α
deriving DecidableEq, Repr

/-- Values in numbered slots. -/
structure Arena (kind : HandleKind) (α : Type) where
  /-- The occupants of the slots `1`, `2`, …; a vacant slot has none. -/
  slots : Array (Option (Occupant α)) := #[]
  /-- The next handles of the vacant slots, of the slot vacated last first. -/
  vacated : List (Handle kind) := []
deriving DecidableEq, Repr

namespace Arena

variable {kind : HandleKind} {α : Type}

/-- How many values an arena has room for. The slot with the greatest number is never used. -/
def capacity : Nat := 4294967294

/-- The arena without a value. -/
def empty : Arena kind α := {}

/-- The position in `slots` of the slot that a handle names; no slot has number `0`. -/
def position? (h : Handle kind) : Option Nat :=
  if h.slot = 0 then none else some (h.slot.toNat - 1)

/-- The value that a handle names. -/
def get? (a : Arena kind α) (h : Handle kind) : Option α := do
  let occupant ← (← a.slots[← position? h]?)
  if occupant.generation = h.generation then some occupant.value else none

/-- The slots with an occupant, or none, put into the one that a handle names. -/
def place (a : Arena kind α) (h : Handle kind) (occupant : Option (Occupant α)) :
    Array (Option (Occupant α)) :=
  match position? h with
  | some i => a.slots.setIfInBounds i occupant
  | none => a.slots

/-- Keeps a value and gives the handle that names it from now on. There must be room for it. -/
def insert (a : Arena kind α) (value : α) : Handle kind × Arena kind α :=
  match a.vacated with
  | h :: rest => (h, ⟨a.place h (some ⟨h.generation, value⟩), rest⟩)
  | [] =>
    let h := .first (UInt32.ofNat (a.slots.size + 1))
    (h, ⟨a.slots.push (some ⟨h.generation, value⟩), []⟩)

/-- Gives up the value that a handle names. -/
def erase (a : Arena kind α) (h : Handle kind) : Option α × Arena kind α :=
  match a.get? h with
  | some value => (some value, ⟨a.place h none, h.successor :: a.vacated⟩)
  | none => (none, a)

/-- Changes the value that a handle names, and says whether there was one. -/
def modify (a : Arena kind α) (h : Handle kind) (f : α → α) : Bool × Arena kind α :=
  match a.get? h with
  | some value => (true, { a with slots := a.place h (some ⟨h.generation, f value⟩) })
  | none => (false, a)

/-- The handles in use with their values, in the order of the slots. -/
def toList (a : Arena kind α) : List (Handle kind × α) :=
  a.slots.toList.zipIdx.filterMap fun (occupant?, i) =>
    occupant?.map fun occupant => (⟨UInt32.ofNat (i + 1), occupant.generation⟩, occupant.value)

/-- How many values are kept. -/
def size (a : Arena kind α) : Nat := a.slots.toList.countP Option.isSome

end Arena

end EventPipeline
