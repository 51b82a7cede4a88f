namespace EventPipeline

/-!
# Modifier keys and held buttons

`Modifiers` is the set of modifier keys and pointer buttons that were down when an event
happened, as a set of bits. Bits without a meaning are kept.

* `Modifiers.shift` … `Modifiers.release` — the named bits.
* `Modifiers.union`, `Modifiers.without` — adding and taking away.
* `Modifiers.ofButton` — the bit of a held pointer button.
* `Modifiers.names` — the names of the bits that are set.
-/

/-- A set of modifier keys and held pointer buttons. -/
@[ext] structure Modifiers where
  /-- The set as bits. -/
  bits : UInt32 := 0
deriving DecidableEq, Repr

namespace Modifiers

/-- No key and no button. -/
def empty : Modifiers := ⟨0⟩

instance : EmptyCollection Modifiers := ⟨empty⟩

/-- The set with the single bit at position `n`. -/
def bit (n : UInt32) : Modifiers := ⟨1 <<< n⟩

/-! ### The named bits -/

/-- A shift key. -/
def shift : Modifiers := bit 0
/-- The caps lock. -/
def lock : Modifiers := bit 1
/-- A control key. -/
def control : Modifiers := bit 2
/-- The first numbered modifier, by custom an alt key. -/
def mod1 : Modifiers := bit 3
/-- The second numbered modifier. -/
def mod2 : Modifiers := bit 4
/-- The third numbered modifier. -/
def mod3 : Modifiers := bit 5
/-- The fourth numbered modifier. -/
def mod4 : Modifiers := bit 6
/-- The fifth numbered modifier. -/
def mod5 : Modifiers := bit 7
/-- The first pointer button. -/
def button1 : Modifiers := bit 8
/-- The second pointer button. -/
def button2 : Modifiers := bit 9
/-- The third pointer button. -/
def button3 : Modifiers := bit 10
/-- The fourth pointer button. -/
def button4 : Modifiers := bit 11
/-- The fifth pointer button. -/
def button5 : Modifiers := bit 12
/-- A super key. -/
def super : Modifiers := bit 26
/-- A hyper key. -/
def hyper : Modifiers := bit 27
/-- A meta key. -/
def metaKey : Modifiers := bit 28
/-- The mark of a release. -/
def release : Modifiers := bit 30

/-- The named bits with their names, lowest bit first. -/
def named : List (String × Modifiers) :=
  [("SHIFT", shift), ("LOCK", lock), ("CONTROL", control), ("MOD1", mod1), ("MOD2", mod2),
   ("MOD3", mod3), ("MOD4", mod4), ("MOD5", mod5), ("BUTTON1", button1), ("BUTTON2", button2),
   ("BUTTON3", button3), ("BUTTON4", button4), ("BUTTON5", button5), ("SUPER", super),
   ("HYPER", hyper), ("META", metaKey), ("RELEASE", release)]

/-! ### Sets -/

/-- What is in either set. -/
def union (a b : Modifiers) : Modifiers := ⟨a.bits ||| b.bits⟩

/-- What is in both sets. -/
def inter (a b : Modifiers) : Modifiers := ⟨a.bits &&& b.bits⟩

/-- What is in the first set and not in the second. -/
def without (a b : Modifiers) : Modifiers := ⟨a.bits &&& ~~~b.bits⟩

instance : Union Modifiers := ⟨union⟩
instance : Inter Modifiers := ⟨inter⟩
instance : SDiff Modifiers := ⟨without⟩

/-- Whether all of `b` is in `a`. -/
def contains (a b : Modifiers) : Bool := a ∩ b == b

/-- The given set where `on` holds, and nothing otherwise. -/
def onlyIf (on : Bool) (m : Modifiers) : Modifiers := if on then m else ∅

/-- The union of a list of sets. -/
def unionAll (ms : List Modifiers) : Modifiers := ms.foldl (· ∪ ·) ∅

/-- All the bits that have a name. -/
def known : Modifiers := unionAll (named.map (·.2))

/-- The set less its bits without a name. -/
def truncate (m : Modifiers) : Modifiers := m ∩ known

/-- Whether every bit of the set has a name. -/
def isKnown (m : Modifiers) : Bool := known.contains m

/-- The names of the named bits in the set, lowest bit first. -/
def names (m : Modifiers) : List String :=
  (named.filter fun entry => m.contains entry.2).map (·.1)

/-- The bit of a held pointer button, counted from `1`. Only the first five buttons have one. -/
def ofButton (button : UInt32) : Modifiers :=
  match button.toNat with
  | 1 => button1
  | 2 => button2
  | 3 => button3
  | 4 => button4
  | 5 => button5
  | _ => ∅

@[simp] theorem bits_union (a b : Modifiers) : (a ∪ b).bits = a.bits ||| b.bits := rfl

@[simp] theorem bits_inter (a b : Modifiers) : (a ∩ b).bits = a.bits &&& b.bits := rfl

@[simp] theorem bits_sdiff (a b : Modifiers) : (a \ b).bits = a.bits &&& ~~~b.bits := rfl

@[simp] theorem bits_empty : (∅ : Modifiers).bits = 0 := rfl

end Modifiers

end EventPipeline
