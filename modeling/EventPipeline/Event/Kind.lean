import EventPipeline.Error

namespace EventPipeline

/-!
# Kinds of event

* `EventKind` — what happened, with its number and its name.
* `EventFamily` — what an event of a kind carries.
* `ScrollDirection` — the ways a scroll step can go.
-/

/-- What an event of some kind carries. -/
inductive EventFamily where
  /-- Nothing at all. -/
  | nothing
  /-- A key. -/
  | key
  /-- A pointer button. -/
  | button
  /-- A pointer that moved. -/
  | motion
  /-- A scroll step. -/
  | scroll
deriving DecidableEq, Repr

/-- What happened. -/
inductive EventKind where
  /-- No event. -/
  | nothing
  /-- A key went down. -/
  | keyPress
  /-- A key went up. -/
  | keyRelease
  /-- The pointer moved. -/
  | motion
  /-- A button went down. -/
  | buttonPress
  /-- A button went down for the second time of a double click. -/
  | doublePress
  /-- A button went down for the third time of a triple click. -/
  | triplePress
  /-- A button went up. -/
  | buttonRelease
  /-- A scroll step. -/
  | scroll
deriving DecidableEq, Repr

namespace EventKind

/-- The kinds in the order of their numbers. -/
def all : List EventKind :=
  [nothing, keyPress, keyRelease, motion, buttonPress, doublePress, triplePress, buttonRelease,
   scroll]

/-- The number that stands for a kind. -/
def number : EventKind → UInt32
  | nothing => 0
  | keyPress => 1
  | keyRelease => 2
  | motion => 3
  | buttonPress => 4
  | doublePress => 5
  | triplePress => 6
  | buttonRelease => 7
  | scroll => 8

/-- The kind that a number stands for. -/
def ofNumber (n : UInt32) : Except Error EventKind :=
  match all.find? fun kind => kind.number == n with
  | some kind => .ok kind
  | none => .error (.unknownEventType n)

/-- The name of a kind. -/
def name : EventKind → String
  | nothing => "Nothing"
  | keyPress => "KeyPress"
  | keyRelease => "KeyRelease"
  | motion => "Motion"
  | buttonPress => "ButtonPress"
  | doublePress => "TwoButtonPress"
  | triplePress => "ThreeButtonPress"
  | buttonRelease => "ButtonRelease"
  | scroll => "Scroll"

/-- What an event of this kind carries. -/
def family : EventKind → EventFamily
  | nothing => .nothing
  | keyPress | keyRelease => .key
  | buttonPress | doublePress | triplePress | buttonRelease => .button
  | motion => .motion
  | scroll => .scroll

/-- Whether a button went down, be it once, twice or three times. -/
def isPress : EventKind → Bool
  | buttonPress | doublePress | triplePress => true
  | _ => false

end EventKind

/-- The way a scroll step goes. -/
inductive ScrollDirection where
  /-- Away from the user. -/
  | up
  /-- Towards the user. -/
  | down
  /-- To the left. -/
  | left
  /-- To the right. -/
  | right
deriving DecidableEq, Repr

namespace ScrollDirection

/-- The directions in the order of their numbers. -/
def all : List ScrollDirection := [up, down, left, right]

/-- The number that stands for a direction. -/
def number : ScrollDirection → UInt32
  | up => 0
  | down => 1
  | left => 2
  | right => 3

/-- The direction that a number stands for. -/
def ofNumber (n : UInt32) : Except Error ScrollDirection :=
  match all.find? fun direction => direction.number == n with
  | some direction => .ok direction
  | none => .error (.unknownScrollDirection n)

/-- The name of a direction. -/
def name : ScrollDirection → String
  | up => "Up"
  | down => "Down"
  | left => "Left"
  | right => "Right"

end ScrollDirection

end EventPipeline
