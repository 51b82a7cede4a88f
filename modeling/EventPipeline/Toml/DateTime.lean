import EventPipeline.Toml.Reader

namespace EventPipeline

/-!
# Dates and times of a TOML document

* `Toml.calendarDate` — a day that exists.
* `Toml.clockTime`, `Toml.zone` — a time of day, and its distance from universal time.
* `Toml.isTime`, `Toml.isDateTime` — whether a text is a time, or a date with or without one.
-/

namespace Toml

/-- The number that two decimal digits write. -/
def twoDigits? (a b : Char) : Option Nat :=
  if a.isDigit && b.isDigit then some (10 * (a.toNat - '0'.toNat) + (b.toNat - '0'.toNat))
  else none

/-- Whether a year has a leap day. -/
def isLeapYear (year : Nat) : Bool := year % 4 = 0 && (year % 100 ≠ 0 || year % 400 = 0)

/-- How many days a month of a year has. -/
def daysIn (year month : Nat) : Nat :=
  if month = 2 then (if isLeapYear year then 29 else 28)
  else if month = 4 || month = 6 || month = 9 || month = 11 then 30
  else 31

/-- Takes a day of the calendar. -/
def calendarDate : Reader Unit
  | a :: b :: c :: d :: '-' :: e :: f :: '-' :: g :: h :: rest => do
    let year := 100 * (← twoDigits? a b) + (← twoDigits? c d)
    let month ← twoDigits? e f
    let day ← twoDigits? g h
    if 1 ≤ month ∧ month ≤ 12 ∧ 1 ≤ day ∧ day ≤ daysIn year month then some ((), rest) else none
  | _ => none

/-- Takes a fraction of a second, if there is one. -/
def secondFraction : Reader Unit
  | '.' :: d :: rest => if d.isDigit then some ((), rest.dropWhile Char.isDigit) else none
  | '.' :: [] => none
  | rest => some ((), rest)

/-- Takes a time of day. The second may be a leap second. -/
def clockTime : Reader Unit
  | a :: b :: ':' :: c :: d :: ':' :: e :: f :: rest => do
    let hour ← twoDigits? a b
    let minute ← twoDigits? c d
    let second ← twoDigits? e f
    if hour ≤ 23 ∧ minute ≤ 59 ∧ second ≤ 60 then secondFraction rest else none
  | _ => none

/-- Whether a text is empty or gives the distance from universal time. -/
def isZone : List Char → Bool
  | [] => true
  | [z] => z = 'Z' || z = 'z'
  | [sign, a, b, ':', c, d] =>
    (sign = '+' || sign = '-') &&
      match twoDigits? a b, twoDigits? c d with
      | some hour, some minute => hour ≤ 23 && minute ≤ 59
      | _, _ => false
  | _ => false

/-- Whether a text is a time of day that may give its distance from universal time. -/
def isZonedTime (cs : List Char) : Bool :=
  match clockTime cs with
  | some (_, rest) => isZone rest
  | none => false

/-- Whether a text is a time of day. -/
def isTime (cs : List Char) : Bool :=
  match clockTime cs with
  | some (_, rest) => rest.isEmpty
  | none => false

/-- Whether a text is a day of the calendar. -/
def isDate (cs : List Char) : Bool :=
  match calendarDate cs with
  | some (_, rest) => rest.isEmpty
  | none => false

/-- Whether a text is a day with a time behind a letter `T`, a day, or a time. -/
def isDateTime (cs : List Char) : Bool :=
  isTime cs ||
    match calendarDate cs with
    | some (_, []) => true
    | some (_, t :: rest) => (t = 'T' || t = 't') && isZonedTime rest
    | none => false

end Toml

end EventPipeline
