import EventPipeline.Event.Basic

namespace EventPipeline

/-!
# The queue of pending events

Events leave the queue in the order in which they joined it. They stand in a row, which is kept as
two lists, so that neither end has to be searched for. The row is made when the first event joins,
and it stays when the last one has left. What the queue holds is `EventQueue.toList`.

* `EventRow` — events in their order, with both ends at hand.
* `EventQueue` — a row, or none as long as no event has joined.
* `EventQueue.push`, `EventQueue.pop`, `EventQueue.peek?` — joining, leaving, looking ahead.
* `EventQueue.clear` — dropping all events.
* `EventQueue.toList` — the events, oldest first.
-/

/-! ### Rows of events -/

/-- Events in a row. -/
structure EventRow where
  /-- The oldest events, oldest first. -/
  front : List Event := []
  /-- The events after those, newest first. -/
  back : List Event := []
deriving DecidableEq, Repr

namespace EventRow

/-- The row without an event. -/
def empty : EventRow := {}

instance : EmptyCollection EventRow := ⟨empty⟩

/-- The events, oldest first. -/
def toList (r : EventRow) : List Event := r.front ++ r.back.reverse

/-- Adds an event behind all others. -/
def push (r : EventRow) (e : Event) : EventRow := { r with back := e :: r.back }

/-- Takes the oldest event. -/
def pop (r : EventRow) : Option Event × EventRow :=
  match r.front with
  | e :: rest => (some e, { r with front := rest })
  | [] =>
    match r.back.reverse with
    | e :: rest => (some e, ⟨rest, []⟩)
    | [] => (none, r)

/-- The oldest event. -/
def peek? (r : EventRow) : Option Event := r.front.head?.or r.back.getLast?

/-- How many events there are. -/
def size (r : EventRow) : Nat := r.front.length + r.back.length

/-- Whether there is no event. -/
def isEmpty (r : EventRow) : Bool := r.front.isEmpty && r.back.isEmpty

@[simp] theorem toList_empty : (∅ : EventRow).toList = [] := rfl

@[simp] theorem toList_push (r : EventRow) (e : Event) : (r.push e).toList = r.toList ++ [e] := by
  simp [push, toList]

@[simp] theorem length_toList (r : EventRow) : r.toList.length = r.size := by
  simp [toList, size]

theorem fst_pop (r : EventRow) : r.pop.1 = r.toList.head? := by
  rcases r with ⟨_ | ⟨e, rest⟩, back⟩
  · simp only [pop, toList, List.nil_append]
    cases back.reverse <;> rfl
  · rfl

theorem toList_snd_pop (r : EventRow) : r.pop.2.toList = r.toList.tail := by
  rcases r with ⟨_ | ⟨e, rest⟩, back⟩
  · simp only [pop, toList, List.nil_append]
    cases hback : back.reverse with
    | nil => simp [hback]
    | cons e rest => simp
  · rfl

theorem peek?_eq_head? (r : EventRow) : r.peek? = r.toList.head? := by
  rcases r with ⟨_ | ⟨e, rest⟩, back⟩ <;> simp [peek?, toList]

theorem isEmpty_iff (r : EventRow) : r.isEmpty = true ↔ r.toList = [] := by
  simp [isEmpty, toList]

/-- There is one row without an event. -/
theorem toList_eq_nil_iff (r : EventRow) : r.toList = [] ↔ r = ∅ := by
  constructor
  · intro h
    obtain ⟨hfront, hback⟩ := List.append_eq_nil_iff.mp h
    obtain ⟨front, back⟩ := r
    rw [List.reverse_eq_nil_iff] at hback
    exact congr (congrArg EventRow.mk hfront) hback
  · rintro rfl
    rfl

end EventRow

/-! ### The queue -/

/-- Pending events. -/
structure EventQueue where
  /-- The row in which they stand. There is none before the first event has joined. -/
  row? : Option EventRow := none
deriving DecidableEq, Repr

namespace EventQueue

/-- The queue that no event has joined. -/
def empty : EventQueue := {}

instance : EmptyCollection EventQueue := ⟨empty⟩

/-- The events, oldest first. -/
def toList (q : EventQueue) : List Event := (q.row?.map EventRow.toList).getD []

/-- Adds an event behind all others, in a new row if there is none. -/
def push (q : EventQueue) (e : Event) : EventQueue := ⟨some ((q.row?.getD ∅).push e)⟩

/-- Takes the oldest event. -/
def pop (q : EventQueue) : Option Event × EventQueue :=
  match q.row? with
  | none => (none, q)
  | some row =>
    let (e?, row) := row.pop
    (e?, ⟨some row⟩)

/-- The oldest event. -/
def peek? (q : EventQueue) : Option Event := q.row?.bind EventRow.peek?

/-- Whether an event is pending. -/
def hasPending (q : EventQueue) : Bool := q.row?.any fun row => !row.isEmpty

/-- How many events are pending. -/
def size (q : EventQueue) : Nat := (q.row?.map EventRow.size).getD 0

/-- Whether no event is pending. -/
def isEmpty (q : EventQueue) : Bool := !q.hasPending

/-- Drops all events. The row stays. -/
def clear (q : EventQueue) : EventQueue := ⟨q.row?.map fun _ => ∅⟩

/-! ### The queue as a list -/

@[simp] theorem toList_empty : (∅ : EventQueue).toList = [] := rfl

@[simp] theorem toList_push (q : EventQueue) (e : Event) :
    (q.push e).toList = q.toList ++ [e] := by
  rcases q with ⟨_ | row⟩
  · rfl
  · exact row.toList_push e

@[simp] theorem length_toList (q : EventQueue) : q.toList.length = q.size := by
  rcases q with ⟨_ | row⟩
  · rfl
  · exact row.length_toList

theorem fst_pop (q : EventQueue) : q.pop.1 = q.toList.head? := by
  rcases q with ⟨_ | row⟩
  · rfl
  · exact row.fst_pop

theorem toList_snd_pop (q : EventQueue) : q.pop.2.toList = q.toList.tail := by
  rcases q with ⟨_ | row⟩
  · rfl
  · exact row.toList_snd_pop

/-- Taking from a queue without an event changes nothing. -/
theorem pop_of_toList_eq_nil {q : EventQueue} (h : q.toList = []) : q.pop = (none, q) := by
  rcases q with ⟨_ | row⟩
  · rfl
  · obtain rfl := row.toList_eq_nil_iff.mp h
    rfl

theorem peek?_eq_head? (q : EventQueue) : q.peek? = q.toList.head? := by
  rcases q with ⟨_ | row⟩
  · rfl
  · exact row.peek?_eq_head?

theorem hasPending_iff (q : EventQueue) : q.hasPending = true ↔ q.toList ≠ [] := by
  rcases q with ⟨_ | row⟩
  · simp [hasPending, toList]
  · show (!row.isEmpty) = true ↔ row.toList ≠ []
    rw [Bool.not_eq_true', ← Bool.not_eq_true, row.isEmpty_iff]

/-! ### Queues without an event -/

@[simp] theorem toList_clear (q : EventQueue) : q.clear.toList = [] := by
  rcases q with ⟨_ | row⟩ <;> rfl

@[simp] theorem clear_clear (q : EventQueue) : q.clear.clear = q.clear := by
  rcases q with ⟨_ | row⟩ <;> rfl

/-- A queue without an event has nothing to drop. -/
theorem clear_of_toList_eq_nil {q : EventQueue} (h : q.toList = []) : q.clear = q := by
  rcases q with ⟨_ | row⟩
  · rfl
  · obtain rfl := row.toList_eq_nil_iff.mp h
    rfl

@[simp] theorem clear_snd_pop (q : EventQueue) : q.pop.2.clear = q.clear := by
  rcases q with ⟨_ | row⟩ <;> rfl

/-- Dropping all events leaves the queue that no event has joined exactly if none ever has. -/
theorem clear_eq_empty_iff (q : EventQueue) : q.clear = ∅ ↔ q = ∅ := by
  rcases q with ⟨_ | row⟩
  · exact iff_of_true rfl rfl
  · constructor
    · intro h
      exact absurd (congrArg row? h) (Option.some_ne_none _)
    · intro h
      exact absurd (congrArg row? h) (Option.some_ne_none _)

end EventQueue

end EventPipeline
