import EventPipeline.Proofs.Queue.Ledger

namespace EventPipeline

/-!
# The lifetime of a handler

A registration is in force from the step that makes it to the step that ends it: the next
registration, the removal of the handler, or the end of the dispatcher.

* `Lifetime` — a registration as it was made, and the events it was given while it was in force.
* `Dispatcher.inForce` — the registration in force after some steps, as a lifetime.
* `Dispatcher.lifetimes` — all registrations that some steps make, each with its whole lifetime.
* `Dispatcher.seen` — what can be seen of some steps, told from the registrations in force.

The registration in force is the one made last that no step has ended since
(`Dispatcher.inForce_eq_some_iff`).  A whole lifetime has one teardown or none, as its registration
asks (`Dispatcher.tornDown_effects`).
-/

/-- A registration as it was made, and the events that it was given since. -/
structure Lifetime (δ : Type) where
  /-- The handler with the data that it began with. -/
  registration : Registration δ
  /-- The events that the handler was given, in their order. -/
  events : List Event

namespace Lifetime

variable {δ : Type}

/-- The data after all events: what the handler makes of them one after the other. -/
def data (l : Lifetime δ) : δ :=
  l.events.foldl (fun data e => l.registration.handle e data) l.registration.data

/-- The registration after all events. -/
def current (l : Lifetime δ) : Registration δ := { l.registration with data := l.data }

/-- The lifetime with one event more. -/
def hear (l : Lifetime δ) (e : Event) : Lifetime δ := { l with events := l.events ++ [e] }

/-- What can be seen of one event more. -/
def delivery (l : Lifetime δ) (e : Event) : Effect δ :=
  .handled e (l.registration.handle e l.data)

/-- What can be seen of the end: the data is torn down once, if the registration asks for it. -/
def ending (l : Lifetime δ) : List (Effect δ) :=
  if l.registration.hasTeardown then [.tornDown l.data] else []

/-- What can be seen of a whole lifetime: its events, and then its end. -/
def effects (l : Lifetime δ) : List (Effect δ) :=
  (l.events.mapIdx fun n e => ({ l with events := l.events.take n } : Lifetime δ).delivery e)
    ++ l.ending

theorem data_hear (l : Lifetime δ) (e : Event) :
    (l.hear e).data = l.registration.handle e l.data := by
  rw [data, hear, List.foldl_append]
  rfl

/-- The registration goes on as its lifetime does. -/
theorem current_hear (l : Lifetime δ) (e : Event) : (l.hear e).current = l.current.receive e := by
  rw [current, data_hear]
  rfl

theorem retire_current (l : Lifetime δ) : l.current.retire = l.ending := rfl

/-- A lifetime may be told from its first event on. -/
theorem effects_cons (r : Registration δ) (e : Event) (es : List Event) :
    (⟨r, e :: es⟩ : Lifetime δ).effects =
      .handled e (r.receive e).data :: (⟨r.receive e, es⟩ : Lifetime δ).effects := by
  rw [effects, List.mapIdx_cons]
  rfl

end Lifetime

namespace Dispatcher

variable {δ : Type}

/-! ### Lifetimes told from the steps -/

/-- Whether a step leaves the registration in force, if there is one. -/
def Command.keeps : Command δ → Bool
  | .register _ | .unregister => false
  | .dispatch _ | .text => true

/-- The registration that a step makes, if it makes one. -/
def Command.registration? : Command δ → Option (Registration δ)
  | .register r => some r
  | .unregister | .dispatch _ | .text => none

/-- The event that a step gives to the handler, if it gives one. -/
def Command.event? : Command δ → Option Event
  | .dispatch e => some e
  | .register _ | .unregister | .text => none

/-- The registration in force after a step, told from the one before it. -/
def note (l? : Option (Lifetime δ)) : Command δ → Option (Lifetime δ)
  | .register r => some ⟨r, []⟩
  | .unregister => none
  | .dispatch e => l?.map (·.hear e)
  | .text => l?

/-- The registration in force after some steps on the new dispatcher. -/
def inForce (steps : List (Command δ)) : Option (Lifetime δ) := steps.foldl note none

/-- The events that steps give to a handler that is registered before them. -/
def heard (steps : List (Command δ)) : List Event :=
  (steps.takeWhile Command.keeps).filterMap Command.event?

/-- The registrations that steps make, each with the events it is given until a step ends it. -/
def lifetimes : List (Command δ) → List (Lifetime δ)
  | [] => []
  | .register r :: rest => ⟨r, heard rest⟩ :: lifetimes rest
  | .unregister :: rest | .dispatch _ :: rest | .text :: rest => lifetimes rest

/-- What can be seen of a step on a dispatcher, told from the registration in force. -/
def Command.effects (l? : Option (Lifetime δ)) : Command δ → List (Effect δ)
  | .register _ | .unregister => l?.elim [] Lifetime.ending
  | .dispatch e => l?.elim [] fun l => [l.delivery e]
  | .text => []

/-- What can be seen of some steps, each told from the registration in force before it. -/
def seen (l? : Option (Lifetime δ)) : List (Command δ) → List (Effect δ)
  | [] => []
  | c :: rest => c.effects l? ++ seen (note l? c) rest

/-- The data that was torn down, in the order in which it was. -/
def tornDown (trace : List (Effect δ)) : List δ :=
  trace.filterMap fun
    | .tornDown data => some data
    | .logged _ | .handled .. => none

/-- While steps keep a registration, it is given their events. -/
theorem foldl_note_of_keeps (l : Lifetime δ) {during : List (Command δ)}
    (hkeeps : ∀ c ∈ during, c.keeps = true) :
    during.foldl note (some l) =
      some { l with events := l.events ++ during.filterMap Command.event? } := by
  induction during generalizing l with
  | nil =>
    rw [List.filterMap_nil, List.append_nil]
    rfl
  | cons c rest ih =>
    rw [List.forall_mem_cons] at hkeeps
    cases c with
    | register r => exact Bool.noConfusion hkeeps.1
    | unregister => exact Bool.noConfusion hkeeps.1
    | dispatch e =>
      have hrest := ih (l.hear e) hkeeps.2
      rw [Lifetime.hear, List.append_assoc] at hrest
      exact hrest
    | text => exact ih l hkeeps.2

/-- What is in force after some steps was in force before them and was kept, or one of them has
    registered it and the later ones have kept it. -/
theorem exists_register_of_foldl_note {l? : Option (Lifetime δ)} {l : Lifetime δ}
    {steps : List (Command δ)} (hforce : steps.foldl note l? = some l) :
    (l?.isSome = true ∧ ∀ c ∈ steps, c.keeps = true) ∨
      ∃ before during, steps = before ++ .register l.registration :: during ∧
        (∀ c ∈ during, c.keeps = true) ∧ l.events = during.filterMap Command.event? := by
  induction steps generalizing l? with
  | nil =>
    left
    rw [List.foldl_nil] at hforce
    rw [hforce]
    exact ⟨rfl, fun c hc => absurd hc List.not_mem_nil⟩
  | cons c rest ih =>
    obtain ⟨hsome, hkeeps⟩ | ⟨before, during, rfl, hkeeps, hevents⟩ := ih hforce
    · cases c with
      | register r =>
        -- The registration is the one that was sought, since all later steps have kept it.
        have hlast := foldl_note_of_keeps (⟨r, []⟩ : Lifetime δ) hkeeps
        obtain rfl := Option.some.inj (hlast.symm.trans hforce)
        exact .inr ⟨[], rest, rfl, hkeeps, rfl⟩
      | unregister => exact Bool.noConfusion hsome
      | dispatch e =>
        rw [note, Option.isSome_map] at hsome
        exact .inl ⟨hsome, List.forall_mem_cons.mpr ⟨rfl, hkeeps⟩⟩
      | text => exact .inl ⟨hsome, List.forall_mem_cons.mpr ⟨rfl, hkeeps⟩⟩
    · exact .inr ⟨c :: before, during, rfl, hkeeps, hevents⟩

/-- The registration in force is the one that was made last, if no step has ended it since, and its
    events are those of the steps since. -/
theorem inForce_eq_some_iff {steps : List (Command δ)} {l : Lifetime δ} :
    inForce steps = some l ↔
      ∃ before during, steps = before ++ .register l.registration :: during ∧
        (∀ c ∈ during, c.keeps = true) ∧ l.events = during.filterMap Command.event? := by
  constructor
  · intro hforce
    obtain ⟨hsome, -⟩ | hregister := exists_register_of_foldl_note hforce
    · exact Bool.noConfusion hsome
    · exact hregister
  · rintro ⟨before, during, rfl, hkeeps, hevents⟩
    rw [inForce, List.foldl_append]
    show during.foldl note (some ⟨l.registration, []⟩) = some l
    rw [foldl_note_of_keeps _ hkeeps, ← hevents]
    rfl

/-- Each registration has one lifetime. -/
theorem map_registration_lifetimes (steps : List (Command δ)) :
    (lifetimes steps).map Lifetime.registration = steps.filterMap Command.registration? := by
  induction steps with
  | nil => rfl
  | cons c rest ih =>
    cases c with
    | register r => exact congrArg (r :: ·) ih
    | unregister => exact ih
    | dispatch e => exact ih
    | text => exact ih

/-! ### All teardowns -/

theorem tornDown_append (a b : List (Effect δ)) : tornDown (a ++ b) = tornDown a ++ tornDown b :=
  List.filterMap_append

/-- The teardowns are told from what is not in the log. -/
theorem tornDown_unlogged (trace : List (Effect δ)) :
    tornDown (Effect.unlogged trace) = tornDown trace := by
  induction trace with
  | nil => rfl
  | cons x rest ih =>
    cases x with
    | logged record => exact ih
    | handled e data => exact ih
    | tornDown data => exact congrArg (data :: ·) ih

/-- A lifetime has one teardown if its registration asks for it, and none otherwise. -/
theorem tornDown_effects (l : Lifetime δ) :
    tornDown l.effects = if l.registration.hasTeardown then [l.data] else [] := by
  have hdeliveries : tornDown (l.events.mapIdx fun n e =>
      ({ l with events := l.events.take n } : Lifetime δ).delivery e) = [] := by
    rw [tornDown, List.filterMap_eq_nil_iff]
    intro x hx
    -- Each delivery is of an event, and none is a teardown.
    obtain ⟨n, hn, rfl⟩ := List.mem_mapIdx.mp hx
    rfl
  rw [Lifetime.effects, tornDown_append, hdeliveries, List.nil_append, Lifetime.ending]
  split <;> rfl

theorem tornDown_flatMap_effects (ls : List (Lifetime δ)) :
    tornDown (ls.flatMap Lifetime.effects) =
      (ls.filter (·.registration.hasTeardown)).map Lifetime.data := by
  induction ls with
  | nil => rfl
  | cons l rest ih =>
    rw [List.flatMap_cons, tornDown_append, tornDown_effects, ih]
    by_cases hteardown : l.registration.hasTeardown = true
    · rw [if_pos hteardown, List.filter_cons_of_pos (by exact hteardown)]
      rfl
    · rw [if_neg hteardown, List.filter_cons_of_neg (by exact hteardown)]
      rfl

end Dispatcher

end EventPipeline
