import EventPipeline.Event.Basic
import EventPipeline.Log
import EventPipeline.Trace

namespace EventPipeline

/-!
# The event handler

At most one handler is registered at a time. It owns some data, which it may change with every
event it is given. A handler may come with a teardown, which receives the data once, when the
registration ends: by another registration, by removal, or with the dispatcher itself.

* `Registration` — a handler with its data.
* `Effect` — what can be seen of a run: log records, events handled, teardowns.
* `Dispatcher.register`, `Dispatcher.unregister`, `Dispatcher.dispatch`, `Dispatcher.close` —
  changing and using the registration.
* `Dispatcher.perform`, `Dispatcher.run` — one step on a dispatcher, named by a
  `Dispatcher.Command`, and the steps of a list.
-/

/-- Something that can be seen of a run of the pipeline. The type `δ` is that of the handlers'
    data. -/
inductive Effect (δ : Type) where
  /-- A record in the log. -/
  | logged (record : LogRecord)
  /-- An event was given to the handler, which left the data behind. -/
  | handled (event : Event) (data : δ)
  /-- The data was given to the handler's teardown. -/
  | tornDown (data : δ)
deriving DecidableEq, Repr

/-- The event that was given to the handler, where one was. -/
def Effect.handledEvent? {δ : Type} : Effect δ → Option Event
  | .handled e _ => some e
  | .logged _ | .tornDown _ => none

/-- Whether it is a record in the log. -/
def Effect.isLogged {δ : Type} : Effect δ → Bool
  | .logged _ => true
  | .handled .. | .tornDown _ => false

/-- What the handlers can tell of a run: all that can be seen of it but the log. -/
def Effect.unlogged {δ : Type} (trace : List (Effect δ)) : List (Effect δ) :=
  trace.filter fun x => !x.isLogged

@[simp] theorem Effect.unlogged_append {δ : Type} (a b : List (Effect δ)) :
    unlogged (a ++ b) = unlogged a ++ unlogged b :=
  List.filter_append a b

@[simp] theorem Effect.unlogged_map_logged {δ : Type} (rs : List LogRecord) :
    unlogged (rs.map (.logged : LogRecord → Effect δ)) = [] := by
  rw [unlogged, List.filter_map, List.map_eq_nil_iff, List.filter_eq_nil_iff]
  exact fun r _ => Bool.false_ne_true

/-- A handler with its data. -/
structure Registration (δ : Type) where
  /-- The data as the handler left it. -/
  data : δ
  /-- What the handler makes of its data when it is given an event. -/
  handle : Event → δ → δ
  /-- Whether the data is torn down when the registration ends. -/
  hasTeardown : Bool := false

namespace Registration

variable {δ : Type}

/-- The registration after its handler was given an event. -/
def receive (r : Registration δ) (e : Event) : Registration δ :=
  { r with data := r.handle e r.data }

/-- What can be seen of the end of a registration. -/
def retire (r : Registration δ) : List (Effect δ) :=
  if r.hasTeardown then [.tornDown r.data] else []

end Registration

/-- The place of the one event handler. -/
structure Dispatcher (δ : Type) where
  /-- The registration in force. -/
  live : Option (Registration δ) := none

namespace Dispatcher

variable {δ : Type}

/-- The dispatcher without a handler. -/
def empty : Dispatcher δ := {}

instance : EmptyCollection (Dispatcher δ) := ⟨empty⟩

/-- Whether a handler is registered. -/
def hasHandler (d : Dispatcher δ) : Bool := d.live.isSome

/-- Registers a handler. A handler that was registered before ends first. -/
def register (d : Dispatcher δ) (r : Registration δ) : Traced (Effect δ) (Dispatcher δ) := do
  if let some old := d.live then
    Traced.emitAll old.retire
    Traced.emit (.logged .replacedHandler)
  return ⟨some r⟩

/-- Ends the registration in force, and says whether there was one. -/
def unregister (d : Dispatcher δ) : Traced (Effect δ) (Bool × Dispatcher δ) :=
  match d.live with
  | some r => do
    Traced.emitAll r.retire
    return (true, ∅)
  | none => return (false, d)

/-- Gives an event to the handler, and says whether there is one. -/
def dispatch (d : Dispatcher δ) (e : Event) : Traced (Effect δ) (Bool × Dispatcher δ) :=
  match d.live with
  | some r => do
    let r := r.receive e
    Traced.emit (.handled e r.data)
    return (true, ⟨some r⟩)
  | none => return (false, d)

/-- Gives the events of a list to the handler one after the other. -/
def dispatchAll (d : Dispatcher δ) : List Event → Traced (Effect δ) (Dispatcher δ)
  | [] => return d
  | e :: rest => do
    Traced.emit (.logged (.dispatching e.kind))
    let (_, d) ← d.dispatch e
    d.dispatchAll rest

/-- Ends the dispatcher and with it the registration in force. -/
def close (d : Dispatcher δ) : Traced (Effect δ) Unit :=
  match d.live with
  | some r => Traced.emitAll r.retire
  | none => return ()

/-- The dispatcher as it is shown to developers. -/
def text (d : Dispatcher δ) : String :=
  s!"EventDispatcher \x7b has_handler: {d.hasHandler} \x7d"

/-! ### What a delivery does -/

section

variable (d : Dispatcher δ)

@[simp] theorem hasHandler_dispatch (e : Event) :
    (d.dispatch e).value.2.hasHandler = d.hasHandler := by
  rcases d with ⟨_ | r⟩ <;> rfl

@[simp] theorem hasHandler_dispatchAll (es : List Event) :
    (d.dispatchAll es).value.hasHandler = d.hasHandler := by
  induction es generalizing d with
  | nil => rfl
  | cons e rest ih => exact (ih (d.dispatch e).value.2).trans (d.hasHandler_dispatch e)

/-- Giving an event to the handler leaves nothing in the log. -/
@[simp] theorem unlogged_dispatch (e : Event) :
    Effect.unlogged (d.dispatch e).trace = (d.dispatch e).trace := by
  rcases d with ⟨_ | r⟩ <;> rfl

/-- Events may be given to the handler in one go or in two. -/
theorem dispatchAll_append (es fs : List Event) :
    d.dispatchAll (es ++ fs) = (do
      let d ← d.dispatchAll es
      d.dispatchAll fs) := by
  induction es generalizing d with
  | nil => rfl
  | cons e rest ih =>
    have hrest := ih (d.dispatch e).value.2
    apply Traced.ext
    · simp only [List.cons_append, dispatchAll, Traced.value_bind, hrest]
    · simp only [List.cons_append, dispatchAll, Traced.value_bind, Traced.trace_bind, hrest,
        List.append_assoc]

/-- The handler is given the event alone. -/
theorem handled_dispatch (e : Event) (hlive : d.hasHandler = true) :
    (d.dispatch e).trace.filterMap Effect.handledEvent? = [e] := by
  rcases d with ⟨_ | r⟩
  · exact absurd hlive (by simp [hasHandler])
  · rfl

/-- The handler is given the events of a list, in their order. -/
theorem handled_dispatchAll (es : List Event) (hlive : d.hasHandler = true) :
    (d.dispatchAll es).trace.filterMap Effect.handledEvent? = es := by
  induction es generalizing d with
  | nil => rfl
  | cons e rest ih =>
    have hrest := ih (d.dispatch e).value.2 (by rw [hasHandler_dispatch, hlive])
    simp only [dispatchAll, Traced.trace_bind, Traced.trace_emit, List.filterMap_append, hrest,
      handled_dispatch d e hlive]
    rfl

end

/-! ### Steps -/

/-- A step on a dispatcher. -/
inductive Command (δ : Type) where
  /-- Registers a handler. -/
  | register (r : Registration δ)
  /-- Ends the registration in force. -/
  | unregister
  /-- Gives an event to the handler. -/
  | dispatch (e : Event)
  /-- Asks for the dispatcher as it is shown to developers. -/
  | text

/-- What a step on a dispatcher answers. -/
inductive Reply where
  /-- Nothing. -/
  | done
  /-- Whether a handler was registered. -/
  | hadHandler (found : Bool)
  /-- The dispatcher as it is shown to developers. -/
  | text (t : String)
deriving DecidableEq, Repr

/-- The answer to a step, and the dispatcher after it. -/
def perform (d : Dispatcher δ) : Command δ → Traced (Effect δ) (Reply × Dispatcher δ)
  | .register r => (.done, ·) <$> d.register r
  | .unregister => (fun (found, d) => (.hadHandler found, d)) <$> d.unregister
  | .dispatch e => (fun (found, d) => (.hadHandler found, d)) <$> d.dispatch e
  | .text => return (.text d.text, d)

/-- The answers to the steps of a list, and the dispatcher after the last one. -/
def run (d : Dispatcher δ) (steps : List (Command δ)) :
    Traced (Effect δ) (List Reply × Dispatcher δ) :=
  Traced.runAll perform d steps

theorem trace_run_cons (d : Dispatcher δ) (c : Command δ) (rest : List (Command δ)) :
    (d.run (c :: rest)).trace = (d.perform c).trace ++ ((d.perform c).value.2.run rest).trace :=
  Traced.trace_runAll_cons perform d c rest

end Dispatcher

end EventPipeline
