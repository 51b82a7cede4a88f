import EventPipeline.Android.Input
import EventPipeline.Desktop.Input

namespace EventPipeline

/-!
# A main loop with its sources of input

* `Session` — a hub with what is kept between the inputs of each platform.
* `Session.perform` — one step of a session, named by a `Session.Command`.
* `Session.run` — the steps of a list, one after the other.
-/

/-- A hub with what is kept between the inputs of each platform. -/
structure Session (δ : Type) where
  /-- The intake, the handler and the devices. -/
  hub : Hub δ := {}
  /-- What is kept between the inputs of Android. -/
  android : Android.Input := {}
  /-- What is kept between the reports of a desktop. -/
  desktop : Desktop.Input := {}

namespace Session

variable {δ : Type}

/-- The session in which nothing has happened, under the given thresholds. -/
def withSettings (settings : ClickSettings) : Session δ := { hub := .withSettings settings }

/-- A step of a session. -/
inductive Command (δ : Type) where
  /-- A step on the hub. -/
  | hub (c : Hub.Command δ)
  /-- An input of Android. -/
  | android (c : Android.Command)
  /-- A report of a desktop. -/
  | desktop (c : Desktop.Command)

/-- What a step of a session answers. -/
inductive Reply where
  /-- The answer of the hub. -/
  | hub (r : Hub.Reply)
  /-- Whether the input of a platform queued an event. -/
  | queued (found : Bool)
deriving DecidableEq, Repr

/-- The answer to a step, and the session after it. -/
def perform (s : Session δ) : Command δ → Traced (Effect δ) (Reply × Session δ)
  | .hub c => do
    let (r, hub) ← s.hub.perform c
    return (.hub r, { s with hub })
  | .android c => do
    let (found, android, hub) ← (s.android.perform s.hub c).mapTrace .logged
    return (.queued found, { s with android, hub })
  | .desktop c => do
    let (found, desktop, hub) ← (s.desktop.perform s.hub c).mapTrace .logged
    return (.queued found, { s with desktop, hub })

/-- The answers to the steps of a list, and the session after the last one. -/
def run (s : Session δ) (steps : List (Command δ)) : Traced (Effect δ) (List Reply × Session δ) :=
  Traced.runAll perform s steps

theorem trace_run_cons (s : Session δ) (c : Command δ) (rest : List (Command δ)) :
    (s.run (c :: rest)).trace = (s.perform c).trace ++ ((s.perform c).value.2.run rest).trace :=
  Traced.trace_runAll_cons perform s c rest

/-- Ends the session and with it the registration in force. -/
def close (s : Session δ) : Traced (Effect δ) Unit := s.hub.dispatcher.close

end Session

end EventPipeline
