import EventPipeline.Proofs.Handler.Lifetime

namespace EventPipeline

/-!
# The chronicle of a dispatcher

* `Dispatcher.Chronicle` — what steps make of a dispatcher and what can be seen of them, told from
  the lifetimes of the registrations alone.
* `Hub.acts` — what a step of a hub does on its dispatcher.

A step does on the registration in force what it does on its lifetime (`Dispatcher.live_perform`),
so a run ends with the registration that its steps leave in force (`Dispatcher.live_run`).  What
can be seen of a run and of the end of the dispatcher is what can be seen of its lifetimes, one
after the other (`Dispatcher.unlogged_run_close`).  A run of a hub does the same on its dispatcher
as the steps that it acts by (`Hub.run_acts`).
-/

namespace Dispatcher

variable {δ : Type}

/-! ### One step -/

section

variable {d : Dispatcher δ} {l? : Option (Lifetime δ)} (hlive : d.live = l?.map Lifetime.current)
include hlive

/-- **Step.**  A step does on the registration in force what it does on its lifetime. -/
theorem live_perform (c : Command δ) :
    (d.perform c).value.2.live = (note l? c).map Lifetime.current := by
  obtain ⟨live⟩ := d
  obtain rfl : live = l?.map Lifetime.current := hlive
  cases c with
  | register r => cases l? <;> rfl
  | unregister => cases l? <;> rfl
  | dispatch e =>
    cases l? with
    | none => rfl
    | some l => exact congrArg some (l.current_hear e).symm
  | text => rfl

/-- **Step.**  What can be seen of a step is told from the registration in force. -/
theorem unlogged_perform (c : Command δ) :
    Effect.unlogged (d.perform c).trace = c.effects l? := by
  obtain ⟨live⟩ := d
  obtain rfl : live = l?.map Lifetime.current := hlive
  cases l? with
  | none => cases c <;> rfl
  | some l =>
    have hretire : Effect.unlogged l.current.retire = l.ending := by
      rw [l.retire_current, Lifetime.ending]
      split <;> rfl
    cases c with
    | register r =>
      -- The log tells of the replacement only after the teardown.
      have htrace : (perform ⟨some l.current⟩ (.register r)).trace =
          l.current.retire ++ [.logged .replacedHandler] := by
        simp [perform, register]
      rw [Option.map_some, htrace, Effect.unlogged_append, hretire]
      exact List.append_nil _
    | unregister =>
      have htrace : (perform ⟨some l.current⟩ .unregister).trace = l.current.retire := by
        simp [perform, unregister]
      rw [Option.map_some, htrace, hretire]
      rfl
    | dispatch e => rfl
    | text => rfl

/-- What can be seen of the end of a dispatcher is the end of the registration in force. -/
theorem unlogged_close : Effect.unlogged d.close.trace = l?.elim [] Lifetime.ending := by
  have hunregister := unlogged_perform hlive .unregister
  have htrace : (d.perform .unregister).trace = d.close.trace := by
    obtain ⟨_ | r⟩ := d
    · rfl
    · simp [perform, unregister, close]
  rw [← htrace, hunregister]
  rfl

/-- A dispatcher has a handler exactly if a registration is in force. -/
theorem hasHandler_eq : d.hasHandler = l?.isSome := by
  rw [hasHandler, hlive, Option.isSome_map]

/-- So a removal answers, and an event, whether a registration is in force. -/
theorem answer_unregister : (d.perform .unregister).value.1 = .hadHandler l?.isSome := by
  rw [← hasHandler_eq hlive]
  obtain ⟨_ | r⟩ := d <;> rfl

theorem answer_dispatch (e : Event) :
    (d.perform (.dispatch e)).value.1 = .hadHandler l?.isSome := by
  rw [← hasHandler_eq hlive]
  obtain ⟨_ | r⟩ := d <;> rfl

/-- **Run.**  A run ends with the registration that its steps leave in force. -/
theorem live_run (steps : List (Command δ)) :
    (d.run steps).value.2.live = (steps.foldl note l?).map Lifetime.current := by
  induction steps generalizing d l? with
  | nil => exact hlive
  | cons c rest ih => exact ih (live_perform hlive c)

/-- **Run.**  What can be seen of a run is told from the registrations in force at its steps. -/
theorem unlogged_run (steps : List (Command δ)) :
    Effect.unlogged (d.run steps).trace = seen l? steps := by
  induction steps generalizing d l? with
  | nil => rfl
  | cons c rest ih =>
    rw [trace_run_cons, Effect.unlogged_append, unlogged_perform hlive, ih (live_perform hlive c)]
    rfl

/-- **Run.**  What can be seen of a run and of the end of the dispatcher is what can be seen of the
    lifetimes, one after the other, that of the registration in force at first before the others. -/
theorem unlogged_run_close (steps : List (Command δ)) :
    Effect.unlogged ((d.run steps).trace ++ (d.run steps).value.2.close.trace) =
      l?.elim [] (fun l => (⟨l.current, heard steps⟩ : Lifetime δ).effects)
        ++ (lifetimes steps).flatMap Lifetime.effects := by
  induction steps generalizing d l? with
  | nil =>
    show Effect.unlogged ([] ++ d.close.trace) = _
    rw [List.nil_append, unlogged_close hlive]
    cases l? with
    | none => rfl
    | some l => exact (List.append_nil _).symm
  | cons c rest ih =>
    have hstep := unlogged_perform hlive c
    have hrest := ih (live_perform hlive c)
    have hlast : (d.run (c :: rest)).value.2 = ((d.perform c).value.2.run rest).value.2 := rfl
    rw [trace_run_cons, hlast, List.append_assoc, Effect.unlogged_append, hstep, hrest]
    cases c with
    -- What ends the registration in force has heard nothing more for it.
    | register r => cases l? <;> rfl
    | unregister => cases l? <;> rfl
    | dispatch e =>
      cases l? with
      | none => rfl
      | some l =>
        -- The event moves from what is still heard into what the registration has become.
        have hheard : heard (.dispatch e :: rest) = e :: heard rest := rfl
        show l.delivery e :: ((⟨(l.hear e).current, heard rest⟩ : Lifetime δ).effects ++ _) =
          (⟨l.current, heard (.dispatch e :: rest)⟩ : Lifetime δ).effects ++ _
        rw [hheard, Lifetime.effects_cons, l.current_hear]
        rfl
    | text => rfl

end

/-! ### The account of a run -/

/-- What steps on a new dispatcher make of it and what can be seen of them, told from the lifetimes
    of the registrations. -/
structure Chronicle (d : Dispatcher δ) (steps : List (Command δ)) (trace : List (Effect δ)) :
    Prop where
  /-- The dispatcher holds the registration in force, with the data that its events have left. -/
  live_eq : d.live = (inForce steps).map Lifetime.current
  /-- The dispatcher has a handler exactly if a registration is in force. -/
  hasHandler_eq : d.hasHandler = (inForce steps).isSome
  /-- A removal answers whether a registration is in force. -/
  answer_unregister : (d.perform .unregister).value.1 = .hadHandler (inForce steps).isSome
  /-- An event answers whether a registration is in force. -/
  answer_dispatch (e : Event) :
    (d.perform (.dispatch e)).value.1 = .hadHandler (inForce steps).isSome
  /-- The next step ends the registration in force, or gives it an event, or does neither. -/
  unlogged_perform (c : Command δ) :
    Effect.unlogged (d.perform c).trace = c.effects (inForce steps)
  /-- The end of the dispatcher ends the registration in force. -/
  unlogged_close : Effect.unlogged d.close.trace = (inForce steps).elim [] Lifetime.ending
  /-- With the end of the dispatcher, the lifetimes are seen one after the other, each with its
      events and then its end. -/
  unlogged_eq : Effect.unlogged (trace ++ d.close.trace) =
    (lifetimes steps).flatMap Lifetime.effects
  /-- Each registration with a teardown has its data torn down once, and no other has. -/
  tornDown_eq : tornDown (trace ++ d.close.trace) =
    ((lifetimes steps).filter (·.registration.hasTeardown)).map Lifetime.data

/-- What was seen of some steps on a new dispatcher, but for the log, follows their chronicle. -/
theorem chronicle_of_run {steps : List (Command δ)} {d : Dispatcher δ} {trace : List (Effect δ)}
    (hlast : (run ∅ steps).value.2 = d)
    (htrace : Effect.unlogged (run ∅ steps).trace = Effect.unlogged trace) :
    d.Chronicle steps trace := by
  have hstart : (∅ : Dispatcher δ).live = (none : Option (Lifetime δ)).map Lifetime.current := rfl
  have hlive : d.live = (inForce steps).map Lifetime.current := by
    rw [← hlast]
    exact live_run hstart steps
  have hseen : Effect.unlogged (trace ++ d.close.trace) =
      (lifetimes steps).flatMap Lifetime.effects := by
    have hrun := unlogged_run_close hstart steps
    rw [Effect.unlogged_append, htrace, hlast, ← Effect.unlogged_append] at hrun
    exact hrun
  exact {
    live_eq := hlive
    hasHandler_eq := hasHandler_eq hlive
    answer_unregister := answer_unregister hlive
    answer_dispatch := answer_dispatch hlive
    unlogged_perform := unlogged_perform hlive
    unlogged_close := unlogged_close hlive
    unlogged_eq := hseen
    tornDown_eq := by rw [← tornDown_unlogged, hseen, tornDown_flatMap_effects] }

/-- Events given to the handler by steps of their own differ in the log alone. -/
theorem run_map_dispatch (d : Dispatcher δ) (es : List Event) :
    (d.run (es.map .dispatch)).value.2 = (d.dispatchAll es).value ∧
      Effect.unlogged (d.run (es.map .dispatch)).trace =
        Effect.unlogged (d.dispatchAll es).trace := by
  induction es generalizing d with
  | nil => exact ⟨rfl, rfl⟩
  | cons e rest ih =>
    obtain ⟨hlast, htrace⟩ := ih (d.dispatch e).value.2
    refine ⟨hlast, ?_⟩
    have hfirst : (d.perform (.dispatch e)).trace = (d.dispatch e).trace := by
      rw [perform, Traced.trace_map]
    have hlater : Effect.unlogged ((d.perform (.dispatch e)).value.2.run (rest.map .dispatch)).trace
        = Effect.unlogged ((d.dispatch e).value.2.dispatchAll rest).trace := htrace
    rw [List.map_cons, trace_run_cons, hfirst, Effect.unlogged_append, hlater]
    -- The record that a delivery of many events leaves of each stays in the log.
    simp only [dispatchAll, Traced.trace_bind, Effect.unlogged_append]
    rfl

end Dispatcher

/-! ### The handler of a hub -/

namespace Hub

variable {δ : Type}

/-- What a step of a hub does on its dispatcher, as steps of the dispatcher. -/
def acts (h : Hub δ) : Command δ → List (Dispatcher.Command δ)
  | .dispatcher c => [c]
  | .deliverPending =>
    if h.dispatcher.hasHandler then h.intake.queue.toList.map .dispatch else []
  | .intake _ | .devices _ => []

/-- **Step.**  A step of a hub does on the dispatcher what it acts by, and is seen as that. -/
theorem perform_acts (h : Hub δ) (c : Command δ) :
    (h.dispatcher.run (h.acts c)).value.2 = (h.perform c).value.2.dispatcher ∧
      Effect.unlogged (h.dispatcher.run (h.acts c)).trace =
        Effect.unlogged (h.perform c).trace := by
  cases c with
  | intake c =>
    have htrace : (h.perform (.intake c)).trace = (h.intake.perform c).trace.map .logged := by
      rw [perform]
      exact List.append_nil _
    refine ⟨rfl, ?_⟩
    rw [htrace, Effect.unlogged_map_logged]
    rfl
  | dispatcher c =>
    refine ⟨rfl, ?_⟩
    rw [acts, perform, Dispatcher.trace_run_cons]
    rfl
  | devices c => exact ⟨rfl, rfl⟩
  | deliverPending =>
    rw [acts, perform, deliverPending_eq]
    by_cases hlive : h.dispatcher.hasHandler = true
    · rw [if_pos hlive, if_pos hlive]
      obtain ⟨hlast, htrace⟩ := h.dispatcher.run_map_dispatch h.intake.queue.toList
      refine ⟨hlast, htrace.trans ?_⟩
      simp
    · rw [if_neg hlive, if_neg hlive]
      exact ⟨rfl, rfl⟩

/-- **Run.**  So does a run of a hub. -/
theorem run_acts (h : Hub δ) (steps : List (Command δ)) :
    let acted := h.dispatcher.run (Traced.gather perform acts h steps)
    acted.value.2 = (h.run steps).value.2.dispatcher ∧
      Effect.unlogged acted.trace = Effect.unlogged (h.run steps).trace := by
  induction steps generalizing h with
  | nil => exact ⟨rfl, rfl⟩
  | cons c rest ih =>
    obtain ⟨hlast, htrace⟩ := ih (h.perform c).value.2
    obtain ⟨hlast', htrace'⟩ := h.perform_acts c
    rw [← hlast'] at hlast htrace
    intro acted
    constructor
    · have happend : acted.value.2 = _ := Traced.snd_runAll_append _ _ _ _
      exact happend.trans hlast
    · have happend : acted.trace = _ := Traced.trace_runAll_append _ _ _ _
      rw [happend, trace_run_cons, Effect.unlogged_append, Effect.unlogged_append, ← htrace',
        ← htrace]
      rfl

/-- **Every registration has one lifetime, and no event or teardown falls outside it.**  After any
    steps on a new dispatcher, and after any steps on a new hub, at most one registration is in
    force: the one that was made last, if no step has ended it.  The dispatcher holds it with the
    data that the handler has made of the events since, each event is given to it alone, and what
    replaces or removes it, as the end of the dispatcher does, has its data torn down if it asks
    for that.  In all that can be seen the lifetimes follow each other, so that each registration
    with a teardown is torn down exactly once, before its successor is given an event. -/
theorem run_chronicle :
    (∀ steps : List (Dispatcher.Command δ),
      (Dispatcher.run ∅ steps).value.2.Chronicle steps (Dispatcher.run ∅ steps).trace ∧
      (∀ l, Dispatcher.inForce steps = some l ↔
        ∃ before during, steps = before ++ .register l.registration :: during ∧
          (∀ c ∈ during, c.keeps = true) ∧
          l.events = during.filterMap Dispatcher.Command.event?) ∧
      (Dispatcher.lifetimes steps).map Lifetime.registration =
        steps.filterMap Dispatcher.Command.registration?) ∧
    ∀ settings (steps : List (Command δ)),
      let acted := Traced.gather perform acts (withSettings settings) steps
      let h := ((withSettings settings).run steps).value.2
      h.dispatcher.Chronicle acted ((withSettings settings).run steps).trace ∧
      (∀ c, Effect.unlogged (h.perform c).trace =
        Dispatcher.seen (Dispatcher.inForce acted) (h.acts c)) ∧
      ∀ c, (h.perform (.dispatcher c)).value.1 = .dispatcher (h.dispatcher.perform c).value.1 := by
  constructor
  · intro steps
    exact ⟨Dispatcher.chronicle_of_run rfl rfl, fun l => Dispatcher.inForce_eq_some_iff,
      Dispatcher.map_registration_lifetimes steps⟩
  · intro settings steps acted h
    obtain ⟨hlast, htrace⟩ := (withSettings settings : Hub δ).run_acts steps
    have hchronicle : h.dispatcher.Chronicle acted ((withSettings settings).run steps).trace :=
      Dispatcher.chronicle_of_run hlast htrace
    refine ⟨hchronicle, ?_, fun c => rfl⟩
    intro c
    rw [← (h.perform_acts c).2, Dispatcher.unlogged_run hchronicle.live_eq]

end Hub

end EventPipeline
