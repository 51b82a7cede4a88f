import EventPipeline.Proofs.Queue.Ledger

namespace EventPipeline

/-!
# Deliveries by steps of their own

* `Hub.relay` — taking events and giving each to the handler, by two steps for each.

Each round leaves one event fewer (`Hub.pending_of_perform_pop`), so the rounds end.  A delivery
of all pending events differs from them in the log alone (`Hub.relay_eq_drain`).
-/

namespace Hub

variable {δ : Type}

theorem perform_pop_of_toList_eq_nil {h : Hub δ} (hnone : h.intake.queue.toList = []) :
    h.perform (.intake .pop) = pure (.intake (.event none), h) := by
  rw [perform, Intake.perform, Intake.pop_of_toList_eq_nil hnone]
  rfl

theorem perform_pop_of_toList_eq_cons {h : Hub δ} {e : Event} {rest : List Event}
    (hsome : h.intake.queue.toList = e :: rest) :
    h.perform (.intake .pop) =
      pure (.intake (.event (some e)), { h with intake.queue := h.intake.queue.pop.2 }) := by
  rw [perform, Intake.perform, Intake.pop_of_toList_eq_cons hsome]
  rfl

/-- One event fewer is pending once a step has taken one. -/
theorem pending_of_perform_pop {h taken : Hub δ} {e : Event}
    (hsome : (h.perform (.intake .pop)).value = (.intake (.event (some e)), taken)) :
    h.intake.pending = taken.intake.pending + 1 := by
  cases hevents : h.intake.queue.toList with
  | nil =>
    rw [perform_pop_of_toList_eq_nil hevents] at hsome
    exact absurd (Prod.mk.inj hsome).1 (by simp)
  | cons e' rest =>
    rw [perform_pop_of_toList_eq_cons hevents] at hsome
    obtain ⟨-, rfl⟩ := Prod.mk.inj hsome
    exact Intake.pending_of_pop (Intake.pop_of_toList_eq_cons hevents)

/-- Takes the oldest event by one step and gives it to the handler by another, until there is none
    to take, and says how many there were. -/
def relay (h : Hub δ) : Traced (Effect δ) (Nat × Hub δ) :=
  let popped := h.perform (.intake .pop)
  match _ : popped.value with
  | (.intake (.event (some e)), taken) =>
    let given := taken.perform (.dispatcher (.dispatch e))
    do
      Traced.emitAll popped.trace
      Traced.emitAll given.trace
      let (count, last) ← given.value.2.relay
      return (count + 1, last)
  | (_, last) => do
    Traced.emitAll popped.trace
    return (0, last)
termination_by h.intake.pending
decreasing_by
  have hfewer := pending_of_perform_pop ‹_›
  show taken.intake.pending < h.intake.pending
  omega

theorem relay_of_toList_eq_nil {h : Hub δ} (hnone : h.intake.queue.toList = []) :
    h.relay = pure (0, h) := by
  have hpop := perform_pop_of_toList_eq_nil hnone
  rw [relay]
  split
  · rename_i e taken htaken
    rw [hpop] at htaken
    exact absurd (Prod.mk.inj htaken).1 (by simp)
  · rename_i answer last hnot htaken
    rw [hpop] at htaken ⊢
    obtain ⟨-, rfl⟩ := Prod.mk.inj htaken
    rfl

theorem relay_of_toList_eq_cons {h : Hub δ} {e : Event} {rest : List Event}
    (hsome : h.intake.queue.toList = e :: rest) :
    h.relay = (do
      let (_, dispatcher) ← h.dispatcher.dispatch e
      let (count, h) ← relay { h with intake.queue := h.intake.queue.pop.2, dispatcher }
      return (count + 1, h)) := by
  have hpop := perform_pop_of_toList_eq_cons hsome
  rw [relay]
  split
  · rename_i e' taken htaken
    rw [hpop] at htaken ⊢
    obtain ⟨he, rfl⟩ := Prod.mk.inj htaken
    obtain rfl : e = e' := by simpa using he
    apply Traced.ext
    · rfl
    · simp [perform, Dispatcher.perform]
  · rename_i answer last hnot htaken
    rw [hpop] at htaken
    obtain ⟨rfl, -⟩ := Prod.mk.inj htaken
    exact absurd rfl (hnot e)

/-- A delivery differs from such steps in the log alone. -/
theorem relay_eq_drain (h : Hub δ) : h.relay = ⟨h.drain.value, Effect.unlogged h.drain.trace⟩ := by
  generalize hevents : h.intake.queue.toList = events
  induction events generalizing h with
  | nil =>
    rw [relay_of_toList_eq_nil hevents, drain_of_toList_eq_nil hevents]
    rfl
  | cons e rest ih =>
    have hrest : h.intake.queue.pop.2.toList = rest := by
      rw [EventQueue.toList_snd_pop, hevents]
      rfl
    have hlater := ih { h with intake.queue := h.intake.queue.pop.2,
                               dispatcher := (h.dispatcher.dispatch e).value.2 } hrest
    rw [relay_of_toList_eq_cons hevents, drain_of_toList_eq_cons hevents]
    apply Traced.ext
    · simp only [Traced.value_bind, hlater]
    · -- The record in the log is dropped, and what the handler tells of the event stays.
      simp only [Traced.trace_bind, Effect.unlogged_append, Dispatcher.unlogged_dispatch, hlater]
      rfl

end Hub

end EventPipeline
