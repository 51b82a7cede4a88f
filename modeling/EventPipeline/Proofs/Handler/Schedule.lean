import EventPipeline.Proofs.Handler.Alike
import EventPipeline.Proofs.Handler.Relay
import Mathlib.Algebra.GroupWithZero.Nat

namespace EventPipeline

/-!
# When pending events are delivered

Under one handler it makes no difference when the pending events are delivered, as long as they are
in the end.

* `Session.delivered` — the session once the handler was given all that was pending.
* `Session.Agrees` — two runs that come to the same for the handler and for the session.

Inputs leave the handler alone and take nothing out of the queue (`Session.pending_run_inputs`),
and a delivery leaves a session alike (`Session.alike_delivered`).  So a delivery before some
inputs makes no difference to a run that ends with one (`Session.agrees_deliver_first`), and every
schedule comes to the same as that which delivers at the end alone
(`Session.agrees_inputs_first`).
-/

namespace Session

variable {δ : Type}

/-! ### One input and one delivery -/

/-- How many events an answer says were delivered. -/
def Reply.delivered : Reply → Nat
  | .hub (.delivered count) => count
  | .hub (.intake _) | .hub (.dispatcher _) | .hub (.devices _) | .queued _ => 0

/-- How many events the answers say were delivered. -/
def deliveredCount (answers : List Reply) : Nat := (answers.map Reply.delivered).sum

theorem deliveredCount_cons (answer : Reply) (answers : List Reply) :
    deliveredCount (answer :: answers) = answer.delivered + deliveredCount answers :=
  List.sum_cons

theorem deliveredCount_append (answers later : List Reply) :
    deliveredCount (answers ++ later) = deliveredCount answers + deliveredCount later := by
  rw [deliveredCount, List.map_append, List.sum_append]
  rfl

section

variable (s : Session δ) {c : Command δ}

/-- An input leaves the handler alone. -/
theorem dispatcher_perform_input (hinput : c.isInput = true) :
    (s.perform c).value.2.hub.dispatcher = s.hub.dispatcher := by
  obtain ⟨c, rfl, -⟩ | ⟨c, rfl⟩ | ⟨c, rfl⟩ := c.isInput_cases hinput
  · rfl
  · rw [hub_perform_android]
    rfl
  · rw [hub_perform_desktop]
    rfl

/-- An input takes no event out of the queue. -/
theorem pending_perform_input (hinput : c.isInput = true) :
    (s.perform c).value.2.pending = s.pending ++ s.appended c := by
  have hledger := s.ledger_step c
  have hremoved : s.removed c = [] := by
    obtain ⟨c, rfl, hc⟩ | ⟨c, rfl⟩ | ⟨c, rfl⟩ := c.isInput_cases hinput
    · cases c <;> first | rfl | exact Bool.noConfusion hc
    · rfl
    · rfl
  rw [hremoved, List.nil_append] at hledger
  exact hledger.symm

/-- An input can be seen in the log alone. -/
theorem unlogged_perform_input (hinput : c.isInput = true) :
    Effect.unlogged (s.perform c).trace = [] := by
  obtain ⟨c, rfl, -⟩ | ⟨c, rfl⟩ | ⟨c, rfl⟩ := c.isInput_cases hinput
  · simp [perform, Hub.perform]
  · simp [perform]
  · simp [perform]

/-- An input answers nothing about deliveries. -/
theorem delivered_perform_input (hinput : c.isInput = true) :
    (s.perform c).value.1.delivered = 0 := by
  obtain ⟨c, rfl, -⟩ | ⟨c, rfl⟩ | ⟨c, rfl⟩ := c.isInput_cases hinput <;> rfl

/-- The session once the handler was given all that was pending. -/
def delivered : Session δ :=
  { s with
    hub.intake.queue := s.hub.intake.queue.clear
    hub.dispatcher := (s.hub.dispatcher.dispatchAll s.pending).value }

@[simp] theorem pending_delivered : s.delivered.pending = [] := EventQueue.toList_clear _

theorem alike_delivered : s.delivered.Alike s :=
  ⟨⟨rfl, rfl⟩, EventQueue.clear_clear _, rfl, rfl, rfl⟩

variable {s}

/-- A delivery gives the handler all that is pending, and counts it. -/
theorem perform_deliverPending (hlive : s.hub.dispatcher.hasHandler = true) :
    s.perform (.hub .deliverPending) =
      ⟨(.hub (.delivered s.pending.length), s.delivered),
        (s.hub.dispatcher.dispatchAll s.pending).trace⟩ := by
  have hcount : s.hub.intake.pending = s.pending.length := s.hub.intake.queue.length_toList.symm
  rw [perform, Hub.perform, Hub.deliverPending_eq, if_pos hlive, hcount]
  apply Traced.ext
  · rfl
  · simp [pending]

end

/-! ### Runs of inputs -/

section

variable (s : Session δ) {inputs : List (Command δ)}

theorem dispatcher_run_inputs (hinputs : ∀ c ∈ inputs, c.isInput = true) :
    (s.run inputs).value.2.hub.dispatcher = s.hub.dispatcher := by
  induction inputs generalizing s with
  | nil => rfl
  | cons c rest ih =>
    rw [List.forall_mem_cons] at hinputs
    exact (ih _ hinputs.2).trans (s.dispatcher_perform_input hinputs.1)

theorem pending_run_inputs (hinputs : ∀ c ∈ inputs, c.isInput = true) :
    (s.run inputs).value.2.pending
      = s.pending ++ Traced.gather Session.perform Session.appended s inputs := by
  induction inputs generalizing s with
  | nil => exact (List.append_nil _).symm
  | cons c rest ih =>
    rw [List.forall_mem_cons] at hinputs
    have hrest := ih (s.perform c).value.2 hinputs.2
    rw [s.pending_perform_input hinputs.1, List.append_assoc] at hrest
    exact hrest

theorem unlogged_run_inputs (hinputs : ∀ c ∈ inputs, c.isInput = true) :
    Effect.unlogged (s.run inputs).trace = [] := by
  induction inputs generalizing s with
  | nil => rfl
  | cons c rest ih =>
    rw [List.forall_mem_cons] at hinputs
    have hrest := ih (s.perform c).value.2 hinputs.2
    rw [trace_run_cons, Effect.unlogged_append, s.unlogged_perform_input hinputs.1, hrest]
    rfl

theorem deliveredCount_run_inputs (hinputs : ∀ c ∈ inputs, c.isInput = true) :
    deliveredCount (s.run inputs).value.1 = 0 := by
  induction inputs generalizing s with
  | nil => rfl
  | cons c rest ih =>
    rw [List.forall_mem_cons] at hinputs
    have hrest := ih (s.perform c).value.2 hinputs.2
    show deliveredCount ((s.perform c).value.1 :: ((s.perform c).value.2.run rest).value.1) = 0
    rw [deliveredCount_cons, s.delivered_perform_input hinputs.1, hrest]

end

/-! ### Runs that come to the same -/

/-- Two runs that come to the same for the handler and for the session. -/
structure Agrees (r r' : Traced (Effect δ) (List Reply × Session δ)) : Prop where
  /-- They end in the same session. -/
  session_eq : r.value.2 = r'.value.2
  /-- The handler is given the same events, and is left with the same data each time. -/
  unlogged_eq : Effect.unlogged r.trace = Effect.unlogged r'.trace
  /-- They deliver as many events. -/
  count_eq : deliveredCount r.value.1 = deliveredCount r'.value.1

namespace Agrees

variable {r r' r'' : Traced (Effect δ) (List Reply × Session δ)}

theorem refl (r : Traced (Effect δ) (List Reply × Session δ)) : Agrees r r := ⟨rfl, rfl, rfl⟩

theorem symm (h : Agrees r r') : Agrees r' r :=
  ⟨h.session_eq.symm, h.unlogged_eq.symm, h.count_eq.symm⟩

theorem trans (h : Agrees r r') (h' : Agrees r' r'') : Agrees r r'' :=
  ⟨h.session_eq.trans h'.session_eq, h.unlogged_eq.trans h'.unlogged_eq,
    h.count_eq.trans h'.count_eq⟩

/-- Runs agree that begin with the same step and agree from there on. -/
theorem cons {s : Session δ} (c : Command δ) {steps steps' : List (Command δ)}
    (h : Agrees ((s.perform c).value.2.run steps) ((s.perform c).value.2.run steps')) :
    Agrees (s.run (c :: steps)) (s.run (c :: steps')) where
  session_eq := h.session_eq
  unlogged_eq := by
    rw [trace_run_cons, trace_run_cons, Effect.unlogged_append, Effect.unlogged_append,
      h.unlogged_eq]
  count_eq := by
    have hrest := h.count_eq
    show deliveredCount ((s.perform c).value.1 :: _) = deliveredCount ((s.perform c).value.1 :: _)
    rw [deliveredCount_cons, deliveredCount_cons]
    exact congrArg _ hrest

end Agrees

section

variable {s : Session δ} {inputs steps : List (Command δ)}

/-- What a run of inputs comes to with a delivery at its end. -/
theorem run_inputs_deliver (hlive : s.hub.dispatcher.hasHandler = true)
    (hinputs : ∀ c ∈ inputs, c.isInput = true) :
    (s.run (inputs ++ [.hub .deliverPending])).value.2 = (s.run inputs).value.2.delivered ∧
      Effect.unlogged (s.run (inputs ++ [.hub .deliverPending])).trace =
        Effect.unlogged (s.hub.dispatcher.dispatchAll (s.run inputs).value.2.pending).trace ∧
      deliveredCount (s.run (inputs ++ [.hub .deliverPending])).value.1 =
        (s.run inputs).value.2.pending.length := by
  have hsame := s.dispatcher_run_inputs hinputs
  have hlast := perform_deliverPending (s := (s.run inputs).value.2) (by rw [hsame, hlive])
  have hdeliver : (s.run inputs).value.2.run [.hub .deliverPending] =
      ⟨([.hub (.delivered (s.run inputs).value.2.pending.length)],
          (s.run inputs).value.2.delivered),
        (s.hub.dispatcher.dispatchAll (s.run inputs).value.2.pending).trace⟩ := by
    rw [← hsame]
    apply Traced.ext
    · rw [run, Traced.value_runAll_cons, hlast]
      rfl
    · rw [trace_run_cons, hlast]
      exact List.append_nil _
  have hcount := s.deliveredCount_run_inputs hinputs
  have hunlogged := s.unlogged_run_inputs hinputs
  rw [run] at hdeliver hcount hunlogged
  -- The inputs say nothing to the handler and count no event, so only the delivery is left.
  refine ⟨?_, ?_, ?_⟩
  · rw [run, Traced.snd_runAll_append]
    exact congrArg (·.value.2) hdeliver
  · rw [run, Traced.trace_runAll_append, Effect.unlogged_append, hunlogged]
    exact congrArg (Effect.unlogged ·.trace) hdeliver
  · rw [run, Traced.fst_runAll_append, deliveredCount_append, hcount, Nat.zero_add]
    exact congrArg (deliveredCount ·.value.1) hdeliver

/-- Before inputs that are delivered in the end, a delivery more makes no difference. -/
theorem agrees_deliver_first (hlive : s.hub.dispatcher.hasHandler = true)
    (hinputs : ∀ c ∈ inputs, c.isInput = true) :
    Agrees (s.run (.hub .deliverPending :: (inputs ++ [.hub .deliverPending])))
      (s.run (inputs ++ [.hub .deliverPending])) := by
  -- After the delivery the inputs find no event and another handler, but a session alike.
  have hlive' : s.delivered.hub.dispatcher.hasHandler = true := by
    rw [delivered, Dispatcher.hasHandler_dispatchAll, hlive]
  have hfirst := perform_deliverPending hlive
  obtain ⟨hsession, hunlogged, hcount⟩ := run_inputs_deliver hlive hinputs
  obtain ⟨hsession', hunlogged', hcount'⟩ := run_inputs_deliver hlive' hinputs
  obtain ⟨halike, hgather⟩ := s.alike_delivered.run hinputs
  -- What was pending at first and what the inputs add are delivered in two parts or in one.
  have hpending := s.pending_run_inputs hinputs
  have hpending' := s.delivered.pending_run_inputs hinputs
  rw [hgather, pending_delivered, List.nil_append] at hpending'
  have hparts : s.hub.dispatcher.dispatchAll (s.run inputs).value.2.pending =
      (s.hub.dispatcher.dispatchAll s.pending >>= fun d =>
        d.dispatchAll (s.delivered.run inputs).value.2.pending) := by
    rw [hpending, hpending', Dispatcher.dispatchAll_append]
  refine ⟨?_, ?_, ?_⟩
  · show ((s.perform (.hub .deliverPending)).value.2.run _).value.2 = _
    rw [hfirst, hsession, hsession']
    have hlast :
        (s.delivered.run inputs).value.2.delivered.Alike (s.run inputs).value.2.delivered :=
      ((alike_delivered _).trans halike).trans (alike_delivered _).symm
    refine hlast.eq halike.clear_eq ?_
    show (Dispatcher.dispatchAll _ _).value = (Dispatcher.dispatchAll _ _).value
    rw [dispatcher_run_inputs _ hinputs, dispatcher_run_inputs _ hinputs, hparts]
    rfl
  · rw [hunlogged, hparts, Traced.trace_bind, Effect.unlogged_append]
    rw [trace_run_cons, hfirst, Effect.unlogged_append, hunlogged']
    rfl
  · show deliveredCount ((s.perform (.hub .deliverPending)).value.1 ::
      ((s.perform (.hub .deliverPending)).value.2.run _).value.1) = _
    rw [hfirst, deliveredCount_cons, hcount, hcount', hpending, hpending', List.length_append]
    rfl

/-- **Every schedule comes to the same as that which delivers at the end alone.** -/
theorem agrees_inputs_first (hlive : s.hub.dispatcher.hasHandler = true)
    (hsteps : ∀ c ∈ steps, c.isInput = true ∨ c = .hub .deliverPending) :
    Agrees (s.run (steps ++ [.hub .deliverPending]))
      (s.run (steps.filter Command.isInput ++ [.hub .deliverPending])) := by
  induction steps generalizing s with
  | nil => exact Agrees.refl _
  | cons c rest ih =>
    rw [List.forall_mem_cons] at hsteps
    obtain hinput | rfl := hsteps.1
    · -- Both runs begin with the input, and it leaves the handler in place.
      rw [List.filter_cons_of_pos hinput]
      exact Agrees.cons c (ih (by rw [s.dispatcher_perform_input hinput, hlive]) hsteps.2)
    · -- The delivery is moved behind the inputs, where one takes place anyway.
      rw [List.filter_cons_of_neg Bool.false_ne_true]
      refine (Agrees.cons _ (ih ?_ hsteps.2)).trans (agrees_deliver_first hlive ?_)
      · rw [perform_deliverPending hlive, delivered, Dispatcher.hasHandler_dispatchAll, hlive]
      · exact fun c hc => (List.mem_filter.mp hc).2

end

/-! ### The schedule of the deliveries -/

/-- **It makes no difference when the pending events are delivered.**  Take two lists of inputs and
    deliveries with the same inputs, and a delivery after each.  Under one handler they give it the
    same events in the same order and leave it with the same data, they end with the same queue, the
    same click history and the rest of the session the same, and they count as many events as
    delivered.  Each delivery does what is done by taking the events one after the other and giving
    each to the handler. -/
theorem run_eq_of_inputs_eq {s : Session δ} (hlive : s.hub.dispatcher.hasHandler = true)
    {steps steps' : List (Command δ)}
    (hsteps : ∀ c ∈ steps, c.isInput = true ∨ c = .hub .deliverPending)
    (hsteps' : ∀ c ∈ steps', c.isInput = true ∨ c = .hub .deliverPending)
    (hinputs : steps.filter Command.isInput = steps'.filter Command.isInput) :
    let r := s.run (steps ++ [.hub .deliverPending])
    let r' := s.run (steps' ++ [.hub .deliverPending])
    (Hub.handled r.trace = Hub.handled r'.trace ∧
      Effect.unlogged r.trace = Effect.unlogged r'.trace ∧
      r.value.2.hub.dispatcher = r'.value.2.hub.dispatcher ∧
      r.value.2.hub.intake.queue = r'.value.2.hub.intake.queue ∧
      r.value.2.hub.intake.clicks = r'.value.2.hub.intake.clicks ∧
      r.value.2 = r'.value.2 ∧
      deliveredCount r.value.1 = deliveredCount r'.value.1) ∧
    ∀ h : Hub δ, h.dispatcher.hasHandler = true →
      h.relay = ⟨h.deliverPending.value, Effect.unlogged h.deliverPending.trace⟩ := by
  intro r r'
  have hagrees : Agrees r r' := by
    have hlast := agrees_inputs_first hlive hsteps
    rw [hinputs] at hlast
    exact hlast.trans (agrees_inputs_first hlive hsteps').symm
  have hsession := hagrees.session_eq
  refine ⟨⟨?_, hagrees.unlogged_eq, ?_, ?_, ?_, hsession, hagrees.count_eq⟩, ?_⟩
  · rw [← Hub.handled_unlogged, hagrees.unlogged_eq, Hub.handled_unlogged]
  · rw [hsession]
  · rw [hsession]
  · rw [hsession]
  · intro h hhandler
    rw [Hub.relay_eq_drain, Hub.deliverPending, if_pos hhandler]

/-- The new session with a handler that counts its events. -/
def counting : Session Nat :=
  { hub := { dispatcher := ⟨some ⟨0, fun _ count => count + 1, false⟩⟩ } }

/-- A touch of the origin at a time in nanoseconds. -/
def touch (timeNanos : Int64) : Command Nat := .android (.motion { timeNanos } none)

/-- A handler that counts is given the two presses and the double click of two touches one after the
    other, whether or not the first press is delivered before the second touch. -/
theorem run_eq_of_touches_counted :
    counting.hub.dispatcher.hasHandler = true ∧
      (counting.run ([touch 0, .hub .deliverPending, touch 100000000]
          ++ [.hub .deliverPending])).value.2 =
        (counting.run ([touch 0, touch 100000000] ++ [.hub .deliverPending])).value.2 ∧
      deliveredCount (counting.run ([touch 0, .hub .deliverPending, touch 100000000]
          ++ [.hub .deliverPending])).value.1 = 3 := by
  have hsteps : ∀ c ∈ [touch 0, .hub .deliverPending, touch 100000000],
      c.isInput = true ∨ c = .hub .deliverPending := by
    simp [touch, Command.isInput]
  have hsteps' : ∀ c ∈ [touch 0, touch 100000000],
      c.isInput = true ∨ c = .hub .deliverPending := by
    simp [touch, Command.isInput]
  have hagrees := run_eq_of_inputs_eq (s := counting) rfl hsteps hsteps' rfl
  obtain ⟨⟨-, -, -, -, -, hsession, hcount⟩, -⟩ := hagrees
  have hthree : deliveredCount (counting.run ([touch 0, touch 100000000]
      ++ [.hub .deliverPending])).value.1 = 3 := by
    decide +kernel
  exact ⟨rfl, hsession, hcount.trans hthree⟩

end Session

end EventPipeline
