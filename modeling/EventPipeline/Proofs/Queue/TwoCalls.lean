import EventPipeline.Intake

namespace EventPipeline

namespace Intake

/-!
# Presses in two calls

A press can be queued with the click that it completes in one call, or it can be queued first and
its click after it.  The click is then told before the press joins the queue, or after it has.

* `Intake.Command.inTwo` — a press in two calls.
* `Intake.inTwoCalls` — the steps of a list with the marked presses in two calls.
* `Intake.Reply.event?` — the event that a step answers with.

The click history does not look at the queue, so both ways lead to the same intake
(`Intake.press_eq_synthesize_push`).  Then so does every run, whichever of its presses are made in
two calls (`Intake.snd_run_inTwoCalls`), and every question after it is answered the same.
-/

/-! ### One press -/

/-- A press in one call and in two leads to one intake. -/
theorem press_eq_synthesize_push (i : Intake) (e : Event) :
    (i.press e).value = ((i.push e).value.synthesize e).value.2 := rfl

/-- Whether a click is queued is whether there is one. -/
theorem fst_synthesize (i : Intake) (e : Event) :
    (i.synthesize e).value.1 = (i.clicks.process i.settings e).value.1.isSome := rfl

/-- The queue grows by the click, if there is one. -/
theorem fst_synthesize_eq_true_iff (i : Intake) (e : Event) :
    (i.synthesize e).value.1 = true ↔
      ∃ click, (i.synthesize e).value.2.queue.toList = i.queue.toList ++ [click] := by
  rw [fst_synthesize, Option.isSome_iff_exists, toList_queue_synthesize]
  refine exists_congr fun click => ?_
  rw [List.append_cancel_left_eq]
  cases (i.clicks.process i.settings e).value.1 with
  | none => simp
  | some f => simp

/-- Without a click the queue is the same, to the row in which the events stand. -/
theorem fst_synthesize_eq_false_iff (i : Intake) (e : Event) :
    (i.synthesize e).value.1 = false ↔ (i.synthesize e).value.2.queue = i.queue := by
  constructor
  · intro hnone
    rw [fst_synthesize, Option.isSome_eq_false_iff, Option.isNone_iff_eq_none] at hnone
    show (({ i with clicks := (i.clicks.process i.settings e).value.2 } : Intake).pushClick
      (i.clicks.process i.settings e).value.1).value.queue = i.queue
    rw [hnone]
    rfl
  · intro hsame
    rw [← Bool.not_eq_true, fst_synthesize_eq_true_iff]
    rintro ⟨click, hgrown⟩
    rw [hsame, List.self_eq_append_right] at hgrown
    exact absurd hgrown (List.cons_ne_nil click [])

/-! ### Presses in a run -/

/-- A press in two calls.  Every other step stays one. -/
def Command.inTwo : Command → List Command
  | .press e => [.push e, .synthesize e]
  | c => [c]

/-- The steps of a list with those presses in two calls that are marked. -/
def inTwoCalls (steps : List (Command × Bool)) : List Command :=
  steps.flatMap fun (c, marked) => if marked then c.inTwo else [c]

/-- What a step answers that asks for an event. -/
def Reply.event? : Reply → Option (Option Event)
  | .event e? => some e?
  | .done | .synthesized _ | .settings _ => none

/-- **Step.**  A step in two calls leads where it leads in one, and answers with the same event if
    it answers with one. -/
theorem run_inTwo (i : Intake) (c : Command) :
    (i.run c.inTwo).value.2 = (i.perform c).value.2 ∧
      (i.run c.inTwo).value.1.filterMap Reply.event? =
        [(i.perform c).value.1].filterMap Reply.event? := by
  cases c with
  | press e => exact ⟨(i.press_eq_synthesize_push e).symm, rfl⟩
  | push | synthesize | pop | peek | flush | settings | setSettings | setTime | setDistance =>
    exact ⟨rfl, rfl⟩

/-- So does a step, be it marked or not. -/
theorem run_ite_inTwo (i : Intake) (c : Command) (marked : Bool) :
    (i.run (if marked then c.inTwo else [c])).value.2 = (i.perform c).value.2 ∧
      (i.run (if marked then c.inTwo else [c])).value.1.filterMap Reply.event? =
        [(i.perform c).value.1].filterMap Reply.event? := by
  cases marked with
  | true => exact i.run_inTwo c
  | false => exact ⟨rfl, rfl⟩

/-- **Run.**  The marked presses of a run can be made in two calls.  The run leads to the same
    intake. -/
theorem snd_run_inTwoCalls (i : Intake) (steps : List (Command × Bool)) :
    (i.run (inTwoCalls steps)).value.2 = (i.run (steps.map Prod.fst)).value.2 := by
  induction steps generalizing i with
  | nil => rfl
  | cons step rest ih =>
    obtain ⟨c, marked⟩ := step
    rw [inTwoCalls, List.flatMap_cons, run, Traced.snd_runAll_append]
    have hfirst := (i.run_ite_inTwo c marked).1
    rw [run] at hfirst
    rw [hfirst]
    exact ih (i.perform c).value.2

/-- The run takes and shows the same events. -/
theorem filterMap_event?_run_inTwoCalls (i : Intake) (steps : List (Command × Bool)) :
    (i.run (inTwoCalls steps)).value.1.filterMap Reply.event? =
      (i.run (steps.map Prod.fst)).value.1.filterMap Reply.event? := by
  induction steps generalizing i with
  | nil => rfl
  | cons step rest ih =>
    obtain ⟨c, marked⟩ := step
    obtain ⟨hstate, hanswers⟩ := i.run_ite_inTwo c marked
    rw [run] at hstate hanswers
    have hsplit : (i.run (c :: rest.map Prod.fst)).value.1 =
        [(i.perform c).value.1] ++ ((i.perform c).value.2.run (rest.map Prod.fst)).value.1 := rfl
    rw [inTwoCalls, List.flatMap_cons, run, Traced.fst_runAll_append, List.filterMap_append, hstate,
      hanswers, List.map_cons, hsplit, List.filterMap_append]
    exact congrArg _ (ih (i.perform c).value.2)

/-- **Presses in one call and in two.**  To queue an event with its click leads to the same intake
    as to queue it first and its click after it.  The second call says whether the queue grew by
    one event; if it did not, the queue is the same.

    Therefore any presses of a run may be made in two calls.  Every event that is taken or shown
    stays the same.  After each step of the run the intake is the same, and with it what is
    pending and what is remembered. -/
theorem run_inTwoCalls :
    (∀ (i : Intake) (e : Event),
      (i.press e).value = ((i.push e).value.synthesize e).value.2 ∧
        ((i.synthesize e).value.1 = true ↔
          ∃ click, (i.synthesize e).value.2.queue.toList = i.queue.toList ++ [click]) ∧
        ((i.synthesize e).value.1 = false ↔ (i.synthesize e).value.2.queue = i.queue)) ∧
      ∀ (i : Intake) (steps : List (Command × Bool)),
        (i.run (inTwoCalls steps)).value.1.filterMap Reply.event? =
            (i.run (steps.map Prod.fst)).value.1.filterMap Reply.event? ∧
          ∀ n, inTwoCalls (steps.take n) <+: inTwoCalls steps ∧
            (i.run (inTwoCalls (steps.take n))).value.2 =
              (i.run ((steps.map Prod.fst).take n)).value.2 := by
  refine ⟨fun i e => ⟨i.press_eq_synthesize_push e, i.fst_synthesize_eq_true_iff e,
    i.fst_synthesize_eq_false_iff e⟩, fun i steps => ⟨i.filterMap_event?_run_inTwoCalls steps,
    fun n => ⟨?_, ?_⟩⟩⟩
  · -- The calls for the first steps come first.
    have hsplit := congrArg inTwoCalls (List.take_append_drop n steps)
    rw [inTwoCalls, List.flatMap_append] at hsplit
    exact ⟨_, hsplit⟩
  · rw [snd_run_inTwoCalls, List.map_take]

end Intake

end EventPipeline
