import EventPipeline.Proofs.Log.Steps
import Mathlib.Data.List.Basic

namespace EventPipeline

open LogRecord

/-!
# The log tells the truth

What a session does to its events can be read off the log of a run, one for one and in order.

* `Session.Opening` — the records that lead up to the event of a click: the click, and the press
  that completes it if that joins the queue first.

The records of a run tell of its events, since those of each step do (`Session.tells_run`).  A step
that makes an event of a click has a log that is known to the last record
(`Session.log_perform_of_mem_made`), and a place in the log of a run is one in the log of a step
(`Session.exists_step_of_log`).
-/

namespace Session

variable {δ : Type} (s : Session δ)

/-! ### The event of a click -/

/-- The records that lead up to the event of a click, which a step makes: the click itself, and the
    event that completes it if that joins the queue first. -/
inductive Opening : Command δ → Event → List LogRecord → Prop
  /-- The event of the click is all that is added. -/
  | alone {e f : Event} {m : Multiplicity} (hclick : f.IsClickOf e) (hkind : f.kind = m.kind)
      (happended : s.appended (.hub (.intake (.synthesize e))) = [f]) :
      Opening (.hub (.intake (.synthesize e))) f [.click m f.button f.position]
  /-- The press is added first. -/
  | behindPress {c : Command δ} {e f : Event} {m : Multiplicity} (he : s.accepted? c = some e)
      (hclick : f.IsClickOf e) (hkind : f.kind = m.kind) (happended : s.appended c = [e, f]) :
      Opening c f [.click m f.button f.position, .queued e.kind e.time]

/-- A step that makes an event of a click queues an event with its click, or the click alone. -/
theorem eq_synthesize_or_accepted?_eq_some {c : Command δ} {f : Event} (hf : f ∈ s.made c) :
    (∃ e, c = .hub (.intake (.synthesize e))) ∨ ∃ e, s.accepted? c = some e := by
  rw [made, Option.mem_toList, Option.bind_eq_some_iff] at hf
  obtain ⟨e, he, -⟩ := hf
  rw [examined?.eq_def] at he
  split at he
  · exact .inl ⟨_, rfl⟩
  · exact .inr ⟨e, he⟩

/-- What leads up to the event of a click does not announce one. -/
theorem Opening.topic_ne {c : Command δ} {f : Event} {opening : List LogRecord}
    (h : s.Opening c f opening) : ∀ r ∈ opening, r.topic ≠ .synthesis := by
  cases h with
  | alone => simp [topic]
  | behindPress => simp [topic]

/-- A step that makes an event of a click writes, behind asides at most, what leads up to the event,
    the event, and that it joins the queue. -/
theorem log_perform_of_mem_made {c : Command δ} {f : Event} (hf : f ∈ s.made c) :
    ∃ lead opening : List LogRecord, s.Opening c f opening ∧ (∀ r ∈ lead, r.topic = .aside) ∧
      (s.perform c).log =
        lead ++ opening ++ .synthesized f.kind f.button :: [.queued f.kind f.time] := by
  obtain ⟨e, rfl⟩ | ⟨e, he⟩ := s.eq_synthesize_or_accepted?_eq_some hf
  · -- The click alone is queued.
    have hclick? : s.hub.intake.click? e = some f := Option.mem_toList.mp hf
    have happended : s.appended (.hub (.intake (.synthesize e))) = [f] :=
      congrArg Option.toList hclick?
    rw [log_perform_intake, Intake.perform, Traced.trace_map]
    obtain ⟨hnone, -⟩ | ⟨m, f', hf', hkind, hclick, hwritten⟩ :=
      s.hub.intake.trace_synthesize_cases e
    · exact absurd (hclick?.symm.trans hnone) (Option.some_ne_none f)
    · obtain rfl := Option.some.inj (hclick?.symm.trans hf')
      exact ⟨[], _, .alone hclick hkind happended, List.forall_mem_nil _, hwritten⟩
  · -- The event that completes the click is queued with it.
    rw [s.made_of_accepted? he, Option.mem_toList] at hf
    have happended : s.appended c = [e, f] := by
      rw [s.appended_of_accepted? he, hf]
      rfl
    obtain ⟨lead, hasides, hlog⟩ := s.log_perform_of_accepted? he
    obtain ⟨hnone, -⟩ | ⟨m, f', hf', hkind, hclick, hwritten⟩ :=
      s.hub.intake.trace_press_cases e
    · exact absurd (hf.symm.trans hnone) (Option.some_ne_none f)
    · obtain rfl := Option.some.inj (hf.symm.trans hf')
      refine ⟨lead, _, .behindPress he hclick hkind happended, hasides, ?_⟩
      rw [hlog, hwritten, List.append_assoc]
      rfl

/-- **Step.**  Where a step announces the event of a click, the click is written down before, with
    nothing but the press in between if that joins the queue first, and the event joins the queue
    next. -/
theorem exists_opening {c : Command δ} {kind : EventKind} {button : UInt32}
    {before after : List LogRecord}
    (hlog : (s.perform c).log = before ++ .synthesized kind button :: after) :
    ∃ (f : Event) (lead opening : List LogRecord), s.Opening c f opening ∧ f.kind = kind ∧
      f.button = button ∧ before = lead ++ opening ∧ after = [.queued f.kind f.time] := by
  -- The step makes the event of a click, since it says so.
  have hmade : ∃ f, f ∈ s.made c := by
    obtain ⟨_, -, htells⟩ := s.tells_perform c
    have hmem : .synthesized kind button ∈ about .synthesis (s.perform c).log := by
      rw [hlog, about_append]
      exact List.mem_append_right _ (List.mem_filter.mpr ⟨List.mem_cons_self, rfl⟩)
    rw [htells.synthesis, List.mem_map] at hmem
    obtain ⟨f, hf, -⟩ := hmem
    exact ⟨f, hf⟩
  obtain ⟨f, hf⟩ := hmade
  obtain ⟨lead, opening, hopening, hasides, hwritten⟩ := s.log_perform_of_mem_made hf
  -- It says so once, so that its log is cut there in one way.
  have hfront : ∀ r ∈ lead ++ opening, r.topic ≠ .synthesis := by
    intro r hr
    obtain hr | hr := List.mem_append.mp hr
    · rw [hasides r hr]
      decide
    · exact hopening.topic_ne s r hr
  have hback : ∀ r ∈ [LogRecord.queued f.kind f.time], r.topic ≠ .synthesis := by
    simp [topic]
  rw [hwritten] at hlog
  obtain ⟨hbefore, hrecord, hafter⟩ := (List.append_cons_inj_of_notMem
    (fun hmem => hfront _ hmem rfl) (fun hmem => hback _ hmem rfl)).mp hlog
  obtain ⟨hkind, hbutton⟩ := LogRecord.synthesized.inj hrecord
  exact ⟨f, lead, opening, hopening, hkind, hbutton, hbefore.symm, hafter.symm⟩

/-! ### Runs -/

theorem log_run_cons (c : Command δ) (rest : List (Command δ)) :
    (s.run (c :: rest)).log = (s.perform c).log ++ ((s.perform c).value.2.run rest).log := by
  rw [Traced.log, trace_run_cons, List.filterMap_append]
  rfl

/-- **Run.**  What the records of its steps tell, the records of a run tell. -/
theorem tells_run (steps : List (Command δ)) :
    ∃ rejections, (s.run steps).value.2.android.dropped = s.android.dropped + rejections ∧
      Tells (s.run steps).log (Traced.gather perform appended s steps)
        (Traced.gather perform made s steps) (Traced.gather perform dispatched s steps)
        rejections := by
  induction steps generalizing s with
  | nil => exact ⟨0, rfl, .nil⟩
  | cons c rest ih =>
    obtain ⟨n, hstep, htells⟩ := s.tells_perform c
    obtain ⟨n', hrest, htells'⟩ := ih (s.perform c).value.2
    refine ⟨n + n', ?_, ?_⟩
    · show ((s.perform c).value.2.run rest).value.2.android.dropped = _
      rw [hrest, hstep, Nat.add_assoc]
    · rw [log_run_cons]
      exact htells.append htells'

/-- A place in the log of a run is one in the log of a step, between the logs of the steps before it
    and of those after it. -/
theorem exists_step_of_log {steps : List (Command δ)} {r : LogRecord}
    {before after : List LogRecord} (hlog : (s.run steps).log = before ++ r :: after) :
    ∃ (earlier : List (Command δ)) (c : Command δ) (later : List (Command δ))
      (front back : List LogRecord),
      steps = earlier ++ c :: later ∧
        ((s.run earlier).value.2.perform c).log = front ++ r :: back ∧
        before = (s.run earlier).log ++ front ∧
        after = back ++ (((s.run earlier).value.2.perform c).value.2.run later).log := by
  induction steps generalizing s before with
  | nil => exact absurd hlog (by simp [run, Traced.log])
  | cons c rest ih =>
    rw [log_run_cons] at hlog
    -- The place lies behind the log of the first step, or within it.
    have hsplit : (∃ between, before = (s.perform c).log ++ between ∧
          ((s.perform c).value.2.run rest).log = between ++ r :: after) ∨
        ∃ back, (s.perform c).log = before ++ r :: back ∧
          after = back ++ ((s.perform c).value.2.run rest).log := by
      obtain ⟨between, hbefore, hrest⟩ | ⟨between, hfirst, hafter⟩ :=
        List.append_eq_append_iff.mp hlog
      · exact .inl ⟨between, hbefore, hrest⟩
      · cases between with
        | nil => exact .inl ⟨[], by rw [hfirst, List.append_nil, List.append_nil], hafter.symm⟩
        | cons x back =>
          obtain ⟨rfl, hback⟩ := List.cons.inj hafter
          exact .inr ⟨back, hfirst, hback⟩
    obtain ⟨between, hbefore, hrest⟩ | ⟨back, hfirst, hafter⟩ := hsplit
    · obtain ⟨earlier, c', later, front, back, hsteps, hstep, hbetween, hafter⟩ :=
        ih (s.perform c).value.2 hrest
      refine ⟨c :: earlier, c', later, front, back, by rw [hsteps, List.cons_append], hstep, ?_,
        hafter⟩
      rw [hbefore, hbetween, log_run_cons, List.append_assoc]
    · exact ⟨[], c, rest, before, back, rfl, hfirst, rfl, hafter⟩

/-- **The log tells the truth.**  In every run from a new session, with all its records kept,

    * the records about events that join the queue are those of the events added to it, which all
      left it or are still pending;
    * the records about deliveries are those of the events that the handler was given out of the
      queue;
    * the records about events of clicks are those of the events that were made of clicks, and there
      are as many records about inputs without an event as inputs of Android were dropped.

    All this in order.  Wherever an event of a click is announced, one step does it: the event
    joins the queue next, and the click with the same button is written down before.  If the event
    is added alone, nothing stands in between, and else the record of the press that is added
    before it. -/
theorem log_tells_truth (settings : ClickSettings) (steps : List (Command δ)) :
    let start : Session δ := withSettings settings
    let log := (start.run steps).log
    let final := (start.run steps).value.2
    about .joining log =
        (Traced.gather perform appended start steps).map (fun e => .queued e.kind e.time) ∧
      Traced.gather perform appended start steps =
        Traced.gather perform removed start steps ++ final.pending ∧
      about .delivery log =
        (Traced.gather perform dispatched start steps).map (fun e => .dispatching e.kind) ∧
      about .synthesis log =
        (Traced.gather perform made start steps).map (fun e => .synthesized e.kind e.button) ∧
      (about .rejection log).length = final.android.dropped ∧
      ∀ before kind button after, log = before ++ .synthesized kind button :: after →
        ∃ (earlier : List (Command δ)) (c : Command δ) (later : List (Command δ)) (f : Event)
          (lead opening : List LogRecord),
          steps = earlier ++ c :: later ∧
            (start.run earlier).value.2.Opening c f opening ∧ f.kind = kind ∧ f.button = button ∧
            before = (start.run earlier).log ++ (lead ++ opening) ∧
            after = .queued kind f.time ::
              (((start.run earlier).value.2.perform c).value.2.run later).log := by
  intro start log final
  obtain ⟨rejections, hdropped, htells⟩ := start.tells_run steps
  refine ⟨htells.joining, ?_, htells.delivery, htells.synthesis, ?_, ?_⟩
  · exact Traced.gather_conserved perform pending appended removed ledger_step start steps
  · have hnone : start.android.dropped = 0 := rfl
    rw [htells.rejection, hdropped, hnone, Nat.zero_add]
  · intro before kind button after hlog
    obtain ⟨earlier, c, later, front, back, hsteps, hstep, hbefore, hafter⟩ :=
      start.exists_step_of_log hlog
    obtain ⟨f, lead, opening, hopening, hkind, hbutton, hfront, hback⟩ :=
      (start.run earlier).value.2.exists_opening hstep
    refine ⟨earlier, c, later, f, lead, opening, hsteps, hopening, hkind, hbutton, ?_, ?_⟩
    · rw [hbefore, hfront]
    · rw [hafter, hback, hkind, List.singleton_append]

-- Two touches of one place, the second of which completes a double click.
example :
    let touch (timeNanos : Int64) : Command Unit := .android (.motion { timeNanos } none)
    ((withSettings {}).run [touch 0, touch 100000000]).log =
      [.touch .buttonPress .origin, .queued .buttonPress 0,
        .touch .buttonPress .origin, .click .double 1 .origin, .queued .buttonPress 100,
        .synthesized .doublePress 1, .queued .doublePress 100] := by
  decide +kernel

end Session

end EventPipeline
