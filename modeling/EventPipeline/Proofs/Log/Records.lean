import EventPipeline.Proofs.Queue.Input

namespace EventPipeline

/-!
# What the log says

A record of the log is written where something is done.  This file sorts the records by what they
are about, and says which of them the intake writes for an event.

* `Traced.log` — the records of a run, oldest first.
* `LogRecord.Topic`, `LogRecord.about` — what a record is about, and the records about a topic.
* `LogRecord.Tells` — a log that says of some events that they joined the queue, were made of
  presses and were delivered, and of nothing else.
* `Intake.click?` — the click that an event completes.

Logs one after the other tell of the events of both (`LogRecord.Tells.append`).  What the intake
writes for an event is listed in `Intake.trace_press_cases` and `Intake.trace_synthesize_cases`,
to the last record.
-/

/-! ### The log of a run -/

/-- The record, where one was logged. -/
def Effect.record? {δ : Type} : Effect δ → Option LogRecord
  | .logged r => some r
  | .handled .. | .tornDown _ => none

namespace Traced

variable {δ α β : Type}

/-- The records in the log, oldest first. -/
def log (t : Traced (Effect δ) α) : List LogRecord := t.trace.filterMap Effect.record?

@[simp] theorem log_pure (a : α) : (pure a : Traced (Effect δ) α).log = [] := rfl

@[simp] theorem log_bind (t : Traced (Effect δ) α) (f : α → Traced (Effect δ) β) :
    (t >>= f).log = t.log ++ (f t.value).log :=
  List.filterMap_append

@[simp] theorem log_map (f : α → β) (t : Traced (Effect δ) α) : (f <$> t).log = t.log := by
  rw [log, trace_map, log]

@[simp] theorem log_emit (r : LogRecord) : (emit (.logged r : Effect δ)).log = [r] := rfl

/-- A part that can only write records writes all of them into the log. -/
@[simp] theorem log_mapTrace (t : Traced LogRecord α) :
    (t.mapTrace (.logged : LogRecord → Effect δ)).log = t.trace := by
  have hkept : Effect.record? ∘ (Effect.logged : LogRecord → Effect δ) = some := rfl
  rw [log, trace_mapTrace, List.filterMap_map, hkept, List.filterMap_some]

end Traced

/-! ### Topics -/

namespace LogRecord

/-- What a record is about. -/
inductive Topic where
  /-- An event that joins the queue. -/
  | joining
  /-- A press that completes a click. -/
  | click
  /-- The event that is made of a click. -/
  | synthesis
  /-- An event that is delivered. -/
  | delivery
  /-- An input without an event. -/
  | rejection
  /-- Something else. -/
  | aside
deriving DecidableEq

/-- What a record is about. -/
def topic : LogRecord → Topic
  | queued .. => .joining
  | click .. => .click
  | synthesized .. => .synthesis
  | dispatching .. => .delivery
  | untranslatedMotion .. | untranslatedKey .. => .rejection
  | replacedHandler | touch .. | noKeySymbol .. | settingsLoaded .. => .aside

/-- The records of a log about a topic, in their order. -/
def about (t : Topic) (log : List LogRecord) : List LogRecord := log.filter fun r => r.topic = t

@[simp] theorem about_nil (t : Topic) : about t [] = [] := rfl

@[simp] theorem about_append (t : Topic) (log later : List LogRecord) :
    about t (log ++ later) = about t log ++ about t later :=
  List.filter_append log later

/-- A log on one topic is about that. -/
theorem about_eq_self {log : List LogRecord} {t : Topic} (htopic : ∀ r ∈ log, r.topic = t) :
    about t log = log := by
  rw [about, List.filter_eq_self]
  intro r hr
  rw [htopic r hr, decide_eq_true_iff]

/-- It is about no other. -/
theorem about_eq_nil {log : List LogRecord} {t u : Topic} (htopic : ∀ r ∈ log, r.topic = t)
    (hother : t ≠ u) : about u log = [] := by
  rw [about, List.filter_eq_nil_iff]
  intro r hr
  rw [htopic r hr, decide_eq_true_iff]
  exact hother

/-- A log that tells of some events that they joined the queue, of some that they were made of
    clicks, of some that they were delivered, and of a number of inputs without an event: each in
    their order, and of no others. -/
structure Tells (log : List LogRecord) (joined made delivered : List Event) (rejections : Nat) :
    Prop where
  joining : about .joining log = joined.map fun e => .queued e.kind e.time
  synthesis : about .synthesis log = made.map fun e => .synthesized e.kind e.button
  delivery : about .delivery log = delivered.map fun e => .dispatching e.kind
  rejection : (about .rejection log).length = rejections

namespace Tells

theorem nil : Tells [] [] [] [] 0 := ⟨rfl, rfl, rfl, rfl⟩

/-- Asides tell of nothing. -/
theorem of_asides {log : List LogRecord} (hasides : ∀ r ∈ log, r.topic = .aside) :
    Tells log [] [] [] 0 where
  joining := about_eq_nil hasides (by decide)
  synthesis := about_eq_nil hasides (by decide)
  delivery := about_eq_nil hasides (by decide)
  rejection := by rw [about_eq_nil hasides (by decide), List.length_nil]

/-- Rejections tell of inputs without an event, one by one. -/
theorem of_rejections {log : List LogRecord} (hrejections : ∀ r ∈ log, r.topic = .rejection) :
    Tells log [] [] [] log.length where
  joining := about_eq_nil hrejections (by decide)
  synthesis := about_eq_nil hrejections (by decide)
  delivery := about_eq_nil hrejections (by decide)
  rejection := by rw [about_eq_self hrejections]

/-- Announcements tell of the events that are delivered. -/
theorem of_deliveries (delivered : List Event) :
    Tells (delivered.map fun e => .dispatching e.kind) [] [] delivered 0 := by
  have hdeliveries : ∀ r ∈ delivered.map fun e => LogRecord.dispatching e.kind,
      r.topic = .delivery := by
    intro r hr
    obtain ⟨e, -, rfl⟩ := List.mem_map.mp hr
    rfl
  exact
    { joining := about_eq_nil hdeliveries (by decide)
      synthesis := about_eq_nil hdeliveries (by decide)
      delivery := about_eq_self hdeliveries
      rejection := by rw [about_eq_nil hdeliveries (by decide), List.length_nil] }

/-- Logs one after the other tell of the events of both. -/
theorem append {log log' : List LogRecord}
    {joined joined' made made' delivered delivered' : List Event} {rejections rejections' : Nat}
    (h : Tells log joined made delivered rejections)
    (h' : Tells log' joined' made' delivered' rejections') :
    Tells (log ++ log') (joined ++ joined') (made ++ made') (delivered ++ delivered')
      (rejections + rejections') where
  joining := by rw [about_append, h.joining, h'.joining, List.map_append]
  synthesis := by rw [about_append, h.synthesis, h'.synthesis, List.map_append]
  delivery := by rw [about_append, h.delivery, h'.delivery, List.map_append]
  rejection := by rw [about_append, List.length_append, h.rejection, h'.rejection]

/-- Asides in front of a log change nothing of what it tells. -/
theorem behind_asides {lead log : List LogRecord} {joined made delivered : List Event}
    {rejections : Nat} (h : Tells log joined made delivered rejections)
    (hasides : ∀ r ∈ lead, r.topic = .aside) :
    Tells (lead ++ log) joined made delivered rejections := by
  have hboth := (of_asides hasides).append h
  rwa [Nat.zero_add] at hboth

end Tells

end LogRecord

open LogRecord

/-! ### What the click history writes -/

/-- An event completes no click and nothing is written, or it completes one, which is written down
    with the button and the place of the event that reports it. -/
theorem ClickHistory.process_cases (h : ClickHistory) (s : ClickSettings) (e : Event) :
    ((h.process s e).value.1 = none ∧ (h.process s e).trace = []) ∨
      ∃ (m : Multiplicity) (f : Event), (h.process s e).value.1 = some f ∧ f.kind = m.kind ∧
        f.IsClickOf e ∧ (h.process s e).trace = [.click m f.button f.position] := by
  by_cases hpress : e.kind = .buttonPress
  · rw [process, if_pos hpress]
    rcases h.press s (.ofEvent e) with ⟨_ | m, after⟩
    · exact .inl ⟨rfl, rfl⟩
    · obtain ⟨f, hf, hkind, -, -, hpayload⟩ := exists_withKind?_of_press hpress m
      obtain ⟨-, hposition, hbutton, -⟩ := Event.reads_eq_of_payload_eq hpayload
      refine .inr ⟨m, f, hf, hkind, Event.isClickOf_of_withKind? hpress hf, ?_⟩
      rw [hposition, hbutton]
      rfl
  · rw [process_of_kind_ne h s hpress]
    exact .inl ⟨rfl, rfl⟩

/-! ### What the intake writes -/

namespace Intake

variable (i : Intake) (e : Event)

/-- The click that an event completes. -/
def click? : Option Event := (i.clicks.process i.settings e).value.1

/-- The events that an input adds to the queue: its event and the click that it completes. -/
theorem offered_some : i.offered (some e) = e :: (i.click? e).toList := by
  rw [offered]
  split
  · rfl
  · rename_i hother
    rw [click?, ClickHistory.process_of_kind_ne _ _ hother]
    rfl

/-- What is written for an event that joins the queue with the click that it completes: the click
    comes first, then the event, and then the event that reports the click. -/
theorem trace_press_cases :
    (i.click? e = none ∧ (i.press e).trace = [.queued e.kind e.time]) ∨
      ∃ (m : Multiplicity) (f : Event), i.click? e = some f ∧ f.kind = m.kind ∧ f.IsClickOf e ∧
        (i.press e).trace =
          [.click m f.button f.position, .queued e.kind e.time, .synthesized f.kind f.button,
            .queued f.kind f.time] := by
  have htrace : (i.press e).trace = (i.clicks.process i.settings e).trace ++
      .queued e.kind e.time ::
        (({ i with clicks := (i.clicks.process i.settings e).value.2 }.push e).value.pushClick
          (i.click? e)).trace := rfl
  obtain ⟨hnone, hquiet⟩ | ⟨m, f, hf, hkind, hclick, hwritten⟩ :=
    i.clicks.process_cases i.settings e
  · have hclick? : i.click? e = none := hnone
    rw [htrace, hquiet, hclick?]
    exact .inl ⟨rfl, rfl⟩
  · have hclick? : i.click? e = some f := hf
    rw [htrace, hwritten, hclick?]
    exact .inr ⟨m, f, rfl, hkind, hclick, rfl⟩

/-- What is written for the click of an event that does not join the queue itself: the click, and
    then the event that reports it. -/
theorem trace_synthesize_cases :
    (i.click? e = none ∧ (i.synthesize e).trace = []) ∨
      ∃ (m : Multiplicity) (f : Event), i.click? e = some f ∧ f.kind = m.kind ∧ f.IsClickOf e ∧
        (i.synthesize e).trace =
          [.click m f.button f.position, .synthesized f.kind f.button, .queued f.kind f.time] := by
  have htrace : (i.synthesize e).trace = (i.clicks.process i.settings e).trace ++
      ((({ i with clicks := (i.clicks.process i.settings e).value.2 } : Intake).pushClick
        (i.click? e)).trace ++ []) := rfl
  obtain ⟨hnone, hquiet⟩ | ⟨m, f, hf, hkind, hclick, hwritten⟩ :=
    i.clicks.process_cases i.settings e
  · have hclick? : i.click? e = none := hnone
    rw [htrace, hquiet, hclick?]
    exact .inl ⟨rfl, rfl⟩
  · have hclick? : i.click? e = some f := hf
    rw [htrace, hwritten, hclick?]
    exact .inr ⟨m, f, rfl, hkind, hclick, rfl⟩

/-- For an event of the user the same is written, whether or not it is a press. -/
theorem trace_accept : (i.accept e).trace = (i.press e).trace := by
  rw [accept]
  split
  · rfl
  · rename_i hother
    obtain ⟨-, hquiet⟩ | ⟨-, f, -, -, hclick, -⟩ := i.trace_press_cases e
    · rw [hquiet, trace_push]
    · exact absurd hclick.kind_eq hother

/-- An event that joins the queue is told of, and with it the click that it completes. -/
theorem tells_press :
    Tells (i.press e).trace (e :: (i.click? e).toList) (i.click? e).toList [] 0 := by
  obtain ⟨hnone, htrace⟩ | ⟨m, f, hf, -, -, htrace⟩ := i.trace_press_cases e
  · rw [hnone, htrace]
    exact ⟨rfl, rfl, rfl, rfl⟩
  · rw [hf, htrace]
    exact ⟨rfl, rfl, rfl, rfl⟩

/-- The click of an event is told of alone. -/
theorem tells_synthesize :
    Tells (i.synthesize e).trace (i.click? e).toList (i.click? e).toList [] 0 := by
  obtain ⟨hnone, htrace⟩ | ⟨m, f, hf, -, -, htrace⟩ := i.trace_synthesize_cases e
  · rw [hnone, htrace]
    exact .nil
  · rw [hf, htrace]
    exact ⟨rfl, rfl, rfl, rfl⟩

end Intake

end EventPipeline
