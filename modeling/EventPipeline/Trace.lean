namespace EventPipeline

/-!
# Values with a trace

An operation of the pipeline may report what it does as it goes. `Traced ε α` is a value of
type `α` together with the records of type `ε` that were reported on the way to it, oldest
first.

* `Traced.emit` — report one record.
* `pure` and `>>=` — no record, and the records of both parts one after the other.
* `Traced.mapTrace` — the same value with every record put into a wider type.
* `Traced.runAll` — the steps of a list, one after the other.
* `Traced.gather` — what is read off each step of such a run.
-/

/-- A value and the records reported on the way to it, oldest first. -/
@[ext] structure Traced (ε α : Type) where
  /-- The result. -/
  value : α
  /-- The records, oldest first. -/
  trace : List ε := []

namespace Traced

variable {ε ε' α β : Type}

/-- Reports one record. -/
def emit (r : ε) : Traced ε Unit := ⟨(), [r]⟩

/-- Reports several records, in the order given. -/
def emitAll (rs : List ε) : Traced ε Unit := ⟨(), rs⟩

/-- The same value with each record changed by `f`. -/
def mapTrace (f : ε → ε') (t : Traced ε α) : Traced ε' α := ⟨t.value, t.trace.map f⟩

instance : Monad (Traced ε) where
  pure a := ⟨a, []⟩
  bind t f := ⟨(f t.value).value, t.trace ++ (f t.value).trace⟩

/-- Performs the steps of a list one after the other, and gives their answers with the state after
    the last one. -/
def runAll {σ κ ρ : Type} (perform : σ → κ → Traced ε (ρ × σ)) (s : σ) :
    List κ → Traced ε (List ρ × σ)
  | [] => pure ([], s)
  | step :: rest => do
    let (answer, s) ← perform s step
    let (answers, s) ← runAll perform s rest
    return (answer :: answers, s)

/-- What `read` finds at the steps of a list, each step taken in the state that the steps before it
    left behind. -/
def gather {σ κ ρ γ : Type} (perform : σ → κ → Traced ε (ρ × σ)) (read : σ → κ → List γ) (s : σ) :
    List κ → List γ
  | [] => []
  | step :: rest => read s step ++ gather perform read (perform s step).value.2 rest

/-! ### What each operation does to the two parts -/

@[simp] theorem value_pure (a : α) : (pure a : Traced ε α).value = a := rfl

@[simp] theorem trace_pure (a : α) : (pure a : Traced ε α).trace = [] := rfl

@[simp] theorem value_bind (t : Traced ε α) (f : α → Traced ε β) :
    (t >>= f).value = (f t.value).value := rfl

@[simp] theorem trace_bind (t : Traced ε α) (f : α → Traced ε β) :
    (t >>= f).trace = t.trace ++ (f t.value).trace := rfl

@[simp] theorem value_map (f : α → β) (t : Traced ε α) : (f <$> t).value = f t.value := rfl

@[simp] theorem trace_map (f : α → β) (t : Traced ε α) : (f <$> t).trace = t.trace :=
  List.append_nil _

@[simp] theorem trace_emit (r : ε) : (emit r).trace = [r] := rfl

@[simp] theorem trace_emitAll (rs : List ε) : (emitAll rs).trace = rs := rfl

@[simp] theorem value_runAll_nil {σ κ ρ : Type} (perform : σ → κ → Traced ε (ρ × σ)) (s : σ) :
    (runAll perform s []).value = ([], s) := rfl

@[simp] theorem trace_runAll_nil {σ κ ρ : Type} (perform : σ → κ → Traced ε (ρ × σ)) (s : σ) :
    (runAll perform s []).trace = [] := rfl

theorem value_runAll_cons {σ κ ρ : Type} (perform : σ → κ → Traced ε (ρ × σ)) (s : σ) (step : κ)
    (rest : List κ) :
    (runAll perform s (step :: rest)).value =
      let first := (perform s step).value
      let later := (runAll perform first.2 rest).value
      (first.1 :: later.1, later.2) := rfl

theorem trace_runAll_cons {σ κ ρ : Type} (perform : σ → κ → Traced ε (ρ × σ)) (s : σ) (step : κ)
    (rest : List κ) :
    (runAll perform s (step :: rest)).trace =
      (perform s step).trace ++ (runAll perform (perform s step).value.2 rest).trace := by
  simp [runAll]

theorem fst_runAll_append {σ κ ρ : Type} (perform : σ → κ → Traced ε (ρ × σ)) (s : σ)
    (steps later : List κ) :
    (runAll perform s (steps ++ later)).value.1 =
      (runAll perform s steps).value.1 ++
        (runAll perform (runAll perform s steps).value.2 later).value.1 := by
  induction steps generalizing s with
  | nil => rfl
  | cons step rest ih =>
    exact congrArg ((perform s step).value.1 :: ·) (ih (perform s step).value.2)

theorem snd_runAll_append {σ κ ρ : Type} (perform : σ → κ → Traced ε (ρ × σ)) (s : σ)
    (steps later : List κ) :
    (runAll perform s (steps ++ later)).value.2 =
      (runAll perform (runAll perform s steps).value.2 later).value.2 := by
  induction steps generalizing s with
  | nil => rfl
  | cons step rest ih => exact ih (perform s step).value.2

theorem trace_runAll_append {σ κ ρ : Type} (perform : σ → κ → Traced ε (ρ × σ)) (s : σ)
    (steps later : List κ) :
    (runAll perform s (steps ++ later)).trace =
      (runAll perform s steps).trace ++
        (runAll perform (runAll perform s steps).value.2 later).trace := by
  induction steps generalizing s with
  | nil => rfl
  | cons step rest ih =>
    rw [List.cons_append, trace_runAll_cons, trace_runAll_cons, ih, List.append_assoc]
    rfl

@[simp] theorem value_mapTrace (f : ε → ε') (t : Traced ε α) :
    (t.mapTrace f).value = t.value := rfl

@[simp] theorem trace_mapTrace (f : ε → ε') (t : Traced ε α) :
    (t.mapTrace f).trace = t.trace.map f := rfl

end Traced

end EventPipeline
