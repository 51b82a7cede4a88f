import EventPipeline.Event.Basic
import EventPipeline.Log

namespace EventPipeline

/-!
# The shape of a stream with clicks

What is ever added to a queue makes up one stream, in which a flush is marked by an entry of its
own.  This file is about such streams alone, whatever they come from.

* `Entry` — an event that was added, or a flush.
* `ClickShape` — the shape that a handler can rely on, in terms of where an entry stands: a
  multiple click right behind the press that completes it, a triple click only behind a double
  one, and nothing behind the first press after a triple click or a flush.
* `Regular` — the same shape as a rule on what may come next, given all that came before.

The rule is what a run can keep up step by step.  It implies the shape (`Regular.clickShape`).
-/

/-! ### Entries -/

/-- Whether an event of this kind reports a double or a triple click. -/
def EventKind.isClick : EventKind → Bool
  | doublePress | triplePress => true
  | nothing | keyPress | keyRelease | motion | buttonPress | buttonRelease | scroll => false

theorem EventKind.isClick_iff (kind : EventKind) :
    kind.isClick = true ↔ kind = .doublePress ∨ kind = .triplePress := by
  cases kind <;> decide

/-- What happened to the queue. -/
inductive Entry where
  /-- An event was added. -/
  | added (e : Event)
  /-- All pending events were dropped, and all presses forgotten. -/
  | flushed
deriving DecidableEq

namespace Entry

/-- The event that was added. -/
def event? : Entry → Option Event
  | added e => some e
  | flushed => none

/-- A single press of a button was added. -/
def IsPress : Entry → Prop
  | added e => e.kind = .buttonPress
  | flushed => False

/-- No press of before can be completed to a click any more. -/
def EndsClicks : Entry → Prop
  | added e => e.kind = .triplePress
  | flushed => True

end Entry

/-- The shape of a stream, oldest entry first. -/
structure ClickShape (t : List Entry) : Prop where
  /-- A multiple click stands right behind a press and differs from it in nothing but the kind. -/
  behind_press : ∀ before e after, t = before ++ .added e :: after → e.kind.isClick = true →
    ∃ earlier p, before = earlier ++ [.added p] ∧ p.kind = .buttonPress ∧
      e.stage = p.stage ∧ e.flags = p.flags ∧ e.payload = p.payload
  /-- A press completes at most one click. -/
  at_most_one : ∀ before p e f after,
    t = before ++ .added p :: .added e :: .added f :: after → p.kind = .buttonPress →
      ¬ (e.kind.isClick = true ∧ f.kind.isClick = true)
  /-- A press completes a triple click only if the press before it completed a double click, and
      nothing was flushed since. -/
  triple_behind_double : ∀ before p e after, t = before ++ .added p :: .added e :: after →
    p.kind = .buttonPress → e.kind = .triplePress →
      ∃ earlier q d between, before = earlier ++ .added q :: .added d :: between ∧
        q.kind = .buttonPress ∧ d.kind = .doublePress ∧
        ∀ x ∈ between, ¬ x.IsPress ∧ x ≠ .flushed
  /-- The first press after a triple click or a flush completes nothing. -/
  first_alone : ∀ before x between p e after,
    t = before ++ x :: (between ++ .added p :: .added e :: after) → x.EndsClicks →
      (∀ y ∈ between, ¬ y.IsPress) → p.kind = .buttonPress → ¬ e.kind.isClick = true

/-! ### The same shape as a rule on the next entry -/

/-- How far the latest press has come towards a click. -/
inductive Standing where
  /-- There was no press since the last triple click or flush. -/
  | fresh
  /-- The latest press completed nothing. -/
  | single
  /-- The latest press completed a double click. -/
  | double
deriving DecidableEq

/-- The standing after the given entries, the latest of them first. -/
def standing : List Entry → Standing
  | [] => .fresh
  | .flushed :: _ => .fresh
  | .added e :: past =>
    if e.kind = .triplePress then .fresh
    else if e.kind = .doublePress then .double
    else if e.kind = .buttonPress then .single
    else standing past

section

variable {past : List Entry} {e : Event}

theorem standing_of_triplePress (htriple : e.kind = .triplePress) :
    standing (.added e :: past) = .fresh := by
  rw [standing, if_pos htriple]

theorem standing_of_doublePress (hdouble : e.kind = .doublePress) :
    standing (.added e :: past) = .double := by
  rw [standing, if_neg (by rw [hdouble]; decide), if_pos hdouble]

theorem standing_of_buttonPress (hpress : e.kind = .buttonPress) :
    standing (.added e :: past) = .single := by
  rw [standing, if_neg (by rw [hpress]; decide), if_neg (by rw [hpress]; decide), if_pos hpress]

/-- Any other event leaves the standing to the entries before it. -/
theorem standing_of_other (hpress : e.kind ≠ .buttonPress) (hclick : e.kind.isClick = false) :
    standing (.added e :: past) = standing past := by
  have hkinds : ¬ (e.kind = .doublePress ∨ e.kind = .triplePress) := by
    rw [← EventKind.isClick_iff, hclick]
    exact Bool.false_ne_true
  rw [not_or] at hkinds
  rw [standing, if_neg hkinds.2, if_neg hkinds.1, if_neg hpress]

end

/-- What may come next after the given entries, the latest of them first: a multiple click only
    behind the press that it is a copy of, and only if the press before that one stood right. -/
def Admissible (past : List Entry) : Entry → Prop
  | .flushed => True
  | .added e => e.kind.isClick = true →
      ∃ p earlier, past = .added p :: earlier ∧ p.kind = .buttonPress ∧
        e.stage = p.stage ∧ e.flags = p.flags ∧ e.payload = p.payload ∧
        standing earlier ≠ .fresh ∧ (e.kind = .triplePress → standing earlier = .double)

/-- Whether each entry was admissible when it came, the latest entry first. -/
def Regular : List Entry → Prop
  | [] => True
  | x :: past => Admissible past x ∧ Regular past

/-- What came first is regular if the whole is. -/
theorem Regular.of_append {later past : List Entry} (hreg : Regular (later ++ past)) :
    Regular past := by
  induction later with
  | nil => exact hreg
  | cons x rest ih => exact ih hreg.2

/-- If a stream was regular all along, then so it was up to any entry, and that entry was admissible
    where it came. -/
theorem Regular.split {t before after : List Entry} {x : Entry} (hreg : Regular t.reverse)
    (ht : t = before ++ x :: after) : Admissible before.reverse x ∧ Regular before.reverse := by
  rw [ht, List.reverse_append, List.reverse_cons, List.append_assoc] at hreg
  exact Regular.of_append hreg

/-- A press may always come. -/
theorem Regular.press {past : List Entry} (hreg : Regular past) {e : Event}
    (hpress : e.kind = .buttonPress) : Regular (.added e :: past) := by
  refine ⟨?_, hreg⟩
  intro hclick
  rw [hpress] at hclick
  exact absurd hclick (by decide)

/-- A double click may come behind a press that is not the first one, and a triple click behind a
    press after a double one. -/
theorem Regular.click {past : List Entry} (hreg : Regular past) {e f : Event}
    (hpress : e.kind = .buttonPress) {m : Multiplicity} (hf : e.withKind? m.kind = some f)
    (hstanding : standing past ≠ .fresh) (hdouble : m = .triple → standing past = .double) :
    Regular (.added f :: .added e :: past) := by
  obtain ⟨hkind, hflags, hstage, hpayload⟩ := Event.withKind?_eq_some_iff.mp hf
  refine ⟨?_, hreg.press hpress⟩
  intro _
  refine ⟨e, past, rfl, hpress, hstage, hflags, hpayload, hstanding, ?_⟩
  intro htriple
  rw [hkind] at htriple
  cases m with
  | double => exact EventKind.noConfusion htriple
  | triple => exact hdouble rfl

/-! ### The rule implies the shape -/

/-- A standing of a double click comes from one, with no press and no flush since. -/
theorem Regular.exists_double {past : List Entry} (hreg : Regular past)
    (hdouble : standing past = .double) :
    ∃ between d q earlier, past = between ++ .added d :: .added q :: earlier ∧
      q.kind = .buttonPress ∧ d.kind = .doublePress ∧
        ∀ x ∈ between, ¬ x.IsPress ∧ x ≠ .flushed := by
  induction past with
  | nil => exact Standing.noConfusion hdouble
  | cons x past ih =>
    cases x with
    | flushed => exact Standing.noConfusion hdouble
    | added e =>
      by_cases hpress : e.kind = .buttonPress
      · rw [standing_of_buttonPress hpress] at hdouble
        exact Standing.noConfusion hdouble
      by_cases hclick : e.kind.isClick = true
      · obtain hkind | htriple := (EventKind.isClick_iff e.kind).mp hclick
        · -- The double click itself: it stands behind its press.
          obtain ⟨q, earlier, rfl, hq, -⟩ := hreg.1 hclick
          exact ⟨[], e, q, earlier, rfl, hq, hkind, by simp⟩
        · rw [standing_of_triplePress htriple] at hdouble
          exact Standing.noConfusion hdouble
      · rw [standing_of_other hpress (Bool.eq_false_iff.mpr hclick)] at hdouble
        obtain ⟨between, d, q, earlier, rfl, hq, hd, hbetween⟩ := ih hreg.2 hdouble
        refine ⟨.added e :: between, d, q, earlier, rfl, hq, hd, ?_⟩
        rw [List.forall_mem_cons]
        exact ⟨⟨hpress, by simp⟩, hbetween⟩

/-- No click stands behind entries without a press, back to one that ends all clicks. -/
theorem Regular.isClick_eq_false {between past : List Entry} {x : Entry} {e : Event}
    (hreg : Regular (.added e :: (between ++ x :: past))) (hends : x.EndsClicks)
    (hbetween : ∀ y ∈ between, ¬ y.IsPress) : e.kind.isClick = false := by
  rw [Bool.eq_false_iff]
  intro hclick
  obtain ⟨p, earlier, hpast, hp, -⟩ := hreg.1 hclick
  -- The click would be a copy of the entry right before it.
  cases between with
  | nil =>
    obtain ⟨rfl, -⟩ := List.cons.inj hpast
    have htriple : p.kind = .triplePress := hends
    exact absurd (hp.symm.trans htriple) (by decide)
  | cons y rest =>
    obtain ⟨rfl, -⟩ := List.cons.inj hpast
    exact hbetween _ List.mem_cons_self hp

/-- Nothing stands before the first press after a triple click or a flush. -/
theorem Regular.standing_eq_fresh {between past : List Entry} {x : Entry}
    (hreg : Regular (between ++ x :: past)) (hends : x.EndsClicks)
    (hbetween : ∀ y ∈ between, ¬ y.IsPress) : standing (between ++ x :: past) = .fresh := by
  induction between with
  | nil =>
    cases x with
    | flushed => rfl
    | added e => exact standing_of_triplePress hends
  | cons y rest ih =>
    rw [List.forall_mem_cons] at hbetween
    cases y with
    | flushed => rfl
    | added e =>
      have hclick : e.kind.isClick = false := Regular.isClick_eq_false hreg hends hbetween.2
      rw [List.cons_append, standing_of_other hbetween.1 hclick]
      exact ih hreg.2 hbetween.2

/-- **The rule implies the shape.** -/
theorem Regular.clickShape {t : List Entry} (hreg : Regular t.reverse) : ClickShape t where
  behind_press := by
    intro before e after ht hclick
    -- The entry before it is the latest of what came before.
    obtain ⟨p, earlier, hbefore, hp, hstage, hflags, hpayload, -⟩ := (hreg.split ht).1 hclick
    refine ⟨earlier.reverse, p, ?_, hp, hstage, hflags, hpayload⟩
    rw [← List.reverse_reverse before, hbefore, List.reverse_cons]
  at_most_one := by
    rintro before p e f after ht hp ⟨he, hf⟩
    have ht' : t = (before ++ [.added p, .added e]) ++ .added f :: after := by
      rw [ht, List.append_assoc]
      rfl
    -- The second click would be a copy of the first one, which is no press.
    obtain ⟨q, earlier, hpast, hq, -⟩ := (hreg.split ht').1 hf
    rw [List.reverse_append] at hpast
    obtain ⟨hqe, -⟩ := List.cons.inj hpast
    rw [Entry.added.inj hqe, hq] at he
    exact absurd he (by decide)
  triple_behind_double := by
    intro before p e after ht hp he
    have ht' : t = (before ++ [.added p]) ++ .added e :: after := by
      rw [ht, List.append_assoc]
      rfl
    obtain ⟨hadmissible, hpast⟩ := hreg.split ht'
    rw [List.reverse_concat] at hadmissible hpast
    obtain ⟨q, earlier, hbefore, -, -, -, -, -, hstanding⟩ :=
      hadmissible ((EventKind.isClick_iff e.kind).mpr (.inr he))
    obtain ⟨-, rfl⟩ := List.cons.inj hbefore
    -- The press `p` came when the standing was that of a double click.
    obtain ⟨between, d, q, earlier, hbefore, hq, hd, hbetween⟩ :=
      hpast.2.exists_double (hstanding he)
    refine ⟨earlier.reverse, q, d, between.reverse, ?_, hq, hd, ?_⟩
    · rw [← List.reverse_reverse before, hbefore, List.reverse_append, List.reverse_cons,
        List.reverse_cons, List.append_assoc, List.append_assoc]
      rfl
    · intro x hx
      exact hbetween x (List.mem_reverse.mp hx)
  first_alone := by
    intro before x between p e after ht hends hbetween hp hclick
    have ht' : t = (before ++ x :: between ++ [.added p]) ++ .added e :: after := by
      rw [ht]
      simp only [List.append_assoc, List.cons_append, List.nil_append]
    obtain ⟨hadmissible, hpast⟩ := hreg.split ht'
    rw [List.reverse_concat, List.reverse_append, List.reverse_cons, List.append_assoc]
      at hadmissible hpast
    obtain ⟨q, earlier, hbefore, -, -, -, -, hstanding, -⟩ := hadmissible hclick
    obtain ⟨-, rfl⟩ := List.cons.inj hbefore
    -- But nothing stood before `p`, since `x` ended all clicks and no press came after it.
    refine hstanding (hpast.2.standing_eq_fresh hends ?_)
    intro y hy
    exact hbetween y (List.mem_reverse.mp hy)

end EventPipeline
