import EventPipeline.Proofs.Android.Clock
import EventPipeline.Proofs.Queue.Input

namespace EventPipeline

/-!
# The account of Android's inputs

Every input of Android is either queued, with at most one click behind it, or counted as dropped.

* `Android.Motion.lowByte` — the part of an action that counts, as a number.
* `Android.Command.isConsumed` — the inputs that have an event, told from their numbers.
* `Session.Accounts` — what some inputs have added to the queue and to the count.

The event for an input exists exactly if the input is consumed (`Android.Command.isSome_event?`).
One input is accounted for (`Session.accounts_perform`), so all inputs of a run are
(`Session.accounts_run`).
-/

namespace Android

/-! ### The inputs that have an event -/

/-- The lowest byte of a number, as it stands for an action. -/
theorem toInt_and_byte (n : Int32) : (n &&& 0xff).toInt = n.toInt % 256 := by
  have hbyte : (n.toBitVec &&& 255#32).toNat = n.toBitVec.toNat % 256 := by
    rw [BitVec.toNat_and]
    exact Nat.and_two_pow_sub_one_eq_mod n.toBitVec.toNat 8
  have hlt : n.toBitVec.toNat % 256 < 256 := Nat.mod_lt _ (by decide)
  show (n.toBitVec &&& 255#32).toInt = n.toBitVec.toInt % 256
  -- The sign adds a multiple of the byte.
  rw [BitVec.toInt_eq_toNat_of_lt (by omega), hbyte, BitVec.toInt_eq_toNat_cond]
  split <;> omega

namespace Motion

/-- The lowest byte of the action. -/
def lowByte (m : Motion) : Int := m.action.toInt % 256

/-- Whether a motion has an event: a touch, the end of one, a move, or a scroll that went
    somewhere. -/
def isConsumed (m : Motion) : Bool :=
  m.lowByte == 0 || m.lowByte == 1 || m.lowByte == 2 ||
    m.lowByte == 8 && !(m.horizontalScroll == 0 && m.verticalScroll == 0)

/-- The action of a motion, told from its lowest byte. -/
theorem ofNumber?_action (m : Motion) :
    MotionAction.ofNumber? m.action =
      if m.lowByte = 0 then some .down
      else if m.lowByte = 1 then some .up
      else if m.lowByte = 2 then some .move
      else if m.lowByte = 8 then some .scroll
      else none := by
  rw [MotionAction.ofNumber?, toInt_and_byte, lowByte]
  split <;> simp_all

/-- Every touch has the action zero, and no other motion does. -/
theorem isDown_iff (m : Motion) : m.isDown = true ↔ m.lowByte = 0 := by
  rw [isDown, ofNumber?_action, beq_iff_eq]
  by_cases h0 : m.lowByte = 0
  · rw [if_pos h0]
    exact iff_of_true rfl h0
  · rw [if_neg h0]
    refine iff_of_false ?_ h0
    split
    · decide
    split
    · decide
    split
    · decide
    · decide

/-- A scroll has a direction exactly if it went anywhere. -/
theorem isSome_directionOf? (horizontal vertical : Float32) :
    (directionOf? horizontal vertical).isSome = !(horizontal == 0 && vertical == 0) := by
  rw [directionOf?]
  cases hnowhere : (horizontal == 0 && vertical == 0) with
  | true => rfl
  | false =>
    rw [if_neg Bool.false_ne_true]
    split <;> rfl

/-- A motion has an event exactly if it is consumed. -/
theorem isSome_toEvent? (m : Motion) (pointer : Option DeviceId) :
    (m.toEvent? pointer).isSome = m.isConsumed := by
  rw [toEvent?, ofNumber?_action, isConsumed]
  by_cases h0 : m.lowByte = 0
  · rw [if_pos h0, h0]; rfl
  by_cases h1 : m.lowByte = 1
  · rw [if_neg h0, if_pos h1, h1]; rfl
  by_cases h2 : m.lowByte = 2
  · rw [if_neg h0, if_neg h1, if_pos h2, h2]; rfl
  by_cases h8 : m.lowByte = 8
  · -- A scroll may still have gone nowhere.
    rw [if_neg h0, if_neg h1, if_neg h2, if_pos h8, h8, ← isSome_directionOf?]
    show ((directionOf? m.horizontalScroll m.verticalScroll).bind _).isSome = _
    cases directionOf? m.horizontalScroll m.verticalScroll <;> rfl
  · rw [if_neg h0, if_neg h1, if_neg h2, if_neg h8, beq_false_of_ne h0, beq_false_of_ne h1,
      beq_false_of_ne h2, beq_false_of_ne h8]
    rfl

end Motion

namespace Key

/-- Whether a key has an event: it went down or up, or was repeated. -/
def isConsumed (k : Key) : Bool :=
  k.action.toInt == 0 || k.action.toInt == 1 || k.action.toInt == 2

/-- A key has an event exactly if it is consumed. -/
theorem isSome_toEvent? (k : Key) : k.toEvent?.isSome = k.isConsumed := by
  rw [toEvent?, isConsumed]
  split <;> simp_all

end Key

namespace Command

/-- The stage that an input is aimed at. -/
def stage : Command → Option StageId
  | motion _ stage | key _ stage => stage

/-- Whether an input has an event. -/
def isConsumed : Command → Bool
  | motion m _ => m.isConsumed
  | key k _ => k.isConsumed

/-- An input has an event exactly if it is consumed. -/
theorem isSome_event? (c : Command) (pointer : DeviceId) :
    (c.event? pointer).isSome = c.isConsumed := by
  cases c with
  | motion m stage =>
    rw [event?, Option.isSome_map]
    exact m.isSome_toEvent? pointer
  | key k stage =>
    rw [event?, Option.isSome_map]
    exact k.isSome_toEvent?

/-- The event for an input is aimed at the stage of the input. -/
theorem stage_of_event? {c : Command} {pointer : DeviceId} {e : Event}
    (he : c.event? pointer = some e) : e.stage = c.stage := by
  cases c with
  | motion m stage => obtain ⟨f, -, rfl⟩ := Option.map_eq_some_iff.mp he; rfl
  | key k stage => obtain ⟨f, -, rfl⟩ := Option.map_eq_some_iff.mp he; rfl

/-- An input is no touch if no motion in it has the action zero. -/
theorem touch?_eq_none {c : Command} (hother : ∀ m stage, c = .motion m stage → m.lowByte ≠ 0) :
    c.touch? = none := by
  cases c with
  | motion m stage =>
    have hdown : ¬ m.isDown = true := fun hdown =>
      hother m stage rfl (m.isDown_iff.mp hdown)
    rw [touch?, if_neg hdown]
  | key k stage => rfl

end Command

/-- An input answers whether it was consumed. -/
theorem Input.queued_perform {δ : Type} (i : Input) (hub : Hub δ) (c : Command) :
    (i.perform hub c).value.1 = c.isConsumed := by
  rw [← c.isSome_event? hub.devices.pointer]
  cases c with
  | motion m stage =>
    rw [perform, acceptMotion, Command.event?]
    cases m.toEvent? hub.devices.pointer <;> rfl
  | key k stage =>
    rw [perform, acceptKey, Command.event?]
    cases k.toEvent? <;> rfl

end Android

namespace Session

variable {δ : Type}

/-! ### One input -/

/-- What some inputs of Android have added to the queue and to the count between two sessions. -/
structure Accounts (inputs : List Android.Command) (s t : Session δ) (added : List Event) :
    Prop where
  /-- The inputs without an event were counted. -/
  dropped_eq : t.android.dropped = s.android.dropped + inputs.countP (!·.isConsumed)
  /-- Nothing was taken out of the queue. -/
  pending_eq : t.pending = s.pending ++ added
  /-- Each of the others added one event that is no click. -/
  length_eq : added.length = inputs.countP (·.isConsumed) + added.countP (·.kind.isClick)

namespace Accounts

theorem refl (s : Session δ) : Accounts [] s s [] where
  dropped_eq := rfl
  pending_eq := (List.append_nil _).symm
  length_eq := rfl

/-- The accounts of inputs one after the other add up. -/
theorem append {first later : List Android.Command} {s t u : Session δ} {added more : List Event}
    (hst : Accounts first s t added) (htu : Accounts later t u more) :
    Accounts (first ++ later) s u (added ++ more) where
  dropped_eq := by
    rw [htu.dropped_eq, hst.dropped_eq, List.countP_append]
    omega
  pending_eq := by rw [htu.pending_eq, hst.pending_eq, List.append_assoc]
  length_eq := by
    have hfirst := hst.length_eq
    have hlater := htu.length_eq
    rw [List.length_append, List.countP_append, List.countP_append]
    omega

end Accounts

theorem isSome_event?_android (s : Session δ) (c : Android.Command) :
    (s.event? (.android c)).isSome = c.isConsumed :=
  c.isSome_event? s.hub.devices.pointer

theorem reply_perform_android (s : Session δ) (c : Android.Command) :
    (s.perform (.android c)).value.1 = .queued c.isConsumed :=
  congrArg Reply.queued (s.android.queued_perform s.hub c)

/-- A consumed input has an event, which is aimed at its stage. -/
theorem exists_event?_of_isConsumed (s : Session δ) {c : Android.Command}
    (hconsumed : c.isConsumed = true) :
    ∃ e, s.event? (.android c) = some e ∧ e.stage = c.stage := by
  rw [← s.isSome_event?_android c] at hconsumed
  obtain ⟨e, he⟩ := Option.isSome_iff_exists.mp hconsumed
  exact ⟨e, he, Android.Command.stage_of_event? he⟩

/-- An input that is not consumed has no event. -/
theorem event?_of_not_isConsumed (s : Session δ) {c : Android.Command}
    (hrejected : c.isConsumed = false) : s.event? (.android c) = none := by
  rw [← s.isSome_event?_android c, Option.isSome_eq_false_iff, Option.isNone_iff_eq_none]
    at hrejected
  exact hrejected

/-- **Step.**  One input is accounted for: it is counted, or it adds one event that is no click. -/
theorem accounts_perform (s : Session δ) (c : Android.Command) :
    Accounts [c] s (s.perform (.android c)).value.2 (s.appended (.android c)) := by
  have hkept : (s.perform (.android c)).value.2.android = s.android.tally (s.event? (.android c)) :=
    s.android.input_perform s.hub c
  cases hconsumed : c.isConsumed with
  | true =>
    obtain ⟨e, he, -⟩ := s.exists_event?_of_isConsumed hconsumed
    have hlength := (adds_of_event?_eq_some rfl he).length_eq
    refine ⟨?_, pending_of_isPlatform rfl, ?_⟩
    · rw [hkept, he, List.countP_singleton, hconsumed]
      rfl
    · rw [hlength, List.countP_singleton, hconsumed, if_pos rfl, Nat.add_comm]
  | false =>
    have hnone := s.event?_of_not_isConsumed hconsumed
    refine ⟨?_, pending_of_isPlatform rfl, ?_⟩
    · rw [hkept, hnone, List.countP_singleton, hconsumed]
      rfl
    · rw [appended_of_event?_eq_none rfl hnone, List.countP_singleton, hconsumed]
      rfl

/-- An input that is no touch leaves the click history as it is. -/
theorem clicks_perform_of_not_touch (s : Session δ) {c : Android.Command}
    (hnone : c.touch? = none) :
    (s.perform (.android c)).value.2.hub.intake.clicks = s.hub.intake.clicks := by
  rw [intake_perform_android]
  exact Intake.clicks_offer_of_kind_ne fun e he => Android.Command.kind_ne_of_not_touch hnone he

/-! ### Runs -/

/-- The answers to inputs of Android are told from the inputs alone. -/
theorem replies_run_android (s : Session δ) (inputs : List Android.Command) :
    (s.run (inputs.map .android)).value.1 = inputs.map fun c => .queued c.isConsumed := by
  induction inputs generalizing s with
  | nil => rfl
  | cons c rest ih =>
    show (s.perform (.android c)).value.1
      :: ((s.perform (.android c)).value.2.run (rest.map .android)).value.1 = _
    rw [reply_perform_android, ih, List.map_cons]

/-- **Run.**  The inputs of a run are accounted for. -/
theorem accounts_run (s : Session δ) (inputs : List Android.Command) :
    Accounts inputs s (s.run (inputs.map .android)).value.2
      (Traced.gather perform appended s (inputs.map .android)) := by
  induction inputs generalizing s with
  | nil => exact .refl s
  | cons c rest ih => exact (s.accounts_perform c).append (ih (s.perform (.android c)).value.2)

/-- How often an answer was given to inputs of Android. -/
theorem count_queued (inputs : List Android.Command) (found : Bool) :
    (inputs.map fun c => Reply.queued c.isConsumed).count (.queued found)
      = inputs.countP (·.isConsumed == found) := by
  rw [List.count, List.countP_map]
  refine List.countP_congr fun c _ => ?_
  simp

/-- **The inputs of Android are accounted for.**  Let nothing have been counted at the start of a
    run of inputs.  Each is answered by whether it is consumed; the count is that of the answers
    which say no, and there are as many new events as answers which say yes, besides the clicks.
    In every state that is reached, a consumed input adds one event, aimed at its stage, and a
    click only behind a press; any other input leaves the intake and the handler as they are.
    Only a touch ever changes the click history. -/
theorem run_accounts_inputs (s : Session δ) (inputs : List Android.Command) :
    let start : Session δ := { s with android := {} }
    let steps : List (Command δ) := inputs.map .android
    let answers := (start.run steps).value.1
    let t := (start.run steps).value.2
    let added := Traced.gather perform appended start steps
    answers = inputs.map (fun c => .queued c.isConsumed) ∧
      t.android.dropped = answers.count (.queued false) ∧
      t.pending = start.pending ++ added ∧
      added.length = answers.count (.queued true) + added.countP (·.kind.isClick) ∧
      ∀ c : Android.Command,
        (t.perform (.android c)).value.1 = .queued c.isConsumed ∧
        (c.isConsumed = true →
          ∃ (e : Event) (click? : Option Event),
            (t.perform (.android c)).value.2.pending = t.pending ++ e :: click?.toList ∧
            e.kind.isClick = false ∧ e.stage = c.stage ∧
            ∀ f, click? = some f → f.IsClickOf e) ∧
        (c.isConsumed = false →
          (t.perform (.android c)).value.2.hub.intake = t.hub.intake ∧
          (t.perform (.android c)).value.2.hub.dispatcher = t.hub.dispatcher) ∧
        ((∀ m stage, c = .motion m stage → m.lowByte ≠ 0) →
          (t.perform (.android c)).value.2.hub.intake.clicks = t.hub.intake.clicks) := by
  intro start steps answers t added
  have hanswers : answers = inputs.map fun c => .queued c.isConsumed :=
    start.replies_run_android inputs
  have haccounts : Accounts inputs start t added := start.accounts_run inputs
  refine ⟨hanswers, ?_, haccounts.pending_eq, ?_, fun c =>
    ⟨t.reply_perform_android c, fun hconsumed => ?_, fun hrejected => ?_, fun hother => ?_⟩⟩
  · have hdropped : t.android.dropped = 0 + inputs.countP (!·.isConsumed) := haccounts.dropped_eq
    rw [hdropped, hanswers, count_queued, Nat.zero_add]
    simp
  · rw [haccounts.length_eq, hanswers, count_queued]
    simp
  · obtain ⟨e, he, hstage⟩ := t.exists_event?_of_isConsumed hconsumed
    obtain ⟨click?, hpending, hclick⟩ := exists_pending_eq_append rfl he
    exact ⟨e, click?, hpending, isClick_of_event? he, hstage, hclick⟩
  · have hnone := t.event?_of_not_isConsumed hrejected
    constructor
    · rw [intake_perform_android, hnone]
      rfl
    · show (t.android.perform t.hub c).value.2.2.dispatcher = t.hub.dispatcher
      rw [Android.Input.hub_perform]
      rfl
  · exact t.clicks_perform_of_not_touch (Android.Command.touch?_eq_none hother)

end Session

end EventPipeline
