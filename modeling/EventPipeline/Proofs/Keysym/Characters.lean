import EventPipeline.Proofs.Android.Account
import EventPipeline.Proofs.Keysym.Scan

namespace EventPipeline

/-!
# Characters of queued keys

What a platform says about a key reaches the queue: the key symbol that it is translated into, and
the character that the platform reported with it.

* `Keystroke` — a key symbol with the reported character.
* `Event.keystroke?`, `Session.Command.keystroke?` — the keystroke of an event about a key, and the
  one that an input of a platform is translated into.
* `Session.reported` — the events that an input of a platform adds to the queue.

The keystrokes of the queued events are those of the inputs, in each step
(`Session.filterMap_keystroke?_reported`) and in each run (`Session.filterMap_keystroke?_run`).
What is left are the translations themselves.  A key that is told from its character gets a symbol
that the character can be read off (`Android.Key.symbol_of_character`,
`DesktopKey.symbol_of_head?`).  A key that is told from its code or its name never gets one that
holds a code point, so Latin-1 and the list say what is read off it
(`Keysym.isValidChar_of_isDirect_eq_false`).
-/

/-! ### The characters of key symbols -/

namespace Keysym

/-- The placeholder stands for no character. -/
theorem toCodePoint_void : toCodePoint void = 0 :=
  (toCodePoint_eq_zero_iff (by decide) (by decide)).mpr fun entry hmem =>
    (apart_of_mem hmem).ne_void

/-- A key symbol that holds no code point stands for a character, or for none. -/
theorem isValidChar_of_isDirect_eq_false {symbol : Keysym} (hdirect : isDirect symbol = false) :
    (toCodePoint symbol).isValidChar := by
  rcases toCodePoint_cases symbol with
    ⟨hlatin, hcode⟩ | ⟨hdirect', -⟩ | hmem | ⟨-, -, hcode⟩
  · have hlt : symbol.toNat < 256 := UInt32.lt_iff_toNat_lt.mp (lt_of_isLatin1 hlatin)
    rw [hcode]
    exact .inl (Nat.lt_trans hlt (by decide))
  · rw [hdirect] at hdirect'
    exact Bool.noConfusion hdirect'
  · exact .inl (UInt32.lt_iff_toNat_lt.mp (apart_of_mem hmem).code_lt)
  · rw [hcode]
    exact .inl (by decide)

/-- A key symbol of three bytes holds no code point. -/
theorem isDirect_eq_false_of_lt {symbol : Keysym} (hlt : symbol < 0x01000000) :
    isDirect symbol = false := by
  have hsmall : symbol.toNat < 16777216 := UInt32.lt_iff_toNat_lt.mp hlt
  rw [Bool.eq_false_iff, ne_eq, isDirect_iff]
  omega

/-- The code point of a character has three bytes at most. -/
theorem lowBytes_of_isValidChar {codePoint : UInt32} (hvalid : codePoint.isValidChar) :
    lowBytes codePoint = codePoint := by
  have hsmall : codePoint.toNat < 16777216 := by
    rcases hvalid with hlow | ⟨-, hhigh⟩
    · omega
    · omega
  exact lowBytes_of_lt (UInt32.lt_iff_toNat_lt.mpr hsmall)

/-- The key symbol that is found for a character stands for it. -/
theorem toCodePoint_ofChar (c : Char) : toCodePoint (ofChar c) = c.val := by
  rw [ofChar, toCodePoint_ofCodePoint, lowBytes_of_isValidChar c.valid]

end Keysym

/-! ### The translations of keys -/

/-- What holds of all values of a list of pairs and of the fallback holds of what is looked up. -/
theorem getD_lookup_of_forall {κ ν : Type} [BEq κ] [LawfulBEq κ] {p : ν → Prop} {l : List (κ × ν)}
    (hall : ∀ entry ∈ l, p entry.2) {fallback : ν} (hfallback : p fallback) (key : κ) :
    p ((l.lookup key).getD fallback) := by
  cases hfound : l.lookup key with
  | none => exact hfallback
  | some value =>
    obtain ⟨before, after, rfl, -⟩ := List.lookup_eq_some_iff.mp hfound
    exact hall (key, value) (List.mem_append_right _ List.mem_cons_self)

/-- Numbers given in a row stay below a bound that the last of them is below. -/
theorem add_sub_lt_of_row {base code first last bound : UInt32} (hfirst : first ≤ code)
    (hlast : code ≤ last) (hrow : base.toNat + (last.toNat - first.toNat) < bound.toNat) :
    base + (code - first) < bound := by
  rw [UInt32.lt_iff_toNat_lt, UInt32.toNat_add, UInt32.toNat_sub_of_le _ _ hfirst]
  rw [UInt32.le_iff_toNat_le] at hfirst hlast
  exact Nat.lt_of_le_of_lt (Nat.mod_le _ _) (by omega)

namespace Android

/-- The key symbol of a key code has three bytes at most. -/
theorem symbolOfCode_lt (code : UInt32) : symbolOfCode code < 0x01000000 := by
  unfold symbolOfCode
  split_ifs with hdigit hletter hfunction
  · rw [Bool.and_eq_true, decide_eq_true_eq, decide_eq_true_eq] at hdigit
    exact add_sub_lt_of_row hdigit.1 hdigit.2 (by decide)
  · rw [Bool.and_eq_true, decide_eq_true_eq, decide_eq_true_eq] at hletter
    exact add_sub_lt_of_row hletter.1 hletter.2 (by decide)
  · rw [Bool.and_eq_true, decide_eq_true_eq, decide_eq_true_eq] at hfunction
    exact add_sub_lt_of_row hfunction.1 hfunction.2 (by decide)
  · exact getD_lookup_of_forall (p := (· < 0x01000000)) (by decide) (by decide) code.toNat

namespace Key

variable {k : Key}

/-- A key with a code that has a symbol gets this, whatever its character is. -/
theorem symbol_of_code (hcode : symbolOfCode k.code ≠ .void) : k.symbol = symbolOfCode k.code := by
  simp [symbol, hcode]

/-- So the symbol stays if the platform reports another character. -/
theorem symbol_with_character (hcode : symbolOfCode k.code ≠ .void) (character : UInt32) :
    { k with character }.symbol = k.symbol := by
  have hother : { k with character }.symbol = symbolOfCode k.code := symbol_of_code hcode
  rw [hother, symbol_of_code hcode]

/-- A key without such a code gets the symbol of its character. -/
theorem symbol_of_character (hcode : symbolOfCode k.code = .void) (hcharacter : k.character ≠ 0) :
    k.symbol = .ofCodePoint k.character := by
  simp [symbol, hcode, hcharacter]

/-- A key without either gets the placeholder. -/
theorem symbol_of_neither (hcode : symbolOfCode k.code = .void) (hcharacter : k.character = 0) :
    k.symbol = .void := by
  simp [symbol, hcode, hcharacter]

/-- The symbol of a key stands for a character, or for none, if the platform reported one or
    none. -/
theorem isValidChar_symbol (k : Key) (hvalid : k.character.isValidChar) :
    k.symbol.toCodePoint.isValidChar := by
  by_cases hcode : symbolOfCode k.code = .void
  · by_cases hcharacter : k.character = 0
    · rw [symbol_of_neither hcode hcharacter, Keysym.toCodePoint_void]
      exact .inl (by decide)
    · rw [symbol_of_character hcode hcharacter, Keysym.toCodePoint_ofCodePoint,
        Keysym.lowBytes_of_isValidChar hvalid]
      exact hvalid
  · rw [symbol_of_code hcode]
    have hdirect := Keysym.isDirect_eq_false_of_lt (symbolOfCode_lt k.code)
    exact Keysym.isValidChar_of_isDirect_eq_false hdirect

end Key

end Android

namespace DesktopKey

/-- A key that types a text gets the symbol of the first character. -/
theorem symbol_of_head? {text : String} {c : Char} (hhead : text.toList.head? = some c) :
    (character text).symbol = Keysym.ofChar c := by
  simp [symbol, hhead]

/-- The symbol of every key stands for a character, or for none. -/
theorem isValidChar_symbol (key : DesktopKey) : key.symbol.toCodePoint.isValidChar := by
  have hvoid : Keysym.void.toCodePoint.isValidChar := by
    rw [Keysym.toCodePoint_void]
    exact .inl (by decide)
  cases key with
  | named name =>
    have hlt : (named name).symbol < 0x01000000 :=
      getD_lookup_of_forall (p := (· < 0x01000000)) (by decide +kernel) (by decide) name
    exact Keysym.isValidChar_of_isDirect_eq_false (Keysym.isDirect_eq_false_of_lt hlt)
  | character text =>
    cases hhead : text.toList.head? with
    | none =>
      have hsymbol : (character text).symbol = .void := by simp [symbol, hhead]
      rw [hsymbol]
      exact hvoid
    | some c =>
      rw [symbol_of_head? hhead, Keysym.toCodePoint_ofChar]
      exact c.valid
  | dead accent => exact hvoid
  | unidentified number => exact hvoid

end DesktopKey

/-! ### Keystrokes -/

/-- What is told of a key. -/
structure Keystroke where
  /-- The symbol of the key. -/
  symbol : Keysym
  /-- The code point of the character that the platform reported, `0` for none. -/
  character : UInt32
deriving DecidableEq, Repr

namespace Event

/-- What an event tells of a key. -/
def keystroke? (e : Event) : Option Keystroke :=
  e.key?.map fun data => ⟨data.symbol, data.character⟩

theorem keystroke?_of_key? {e : Event} {data : KeyData} (hkey : e.key? = some data) :
    e.keystroke? = some ⟨data.symbol, data.character⟩ := by
  simp [keystroke?, hkey]

/-- All that is read of the key is told. -/
theorem reads_of_keystroke? {e : Event} {k : Keystroke} (hk : e.keystroke? = some k) :
    e.keySymbol = k.symbol ∧ e.keyCharacter = k.symbol.toCodePoint ∧
      e.textCharacter = k.character := by
  obtain ⟨data, hdata, rfl⟩ := Option.map_eq_some_iff.mp hk
  simp [keySymbol, keyCharacter, textCharacter, hdata]

/-- Only events of the family of keys tell of a key. -/
theorem keystroke?_eq_none {e : Event} (hfamily : e.kind.family ≠ .key) : e.keystroke? = none := by
  rw [← e.family_eq] at hfamily
  rw [keystroke?, key?]
  split
  · rename_i data hpayload
    rw [hpayload] at hfamily
    exact absurd rfl hfamily
  · rfl

/-- Events with the same payload tell the same. -/
theorem keystroke?_eq_of_payload_eq {e f : Event} (hpayload : f.payload = e.payload) :
    f.keystroke? = e.keystroke? := by
  rw [keystroke?, keystroke?, key?, key?, hpayload]

/-- The reported characters of events about keys are those of the keystrokes. -/
theorem map_textCharacter_filter (es : List Event) :
    (es.filter fun e => e.key?.isSome).map (·.textCharacter)
      = (es.filterMap keystroke?).map (·.character) := by
  induction es with
  | nil => rfl
  | cons e rest ih =>
    cases hkey : e.key? with
    | none =>
      have hstroke : e.keystroke? = none := by simp [keystroke?, hkey]
      rw [List.filter_cons_of_neg (by simp [hkey]), ih, List.filterMap_cons_none hstroke]
    | some data =>
      have hstroke := keystroke?_of_key? hkey
      rw [List.filter_cons_of_pos (by simp [hkey]), List.map_cons, ih,
        List.filterMap_cons_some hstroke, List.map_cons, (reads_of_keystroke? hstroke).2.2]

end Event

/-- What an input of Android tells of a key, if the input has an event. -/
def Android.Command.keystroke? : Command → Option Keystroke
  | .motion .. => none
  | .key k _ => if k.isConsumed then some ⟨k.symbol, k.character⟩ else none

/-- What a report of a desktop tells of a key.  Of the typed text it is the first character. -/
def Desktop.Command.keystroke? : Command → Option Keystroke
  | .key _ k text _ =>
    some ⟨k.symbol, ((text.bind fun t => t.toList.head?).map (·.val)).getD 0⟩
  | .restart _ | .modifiers _ | .cursor .. | .mouse .. | .wheel .. => none

/-- What an input of a platform tells of a key, if the input has an event. -/
def Session.Command.keystroke? {δ : Type} : Command δ → Option Keystroke
  | .hub _ => none
  | .android c => c.keystroke?
  | .desktop c => c.keystroke?

/-- The event for a key of Android tells the symbol and the character of the key. -/
theorem Android.Key.keystroke?_of_toEvent? {k : Key} {e : Event} (he : k.toEvent? = some e) :
    e.keystroke? = some ⟨k.symbol, k.character⟩ := by
  unfold toEvent? at he
  split at he
  · obtain rfl := Option.some.inj he
    rfl
  · obtain rfl := Option.some.inj he
    rfl
  · obtain rfl := Option.some.inj he
    rfl
  · exact absurd he (by simp)

/-- The event for an input of Android tells what the input tells. -/
theorem Android.Command.keystroke?_event? (c : Command) (pointer : DeviceId) :
    (c.event? pointer).bind Event.keystroke? = c.keystroke? := by
  cases c with
  | motion m stage =>
    show ((m.toEvent? pointer).map (·.aimedAt stage)).bind Event.keystroke? = none
    cases he : m.toEvent? pointer with
    | none => rfl
    | some e =>
      obtain ⟨action, -, hkind⟩ := Motion.kind_of_toEvent? he
      apply Event.keystroke?_eq_none
      show e.kind.family ≠ .key
      rw [hkind]
      cases action <;> decide
  | key k stage =>
    show (k.toEvent?.map (·.aimedAt stage)).bind Event.keystroke?
      = if k.isConsumed then some ⟨k.symbol, k.character⟩ else none
    rw [← k.isSome_toEvent?]
    cases he : k.toEvent? with
    | none => rfl
    | some e =>
      show e.keystroke? = some ⟨k.symbol, k.character⟩
      exact Key.keystroke?_of_toEvent? he

/-- The event that a report of a desktop makes complete tells what the report tells. -/
theorem Desktop.Input.keystroke?_event? (i : Input) (pointer : DeviceId) (c : Command) :
    (i.event? pointer c).bind Event.keystroke? = c.keystroke? := by
  cases c with
  | restart stage => rfl
  | modifiers k => rfl
  | cursor x y time => rfl
  | mouse pressed button time => cases pressed <;> rfl
  | wheel delta time =>
    show ((delta.direction?.map fun direction => i.scrollEvent direction time).map
      (·.aimedAt i.stage)).bind Event.keystroke? = none
    cases delta.direction? <;> rfl
  | key pressed key text time => cases pressed <;> rfl

namespace Session

variable {δ : Type}

/-- The event for an input of a platform tells what the input tells. -/
theorem keystroke?_event? (s : Session δ) (c : Command δ) :
    (s.event? c).bind Event.keystroke? = c.keystroke? := by
  cases c with
  | hub c => rfl
  | android c => exact c.keystroke?_event? s.hub.devices.pointer
  | desktop c => exact s.desktop.keystroke?_event? s.hub.devices.pointer c

/-- The key symbol that an input tells stands for a character, or for none, if the platform
    reported one or none. -/
theorem Command.isValidChar_of_keystroke? {c : Command δ} {k : Keystroke}
    (hk : c.keystroke? = some k) (hvalid : k.character.isValidChar) :
    k.symbol.toCodePoint.isValidChar := by
  cases c with
  | hub c => exact absurd hk.symm (Option.some_ne_none k)
  | android c =>
    cases c with
    | motion m stage => exact absurd hk.symm (Option.some_ne_none k)
    | key key stage =>
      obtain ⟨-, hstroke⟩ := Option.ite_none_right_eq_some.mp hk
      obtain rfl := Option.some.inj hstroke
      exact key.isValidChar_symbol hvalid
  | desktop c =>
    cases c with
    | key pressed key text time =>
      obtain rfl := Option.some.inj hk
      exact key.isValidChar_symbol
    | restart | modifiers | cursor | mouse | wheel =>
      exact absurd hk.symm (Option.some_ne_none k)

/-! ### What is queued of the keystrokes -/

/-- The events that a step adds to the queue for an input of a platform. -/
def reported (s : Session δ) (c : Command δ) : List Event :=
  if c.isPlatform then s.appended c else []

/-- Only an input of a platform tells of a key. -/
theorem Command.isPlatform_of_keystroke? {c : Command δ} {k : Keystroke}
    (hk : c.keystroke? = some k) : c.isPlatform = true := by
  cases c with
  | hub c => exact absurd hk.symm (Option.some_ne_none k)
  | android c => rfl
  | desktop c => rfl

/-- An event that tells of a key joins the queue alone. -/
theorem exists_appended_of_keystroke? (s : Session δ) {c : Command δ} {k : Keystroke}
    (hk : c.keystroke? = some k) : ∃ e, s.appended c = [e] ∧ e.keystroke? = some k := by
  have hplatform := Command.isPlatform_of_keystroke? hk
  rw [← s.keystroke?_event?, Option.bind_eq_some_iff] at hk
  obtain ⟨e, he, hstroke⟩ := hk
  -- A press of a button, which may have a click behind it, tells nothing of a key.
  have hkind : e.kind ≠ .buttonPress := by
    intro hpress
    rw [Event.keystroke?_eq_none (by rw [hpress]; decide)] at hstroke
    exact absurd hstroke.symm (Option.some_ne_none k)
  refine ⟨e, ?_, hstroke⟩
  rw [appended_of_isPlatform hplatform, he, Intake.offered, if_neg hkind]
  rfl

/-- A key of a desktop that types a text is queued with the symbol of the first character. -/
theorem exists_appended_character (s : Session δ) (pressed : Bool) {text : String} {c : Char}
    (hhead : text.toList.head? = some c) (typed : Option String) (time : Timestamp) :
    ∃ e, s.appended (.desktop (.key pressed (.character text) typed time)) = [e] ∧
      e.keySymbol = .ofChar c ∧ e.keyCharacter = (Keysym.ofChar c).toCodePoint := by
  obtain ⟨e, hadded, hstroke⟩ := s.exists_appended_of_keystroke?
    (c := .desktop (.key pressed (.character text) typed time)) rfl
  obtain ⟨hsymbol, hcharacter, -⟩ := Event.reads_of_keystroke? hstroke
  rw [DesktopKey.symbol_of_head? hhead] at hsymbol hcharacter
  exact ⟨e, hadded, hsymbol, hcharacter⟩

/-- A key of Android that has an event is queued with its symbol. -/
theorem exists_appended_key (s : Session δ) {k : Android.Key} (stage : Option StageId)
    (hconsumed : k.isConsumed = true) :
    ∃ e, s.appended (.android (.key k stage)) = [e] ∧ e.keySymbol = k.symbol ∧
      e.keyCharacter = k.symbol.toCodePoint := by
  have hk : (Command.android (δ := δ) (.key k stage)).keystroke? = some ⟨k.symbol, k.character⟩ :=
    if_pos hconsumed
  obtain ⟨e, hadded, hstroke⟩ := s.exists_appended_of_keystroke? hk
  obtain ⟨hsymbol, hcharacter, -⟩ := Event.reads_of_keystroke? hstroke
  exact ⟨e, hadded, hsymbol, hcharacter⟩

/-- **Step.**  The queued events tell of keys what the input tells. -/
theorem filterMap_keystroke?_reported (s : Session δ) (c : Command δ) :
    (s.reported c).filterMap Event.keystroke? = c.keystroke?.toList := by
  unfold reported
  cases hk : c.keystroke? with
  | some k =>
    obtain ⟨e, hadded, hstroke⟩ := s.exists_appended_of_keystroke? hk
    rw [if_pos (Command.isPlatform_of_keystroke? hk), hadded, List.filterMap_cons_some hstroke]
    rfl
  | none =>
    rw [Option.toList_none, List.filterMap_eq_nil_iff]
    intro f hf
    split_ifs at hf with hplatform
    · -- What is queued carries what the event for the input carries.
      obtain ⟨e, he, hpayload⟩ := exists_event?_of_mem_appended hplatform hf
      rw [← s.keystroke?_event?, he] at hk
      rw [Event.keystroke?_eq_of_payload_eq hpayload]
      exact hk
    · exact absurd hf List.not_mem_nil

/-- **Run.**  The queued events tell of keys what the inputs tell, in the same order. -/
theorem filterMap_keystroke?_run (s : Session δ) (steps : List (Command δ)) :
    (Traced.gather perform reported s steps).filterMap Event.keystroke?
      = steps.filterMap Command.keystroke? := by
  induction steps generalizing s with
  | nil => rfl
  | cons c rest ih =>
    show (s.reported c ++ Traced.gather perform reported (s.perform c).value.2 rest).filterMap
      Event.keystroke? = _
    rw [List.filterMap_append, filterMap_keystroke?_reported, ih]
    cases hk : c.keystroke? with
    | none => rw [List.filterMap_cons_none hk, Option.toList_none, List.nil_append]
    | some k => rw [List.filterMap_cons_some hk, Option.toList_some, List.singleton_append]

/-- What is read off the symbol of a queued key is a character, or none, if the platform reported
    one or none. -/
theorem isValidChar_of_mem_reported {s : Session δ} {steps : List (Command δ)} {e : Event}
    (hqueued : e ∈ Traced.gather perform reported s steps) (hkey : e.key?.isSome = true)
    (hvalid : e.textCharacter.isValidChar) : e.keyCharacter.isValidChar := by
  obtain ⟨data, hdata⟩ := Option.isSome_iff_exists.mp hkey
  have hstroke := Event.keystroke?_of_key? hdata
  obtain ⟨-, hcharacter, htext⟩ := Event.reads_of_keystroke? hstroke
  -- What the event tells of the key is what one of the inputs tells.
  have hmem := List.mem_filterMap.mpr ⟨e, hqueued, hstroke⟩
  rw [filterMap_keystroke?_run] at hmem
  obtain ⟨c, -, hk⟩ := List.mem_filterMap.mp hmem
  rw [htext] at hvalid
  rw [hcharacter]
  exact Command.isValidChar_of_keystroke? hk hvalid

/-! ### Characters from the platforms to the queue -/

/-- **Characters survive the translation of keys.**  On a desktop, a key that types a text is queued
    with a symbol that the first character of the text can be read off, and never with the
    placeholder.

    The same holds on Android, by the three lower bytes, of the character of a key whose code has no
    symbol.  Without a character such a key is queued with the placeholder, which stands for no
    character.  Of a key whose code has a symbol, the character has no say in what symbol is queued
    and what is read off it.

    In every run the events that the inputs of the platforms queue about keys carry the characters
    that the platforms reported, in their order, with zero for none.  Wherever such a character is
    one of Unicode or zero, what is read off the symbol is one of Unicode or zero, too. -/
theorem keys_carry_characters (s : Session δ) :
    (∀ pressed text typed time c, text.toList.head? = some c →
      ∃ e, s.appended (.desktop (.key pressed (.character text) typed time)) = [e] ∧
        e.keyCharacter = c.val ∧ e.keySymbol ≠ .void) ∧
      (∀ (k : Android.Key) (stage : Option StageId), k.isConsumed = true →
        ∃ e, s.appended (.android (.key k stage)) = [e] ∧
          (Android.symbolOfCode k.code = .void → k.character ≠ 0 →
            e.keyCharacter = k.character &&& 0x00ffffff ∧ e.keySymbol ≠ .void) ∧
          (Android.symbolOfCode k.code = .void → k.character = 0 →
            e.keySymbol = .void ∧ e.keyCharacter = 0) ∧
          (Android.symbolOfCode k.code ≠ .void → ∀ character : UInt32,
            ∃ e', s.appended (.android (.key { k with character } stage)) = [e'] ∧
              e'.keySymbol = e.keySymbol ∧ e'.keyCharacter = e.keyCharacter)) ∧
      ∀ steps : List (Command δ),
        let keys := (Traced.gather perform reported s steps).filter fun e => e.key?.isSome
        keys.map (·.textCharacter) = (steps.filterMap Command.keystroke?).map (·.character) ∧
          ∀ e ∈ keys, e.textCharacter.isValidChar → e.keyCharacter.isValidChar := by
  refine ⟨fun pressed text typed time c hhead => ?_, fun k stage hconsumed => ?_, fun steps => ?_⟩
  · obtain ⟨e, hadded, hsymbol, hcharacter⟩ :=
      s.exists_appended_character pressed hhead typed time
    refine ⟨e, hadded, hcharacter.trans (Keysym.toCodePoint_ofChar c), ?_⟩
    rw [hsymbol]
    exact Keysym.ofCodePoint_ne_void c.val
  · obtain ⟨e, hadded, hsymbol, hcharacter⟩ := s.exists_appended_key stage hconsumed
    refine ⟨e, hadded, fun hcode hsome => ?_, fun hcode hnone => ?_, fun hcode character => ?_⟩
    · rw [hsymbol, hcharacter, Android.Key.symbol_of_character hcode hsome]
      exact ⟨Keysym.toCodePoint_ofCodePoint k.character, Keysym.ofCodePoint_ne_void k.character⟩
    · rw [hsymbol, hcharacter, Android.Key.symbol_of_neither hcode hnone]
      exact ⟨rfl, Keysym.toCodePoint_void⟩
    · obtain ⟨e', hadded', hsymbol', hcharacter'⟩ :=
        s.exists_appended_key (k := { k with character }) stage hconsumed
      rw [Android.Key.symbol_with_character hcode] at hsymbol' hcharacter'
      exact ⟨e', hadded', hsymbol'.trans hsymbol.symm, hcharacter'.trans hcharacter.symm⟩
  · constructor
    · rw [Event.map_textCharacter_filter, filterMap_keystroke?_run]
    · intro e he hvalid
      obtain ⟨hqueued, hkey⟩ := List.mem_filter.mp he
      exact isValidChar_of_mem_reported hqueued hkey hvalid

/-- A Polish word of a desktop, and on Android an emoji of a key without a symbol, the same key
    without a character, and the letter A with two characters. -/
theorem keys_carry_word_and_emoji :
    let s : Session Unit := withSettings {}
    let unknown : Android.Key := { code := 188 }
    let emoji : Android.Key := { unknown with character := 0x1f600 }
    let letter : Android.Key := { code := 29, character := 0x41 }
    ("żółw".toList.head? = some 'ż' ∧
        ∃ e, s.appended (.desktop (.key true (.character "żółw") none 0)) = [e] ∧
          e.keyCharacter = 0x17c ∧ e.keySymbol ≠ .void) ∧
      (∃ e, s.appended (.android (.key emoji none)) = [e] ∧
        e.keyCharacter = 0x1f600 ∧ e.keySymbol ≠ .void) ∧
      (∃ e, s.appended (.android (.key unknown none)) = [e] ∧
        e.keySymbol = .void ∧ e.keyCharacter = 0) ∧
      (∃ e e', s.appended (.android (.key letter none)) = [e] ∧
        s.appended (.android (.key { letter with character := 0x104 } none)) = [e'] ∧
          e'.keySymbol = e.keySymbol ∧ e'.keyCharacter = e.keyCharacter) ∧
      ∀ e ∈ (Traced.gather perform reported s [.android (.key emoji none)]).filter
          fun e => e.key?.isSome,
        e.textCharacter = 0x1f600 ∧ e.keyCharacter.isValidChar := by
  intro s unknown emoji letter
  obtain ⟨hdesktop, handroid, hrun⟩ := keys_carry_characters s
  have hword : "żółw".toList.head? = some 'ż' := by decide
  refine ⟨⟨hword, hdesktop true "żółw" none 0 'ż' hword⟩, ?_, ?_, ?_, ?_⟩
  · obtain ⟨e, hadded, hcharacter, -⟩ := handroid emoji none (by decide)
    obtain ⟨hread, hnotVoid⟩ := hcharacter (by decide) (by decide)
    exact ⟨e, hadded, hread.trans (by decide), hnotVoid⟩
  · obtain ⟨e, hadded, -, hneither, -⟩ := handroid unknown none (by decide)
    exact ⟨e, hadded, hneither (by decide) (by decide)⟩
  · obtain ⟨e, hadded, -, -, hmapped⟩ := handroid letter none (by decide)
    obtain ⟨e', hadded', hsame⟩ := hmapped (by decide) 0x104
    exact ⟨e, e', hadded, hadded', hsame⟩
  · obtain ⟨htexts, hvalid⟩ := hrun [.android (.key emoji none)]
    intro e he
    have htext : e.textCharacter = 0x1f600 := by
      have hmem := List.mem_map_of_mem (f := (·.textCharacter)) he
      rw [htexts] at hmem
      exact List.mem_singleton.mp hmem
    exact ⟨htext, hvalid e he (by rw [htext]; decide)⟩

end Session

end EventPipeline
