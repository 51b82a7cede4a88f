import EventPipeline.Proofs.Toml.Decimal
import EventPipeline.Toml.Document

namespace EventPipeline

namespace Toml

/-!
# Lines that set a key to a whole number

The simplest documents give one whole number to each of some keys, a line for each.

* `IsBareKey` — the keys that need no quotes.
* `numberLine`, `numberDocument` — such a line, and the document of several lines.
* `documentChars` — the characters of that document, line by line as it is read.
* `AllFit` — the lines whose numbers all fit in 64 bits.

One line is read up to its end (`line_numberLine`), so all lines are read one after the other
(`lines_documentChars`).  The table of the document has the keys with their numbers
(`parse?_numberDocument`), unless a number does not fit.
-/

/-- A key that needs no quotes. -/
structure IsBareKey (key : String) : Prop where
  /-- There is a character. -/
  ne_nil : key.toList ≠ []
  /-- Each character may stand in a key without quotes. -/
  isBare : ∀ c ∈ key.toList, isBare c = true

/-- The line that sets a key to a number. -/
def numberLine (entry : String × Int) : String := s!"{entry.1} = {entry.2}"

/-- The document with a line for each of some keys.  The last line may go without a line break. -/
def numberDocument (entries : List (String × Int)) (ended : Bool) : String :=
  "\n".intercalate (entries.map numberLine) ++ if ended then "\n" else ""

/-- All numbers fit. -/
def AllFit (entries : List (String × Int)) : Prop := ∀ entry ∈ entries, Fits entry.2

instance (entries : List (String × Int)) : Decidable (AllFit entries) :=
  inferInstanceAs (Decidable (∀ entry ∈ entries, Fits entry.2))

theorem allFit_nil : AllFit [] := List.forall_mem_nil _

theorem allFit_cons {entry : String × Int} {rest : List (String × Int)} :
    AllFit (entry :: rest) ↔ Fits entry.2 ∧ AllFit rest := List.forall_mem_cons

/-- The statement of a line that sets a key to a number. -/
def numberStatement (entry : String × Int) : Statement :=
  .keyValue ⟨[], entry.1⟩ (.integer entry.2)

/-! ### The characters of a document -/

theorem toList_numberLine (entry : String × Int) :
    (numberLine entry).toList = entry.1.toList ++ ' ' :: '=' :: ' ' :: decimal entry.2 := by
  rw [← toList_toString]
  show (entry.1 ++ " = " ++ toString entry.2).toList = _
  rw [String.toList_append, String.toList_append, List.append_assoc]
  rfl

/-- What ends the last line of a document, if anything does. -/
def lastBreak (ended : Bool) : List Char := if ended then ['\n'] else []

/-- The characters of a document, from line to line. -/
def documentChars (ended : Bool) : List (String × Int) → List Char
  | [] => lastBreak ended
  | [entry] => (numberLine entry).toList ++ lastBreak ended
  | entry :: next :: rest =>
    (numberLine entry).toList ++ '\n' :: documentChars ended (next :: rest)

theorem toList_numberDocument (entries : List (String × Int)) (ended : Bool) :
    (numberDocument entries ended).toList = documentChars ended entries := by
  have hbreak : (if ended then "\n" else "").toList = lastBreak ended := by
    cases ended <;> rfl
  rw [numberDocument, String.toList_append, hbreak, String.toList_intercalate]
  induction entries with
  | nil => rfl
  | cons entry rest ih =>
    cases rest with
    | nil => simp [documentChars]
    | cons next more =>
      rw [documentChars, ← ih]
      simp [List.intercalate_cons_cons]

/-! ### Characters of a kind, up to the first of another -/

section

variable {kind : Char → Bool} {cs rest : List Char}

/-- The characters of the kind are taken up to the first of another kind. -/
theorem takeWhile_append_of_stop (hall : ∀ c ∈ cs, kind c = true)
    (hstop : ∀ c, rest.head? = some c → kind c = false) : (cs ++ rest).takeWhile kind = cs := by
  rw [List.takeWhile_append_of_pos hall]
  cases rest with
  | nil => rw [List.takeWhile_nil, List.append_nil]
  | cons c more =>
    rw [List.takeWhile_cons_of_neg (Bool.eq_false_iff.mp (hstop c rfl)), List.append_nil]

theorem dropWhile_append_of_stop (hall : ∀ c ∈ cs, kind c = true)
    (hstop : ∀ c, rest.head? = some c → kind c = false) : (cs ++ rest).dropWhile kind = rest := by
  rw [List.dropWhile_append_of_pos hall]
  cases rest with
  | nil => rfl
  | cons c more => exact List.dropWhile_cons_of_neg (Bool.eq_false_iff.mp (hstop c rfl))

/-- A text with characters of a kind at its front starts with one of these. -/
theorem kind_of_append_eq_cons (hne : cs ≠ []) (hall : ∀ c ∈ cs, kind c = true) {c : Char}
    {more : List Char} (hcons : cs ++ rest = c :: more) : kind c = true := by
  obtain ⟨d, ds, rfl⟩ := List.exists_cons_of_ne_nil hne
  obtain rfl := (List.cons.inj hcons).1
  exact hall d List.mem_cons_self

/-- Nothing is skipped before a character that is no blank. -/
theorem skipBlanks_of_head (hhead : ∀ c, cs.head? = some c → isBlank c = false) :
    skipBlanks cs = cs := by
  show ([] ++ cs).dropWhile isBlank = cs
  exact dropWhile_append_of_stop (fun _ hc => absurd hc List.not_mem_nil) hhead

/-- Nothing is skipped before characters of a kind to which no blank belongs. -/
theorem skipBlanks_append_of_kind (hne : cs ≠ []) (hall : ∀ c ∈ cs, kind c = true)
    (hspace : kind ' ' = false) (htab : kind '\t' = false) :
    skipBlanks (cs ++ rest) = cs ++ rest := by
  apply skipBlanks_of_head
  intro c hc
  obtain ⟨more, hcons⟩ := List.head?_eq_some_iff.mp hc
  have hkind : kind c = true := kind_of_append_eq_cons hne hall hcons
  rw [isBlank, Bool.or_eq_false_iff, decide_eq_false_iff_not, decide_eq_false_iff_not]
  exact ⟨ne_of_kind hkind hspace, ne_of_kind hkind htab⟩

end

/-! ### The parts of a line -/

/-- A text whose first line, as far as it is left, is empty. -/
def AtLineEnd (cs : List Char) : Prop := ∀ c, cs.head? = some c → c = '\n'

section

variable {key : String} {n : Int} {rest : List Char}

theorem skipBlanks_of_atLineEnd (hrest : AtLineEnd rest) : skipBlanks rest = rest := by
  apply skipBlanks_of_head
  intro c hc
  rw [hrest c hc]
  rfl

/-- The end of a line takes its line break, if it has one. -/
theorem lineEnd_of_atLineEnd (hrest : AtLineEnd rest) : lineEnd rest = some ((), rest.tail) := by
  rw [lineEnd, skipBlanks_of_atLineEnd hrest]
  cases rest with
  | nil => rfl
  | cons c more =>
    obtain rfl : c = '\n' := hrest c rfl
    rfl

/-- A key starts with a character of a key. -/
theorem IsBareKey.isBare_of_eq_cons (hkey : IsBareKey key) {c : Char} {cs : List Char}
    (hcons : key.toList ++ rest = c :: cs) : Toml.isBare c = true :=
  kind_of_append_eq_cons hkey.ne_nil hkey.isBare hcons

theorem IsBareKey.skipBlanks_append (hkey : IsBareKey key) :
    skipBlanks (key.toList ++ rest) = key.toList ++ rest :=
  skipBlanks_append_of_kind hkey.ne_nil hkey.isBare (by decide) (by decide)

/-- A line does not end before a key. -/
theorem IsBareKey.lineEnd_append (hkey : IsBareKey key) : lineEnd (key.toList ++ rest) = none := by
  -- No character of a key starts a comment or a line break.
  have hcomment : skipComment (key.toList ++ rest) = key.toList ++ rest := by
    unfold skipComment
    split
    · exact absurd (hkey.isBare_of_eq_cons ‹_›) (by decide)
    · rfl
  have hbreak : lineBreak (key.toList ++ rest) = none := by
    unfold lineBreak
    split
    · exact absurd (hkey.isBare_of_eq_cons ‹_›) (by decide)
    · exact absurd (hkey.isBare_of_eq_cons ‹_›) (by decide)
    · rfl
  rw [lineEnd, hkey.skipBlanks_append, hcomment]
  split
  · exact absurd (List.append_eq_nil_iff.mp ‹_›).1 hkey.ne_nil
  · exact hbreak

/-- A key without quotes is taken up to the blank behind it. -/
theorem IsBareKey.keyPath_append (hkey : IsBareKey key) (limit : Nat) :
    keyPath (limit + 1) (key.toList ++ ' ' :: '=' :: rest) = some (⟨[], key⟩, '=' :: rest) := by
  have hstop : ∀ c, (' ' :: '=' :: rest).head? = some c → Toml.isBare c = false := by
    rintro c ⟨⟩
    rfl
  have hkeyed : simpleKey (key.toList ++ ' ' :: '=' :: rest) = some (key, ' ' :: '=' :: rest) := by
    rw [simpleKey, takeWhile_append_of_stop hkey.isBare hstop,
      dropWhile_append_of_stop hkey.isBare hstop]
    split
    · exact absurd ‹_› hkey.ne_nil
    · rw [String.ofList_toList]
  rw [keyPath, hkey.skipBlanks_append, hkeyed]
  rfl

/-- The characters of a number stand in a value without quotes. -/
theorem isToken_of_mem_decimal {c : Char} (hc : c ∈ decimal n) : isToken c = true := by
  rcases eq_or_isDigit_of_mem_decimal hc with rfl | hdigit
  · rfl
  · simp [isToken, Char.isAlphanum, hdigit]

/-- A number starts with a character of a value without quotes. -/
theorem isToken_of_eq_cons {c : Char} {cs : List Char} (hcons : decimal n ++ rest = c :: cs) :
    isToken c = true :=
  kind_of_append_eq_cons (decimal_ne_nil n) (fun _ => isToken_of_mem_decimal) hcons

/-- What starts with a number is neither a text nor a collection of values. -/
theorem value_decimal_append (depth : Nat) :
    value depth (decimal n ++ rest) = bareValue (decimal n ++ rest) := by
  -- Quotes and brackets do not stand in a value without quotes.
  have hscalar : scalar (decimal n ++ rest) = bareValue (decimal n ++ rest) := by
    unfold scalar
    split
    · exact absurd (isToken_of_eq_cons ‹_›) (by decide)
    · exact absurd (isToken_of_eq_cons ‹_›) (by decide)
    · rfl
  rw [← hscalar]
  cases depth with
  | zero => rw [value]
  | succ depth =>
    unfold value
    split
    · exact absurd (isToken_of_eq_cons ‹_›) (by decide)
    · exact absurd (isToken_of_eq_cons ‹_›) (by decide)
    · rfl

/-- A number is taken up to the end of its line. -/
theorem value_decimal (hrest : AtLineEnd rest) (depth : Nat) :
    value depth (decimal n ++ rest) = if Fits n then some (.integer n, rest) else none := by
  have hstop : ∀ c, rest.head? = some c → isToken c = false := by
    intro c hc
    rw [hrest c hc]
    rfl
  have hbare : bareValue (decimal n ++ rest) = (ofToken (decimal n)).map (·, rest) := by
    simp only [bareValue, takeWhile_append_of_stop (fun _ => isToken_of_mem_decimal) hstop,
      dropWhile_append_of_stop (fun _ => isToken_of_mem_decimal) hstop]
    -- A time would be read on only behind a blank.
    split
    · exact absurd (hrest _ rfl) (by decide)
    · rfl
  rw [value_decimal_append, hbare, ofToken_decimal]
  by_cases hfits : Fits n
  · rw [if_pos hfits, if_pos hfits, Option.map_some]
  · rw [if_neg hfits, if_neg hfits, Option.map_none]

/-- A key with its number is taken up to the end of its line. -/
theorem IsBareKey.keyValue_append (hkey : IsBareKey key) (hrest : AtLineEnd rest) :
    keyValue (value depthLimit) (key.toList ++ ' ' :: '=' :: ' ' :: (decimal n ++ rest)) =
      if Fits n then some ((⟨[], key⟩, .integer n), rest) else none := by
  have hpath : keyPath depthLimit (key.toList ++ ' ' :: '=' :: ' ' :: (decimal n ++ rest)) =
      some (⟨[], key⟩, '=' :: ' ' :: (decimal n ++ rest)) := hkey.keyPath_append 78
  have hblank : skipBlanks (' ' :: (decimal n ++ rest)) = decimal n ++ rest := by
    show skipBlanks (decimal n ++ rest) = decimal n ++ rest
    exact skipBlanks_append_of_kind (decimal_ne_nil n) (fun _ => isToken_of_mem_decimal)
      (by decide) (by decide)
  rw [keyValue, hpath]
  show ((value depthLimit (skipBlanks (' ' :: (decimal n ++ rest)))).bind fun read =>
    some ((Path.mk [] key, read.1), read.2)) = _
  rw [hblank, value_decimal hrest]
  by_cases hfits : Fits n
  · rw [if_pos hfits, if_pos hfits, Option.bind_some]
  · rw [if_neg hfits, if_neg hfits, Option.bind_none]

end

/-! ### One line -/

section

variable {entry : String × Int} {rest : List Char}

/-- **One line.**  A line that sets a key to a number says so, if the number fits, and is refused
    otherwise.  Its end is taken with it. -/
theorem line_numberLine (hkey : IsBareKey entry.1) (hrest : AtLineEnd rest) :
    line ((numberLine entry).toList ++ rest) =
      if Fits entry.2 then some (some (numberStatement entry), rest.tail) else none := by
  obtain ⟨key, n⟩ := entry
  have hkey : IsBareKey key := hkey
  have hchars : (numberLine (key, n)).toList ++ rest =
      key.toList ++ ' ' :: '=' :: ' ' :: (decimal n ++ rest) := by
    rw [toList_numberLine, List.append_assoc]
    rfl
  have hstatement : statement (key.toList ++ ' ' :: '=' :: ' ' :: (decimal n ++ rest)) =
      if Fits n then some (some (numberStatement (key, n)), rest) else none := by
    unfold statement
    split
    · exact absurd (hkey.isBare_of_eq_cons ‹_›) (by decide)
    · exact absurd (hkey.isBare_of_eq_cons ‹_›) (by decide)
    · rw [hkey.lineEnd_append]
      show ((keyValue (value depthLimit)
        (key.toList ++ ' ' :: '=' :: ' ' :: (decimal n ++ rest))).bind fun read =>
          some (some (Statement.keyValue read.1.1 read.1.2), read.2)) = _
      rw [hkey.keyValue_append hrest]
      by_cases hfits : Fits n
      · rw [if_pos hfits, if_pos hfits, Option.bind_some]
        rfl
      · rw [if_neg hfits, if_neg hfits, Option.bind_none]
  rw [hchars, line, hkey.skipBlanks_append, hstatement]
  by_cases hfits : Fits n
  · rw [if_pos hfits, if_pos hfits]
    show ((lineEnd rest).bind fun ended => some (some (numberStatement (key, n)), ended.2)) = _
    rw [lineEnd_of_atLineEnd hrest, Option.bind_some]
  · rw [if_neg hfits, if_neg hfits]
    rfl

end

/-! ### All lines -/

section

variable {entry : String × Int} {entries : List (String × Int)} {rest : List Char} {limit : Nat}
  {ended : Bool}

/-- After a line that sets a key to a number, the other lines are read. -/
theorem lines_numberLine_append (hkey : IsBareKey entry.1) (hrest : AtLineEnd rest)
    (hothers : lines limit rest.tail =
      if AllFit entries then some (entries.map numberStatement) else none) :
    lines (limit + 1) ((numberLine entry).toList ++ rest) =
      if AllFit (entry :: entries) then some ((entry :: entries).map numberStatement)
      else none := by
  obtain ⟨c, cs, hcons⟩ : ∃ c cs, (numberLine entry).toList ++ rest = c :: cs := by
    apply List.exists_cons_of_ne_nil
    rw [toList_numberLine]
    simp
  rw [hcons, lines.eq_3 _ _ (List.cons_ne_nil c cs), ← hcons, line_numberLine hkey hrest]
  by_cases hfits : Fits entry.2
  · rw [if_pos hfits]
    show ((lines limit rest.tail).bind fun others => some (numberStatement entry :: others)) = _
    rw [hothers]
    by_cases hall : AllFit entries
    · rw [if_pos hall, if_pos (allFit_cons.mpr ⟨hfits, hall⟩)]
      rfl
    · rw [if_neg hall, if_neg fun hmore => hall (allFit_cons.mp hmore).2]
      rfl
  · rw [if_neg hfits, if_neg fun hmore => hfits (allFit_cons.mp hmore).1]
    rfl

/-- **All lines.**  The statements of a document are those of its lines, unless a number does not
    fit. -/
theorem lines_documentChars (hkeys : ∀ entry ∈ entries, IsBareKey entry.1)
    (hlimit : (documentChars ended entries).length ≤ limit) :
    lines limit (documentChars ended entries) =
      if AllFit entries then some (entries.map numberStatement) else none := by
  -- Each line takes a character, so there is always one line more to read.
  fun_induction documentChars ended entries generalizing limit with
  | case1 =>
    rw [if_pos allFit_nil]
    cases ended with
    | false => exact lines.eq_1 limit
    | true =>
      cases limit with
      | zero => exact absurd hlimit (by decide)
      | succ limit =>
        have hblank : line ['\n'] = some (none, []) := rfl
        show lines (limit + 1) ['\n'] = some []
        rw [lines.eq_3 _ _ (List.cons_ne_nil _ _), hblank]
        show (lines limit []).bind (fun others => some others) = _
        rw [lines.eq_1]
        rfl
  | case2 entry =>
    have hend : AtLineEnd (lastBreak ended) := by
      cases ended
      · rintro c ⟨⟩
      · rintro c ⟨⟩
        rfl
    have hlast : (lastBreak ended).tail = [] := by
      cases ended <;> rfl
    rw [toList_numberLine, List.append_assoc, List.length_append, List.cons_append,
      List.length_cons] at hlimit
    obtain ⟨limit, rfl⟩ := Nat.exists_eq_add_one_of_ne_zero (show limit ≠ 0 by omega)
    apply lines_numberLine_append (hkeys entry List.mem_cons_self) hend
    rw [hlast, if_pos allFit_nil]
    exact lines.eq_1 limit
  | case3 entry next rest ih =>
    obtain ⟨hkey, hothers⟩ := List.forall_mem_cons.mp hkeys
    rw [List.length_append, List.length_cons] at hlimit
    obtain ⟨limit, rfl⟩ := Nat.exists_eq_add_one_of_ne_zero (show limit ≠ 0 by omega)
    have hend : AtLineEnd ('\n' :: documentChars ended (next :: rest)) := by
      rintro c ⟨⟩
      rfl
    exact lines_numberLine_append hkey hend (ih hothers (by omega))

/-- The statements of a document are those of its lines, unless a number does not fit. -/
theorem statements_documentChars (hkeys : ∀ entry ∈ entries, IsBareKey entry.1) :
    statements (documentChars ended entries) =
      if AllFit entries then some (entries.map numberStatement) else none := by
  have hmark : ∀ cs, documentChars ended entries ≠ '\ufeff' :: cs := by
    intro cs hcs
    fun_cases documentChars ended entries with
    | case1 => cases ended <;> cases hcs
    | case2 entry =>
      rw [documentChars, toList_numberLine, List.append_assoc] at hcs
      exact absurd ((hkeys entry List.mem_cons_self).isBare_of_eq_cons hcs) (by decide)
    | case3 entry next rest =>
      rw [documentChars, toList_numberLine, List.append_assoc] at hcs
      exact absurd ((hkeys entry List.mem_cons_self).isBare_of_eq_cons hcs) (by decide)
  unfold statements
  split
  · exact absurd ‹_› (hmark _)
  · exact lines_documentChars hkeys le_rfl

end

/-! ### The table of a document -/

/-- A key with its number, as it stands in the table of a document. -/
def numberEntry (entry : String × Int) : String × Item := (entry.1, .integer entry.2)

section

variable {entries : List (String × Int)}

/-- The lines add their keys to the table, one after the other. -/
theorem foldlM_numberStatement {p : Progress} (hcurrent : p.current = [])
    (hnodup : (entries.map Prod.fst).Nodup)
    (hnew : ∀ entry ∈ entries, p.root.lookup entry.1 = none) :
    (entries.map numberStatement).foldlM Statement.apply p =
      some { p with root := p.root ++ entries.map numberEntry } := by
  induction entries generalizing p with
  | nil =>
    rw [List.map_nil, List.map_nil, List.append_nil]
    rfl
  | cons entry rest ih =>
    rw [List.map_cons, List.nodup_cons] at hnodup
    obtain ⟨hentry, hrest⟩ := List.forall_mem_cons.mp hnew
    have hstep : Statement.apply p (numberStatement entry) =
        some { p with root := p.root ++ [numberEntry entry] } := by
      show ((Entries.modifyAt p.current (Entries.insertAt [] entry.1 (.integer entry.2))
        p.root).bind fun root => some { p with root }) = _
      rw [hcurrent, Entries.modifyAt, Entries.insertAt, Entries.insertNew, hentry]
      rfl
    -- The keys that are still to come are not the one just added.
    have hstill : ∀ other ∈ rest, (p.root ++ [numberEntry entry]).lookup other.1 = none := by
      intro other hother
      have hne : other.1 ≠ entry.1 := fun heq =>
        hnodup.1 (heq ▸ List.mem_map_of_mem hother)
      rw [List.lookup_append, hrest other hother, Option.none_or, List.lookup_eq_none_iff]
      intro found hfound
      rw [List.mem_singleton.mp hfound]
      exact bne_iff_ne.mpr hne
    rw [List.map_cons, List.foldlM_cons, hstep]
    show (rest.map numberStatement).foldlM Statement.apply _ = _
    rw [ih (p := { p with root := p.root ++ [numberEntry entry] }) hcurrent hnodup.2 hstill]
    simp

/-- **The table of a document.**  It has the keys of the lines with their numbers.  The document
    is refused if a number does not fit. -/
theorem parse?_numberDocument (hkeys : ∀ entry ∈ entries, IsBareKey entry.1)
    (hnodup : (entries.map Prod.fst).Nodup) (ended : Bool) :
    parse? (numberDocument entries ended) =
      if AllFit entries then some (entries.map numberEntry) else none := by
  rw [parse?, toList_numberDocument, statements_documentChars hkeys]
  by_cases hfits : AllFit entries
  · rw [if_pos hfits, if_pos hfits]
    show ((entries.map numberStatement).foldlM Statement.apply {}).bind
      (fun progress => some progress.root) = _
    rw [foldlM_numberStatement rfl hnodup fun _ _ => rfl]
    rfl
  · rw [if_neg hfits, if_neg hfits]
    rfl

end

end Toml

end EventPipeline
