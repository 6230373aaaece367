import TemplateImports.Json.Text
import TemplateImports.Proofs.Text.Run

/-!
# Reading written values

The text of a value is read back as the value.  Reading is bounded by a number that limits how far
values are inside and behind each other, and the length of the text is always enough.

A number ends only where its text cannot go on, so a value is read back in front of any text that a
number cannot go on into: in a written value this is a comma or a bracket, or nothing.

Main results:

- Definition `Spelled` says which values have a text of their own.
- Theorem `readNumber?_append` reads a number in front of any text that ends it.
- Theorem `readValue?_printed` reads a value in front of any such text.
- Theorem `parse_print_of_spelled` says that the text of a value stands for the value.
-/

namespace TemplateImports.Json

open Text

/-! ## Values with a text -/

mutual

/-- A value has a text of its own if its numbers are spelled as numbers and nothing in it is
broken. -/
def Spelled : Json → Prop
  | .number text => readNumber? text.toList = some (.number text, [])
  | .array items => AllSpelled items
  | .object members => AllMembersSpelled members
  | .broken => False
  | .null => True
  | .bool _ => True
  | .string _ => True

/-- All items have a text. -/
def AllSpelled : List Json → Prop
  | [] => True
  | item :: items => item.Spelled ∧ AllSpelled items

/-- The values of all members have a text. -/
def AllMembersSpelled : List (String × Json) → Prop
  | [] => True
  | (_, value) :: members => value.Spelled ∧ AllMembersSpelled members

end

/-! ## Numbers -/

/-- A character that a number may go on with. -/
def goesOnNumber (c : Char) : Bool :=
  c.isDigit || c == '.' || isExponentMark c

/-- A text that no number goes on into. -/
abbrev EndsNumber (rest : List Char) : Prop :=
  Stops goesOnNumber rest

section Numbers

variable {cs rest text remaining : List Char}

/-- Where a number ends, no digit follows. -/
theorem EndsNumber.stops_isDigit (h : EndsNumber rest) : Stops Char.isDigit rest := by
  intro c hc
  have := h c hc
  simp_all [goesOnNumber]

/-- Digits are read up to the end of the number. -/
theorem readDigits?_append (hrest : EndsNumber rest) (h : readDigits? cs = some (text, remaining)) :
    readDigits? (cs ++ rest) = some (text, remaining ++ rest) := by
  unfold readDigits? at h ⊢
  rw [takeWhile_append_of_stops hrest.stops_isDigit, dropWhile_append_of_stops hrest.stops_isDigit]
  split at h
  · simp at h
  · simp_all

/-- A whole number is read up to its end. -/
theorem readWhole?_append (hrest : EndsNumber rest) (h : readWhole? cs = some (text, remaining)) :
    readWhole? (cs ++ rest) = some (text, remaining ++ rest) := by
  unfold readWhole? at h ⊢
  cases hdigits : readDigits? cs with
  | none => simp [hdigits] at h
  | some read =>
    obtain ⟨digits, remaining'⟩ := read
    simp only [hdigits, Option.ite_none_left_eq_some, Option.some.injEq, Prod.mk.injEq] at h
    obtain ⟨hzero, rfl, rfl⟩ := h
    rw [readDigits?_append hrest hdigits]
    exact if_neg hzero

/-- A fraction is read up to the end of the number. -/
theorem readFraction?_append (hrest : EndsNumber rest)
    (h : readFraction? cs = some (text, remaining)) :
    readFraction? (cs ++ rest) = some (text, remaining ++ rest) := by
  cases cs with
  | nil =>
    obtain ⟨rfl, rfl⟩ : [] = text ∧ [] = remaining := by simpa [readFraction?] using h
    cases rest with
    | nil => rfl
    | cons c rest =>
      have hc := hrest c rfl
      have hne : c ≠ '.' := by
        rintro rfl
        simp [goesOnNumber] at hc
      simp [readFraction?, hne]
  | cons c cs =>
    by_cases hc : c = '.'
    · subst hc
      simp only [readFraction?, Option.map_eq_some_iff] at h
      obtain ⟨⟨digits, remaining'⟩, hdigits, hread⟩ := h
      simp only [Prod.mk.injEq] at hread
      simp [readFraction?, readDigits?_append hrest hdigits, ← hread.1, ← hread.2]
    · obtain ⟨rfl, rfl⟩ : [] = text ∧ c :: cs = remaining := by simpa [readFraction?, hc] using h
      simp [readFraction?, hc]

/-- A sign is read off the front of a text. -/
theorem readSign_append (hcs : cs ≠ []) :
    readSign (cs ++ rest) = ((readSign cs).1, (readSign cs).2 ++ rest) := by
  obtain ⟨c, cs, rfl⟩ := List.exists_cons_of_ne_nil hcs
  by_cases hplus : c = '+'
  · subst hplus
    rfl
  · by_cases hminus : c = '-'
    · subst hminus
      rfl
    · simp [readSign, hplus, hminus]

/-- An exponent is read up to the end of the number. -/
theorem readExponent?_append (hrest : EndsNumber rest)
    (h : readExponent? cs = some (text, remaining)) :
    readExponent? (cs ++ rest) = some (text, remaining ++ rest) := by
  cases cs with
  | nil =>
    obtain ⟨rfl, rfl⟩ : [] = text ∧ [] = remaining := by simpa [readExponent?] using h
    cases rest with
    | nil => rfl
    | cons c rest =>
      have hc := hrest c rfl
      have hmark : isExponentMark c = false := by
        simp_all [goesOnNumber]
      simp [readExponent?, hmark]
  | cons c cs =>
    by_cases hc : isExponentMark c = true
    · simp only [readExponent?, hc, if_true, Option.map_eq_some_iff] at h
      obtain ⟨⟨digits, remaining'⟩, hdigits, hread⟩ := h
      simp only [Prod.mk.injEq] at hread
      have hcs : cs ≠ [] := by
        rintro rfl
        simp [readSign, readDigits?] at hdigits
      simp [readExponent?, hc, readSign_append hcs, readDigits?_append hrest hdigits, ← hread.1,
        ← hread.2]
    · simp only [readExponent?, hc, Bool.false_eq_true, if_false, Option.some.injEq,
        Prod.mk.injEq] at h
      simp [readExponent?, hc, ← h.1, ← h.2]

/-- A number without its sign is read up to its end. -/
theorem readUnsigned?_append (hrest : EndsNumber rest)
    (h : readUnsigned? cs = some (text, remaining)) :
    readUnsigned? (cs ++ rest) = some (text, remaining ++ rest) := by
  simp only [readUnsigned?, Option.bind_eq_bind, Option.bind_eq_some_iff, Prod.exists,
    Option.pure_def, Option.some.injEq, Prod.mk.injEq] at h ⊢
  obtain ⟨whole, behindWhole, hwhole, fraction, behindFraction, hfraction, exponent,
    behindExponent, hexponent, htext, hremaining⟩ := h
  exact ⟨whole, _, readWhole?_append hrest hwhole, fraction, _,
    readFraction?_append hrest hfraction, exponent, _, readExponent?_append hrest hexponent, htext,
    by rw [hremaining]⟩

theorem readUnsigned?_nil : readUnsigned? [] = none := rfl

/-- A number is read in front of any text that ends it. -/
theorem readNumber?_append {number : Json} (hrest : EndsNumber rest)
    (h : readNumber? cs = some (number, remaining)) :
    readNumber? (cs ++ rest) = some (number, remaining ++ rest) := by
  cases cs with
  | nil => simp [readNumber?, readUnsigned?_nil] at h
  | cons c cs =>
    by_cases hc : c = '-'
    · subst hc
      simp only [readNumber?, Option.map_eq_some_iff, Prod.mk.injEq] at h
      obtain ⟨⟨text, remaining⟩, hread, rfl, rfl⟩ := h
      simp [readNumber?, readUnsigned?_append hrest hread]
    · have h' : (readUnsigned? (c :: cs)).map
          (fun read => (Json.number (String.ofList read.1), read.2)) =
            some (number, remaining) := by
        simpa [readNumber?, hc] using h
      obtain ⟨⟨text, remaining⟩, hread, heq⟩ := Option.map_eq_some_iff.1 h'
      obtain ⟨rfl, rfl⟩ := Prod.mk.inj heq
      have happend := readUnsigned?_append hrest hread
      rw [List.cons_append] at happend
      simp [readNumber?, hc, happend]

/-- A number starts with a digit or its sign. -/
theorem exists_cons_of_readNumber? {number : Json} (h : readNumber? cs = some (number, remaining)) :
    ∃ c cs', cs = c :: cs' ∧ (c = '-' ∨ c.isDigit = true) := by
  cases cs with
  | nil => simp [readNumber?, readUnsigned?_nil] at h
  | cons c cs =>
    refine ⟨c, cs, rfl, ?_⟩
    by_contra hne
    simp only [not_or, Bool.not_eq_true] at hne
    have hdigits : readDigits? (c :: cs) = none := by simp [readDigits?, hne.2]
    simp [readNumber?, hne.1, readUnsigned?, readWhole?, hdigits] at h

end Numbers

/-! ## Values -/

/-- The text of a value starts with a character that is no gap and closes no list. -/
theorem exists_cons_printed {v : Json} (h : v.Spelled) :
    ∃ c cs, printed v = c :: cs ∧ isGap c = false ∧ c ≠ ']' := by
  cases v with
  | null => exact ⟨'n', _, rfl, rfl, by decide⟩
  | bool value => cases value <;> exact ⟨_, _, rfl, rfl, by decide⟩
  | number text =>
    obtain ⟨c, cs, hcs, hc⟩ := exists_cons_of_readNumber? h
    refine ⟨c, cs, hcs, ?_⟩
    rcases hc with rfl | hc
    · exact ⟨rfl, by decide⟩
    · constructor
      · by_contra hgap
        simp only [isGap, Bool.not_eq_false, Bool.or_eq_true, beq_iff_eq] at hgap
        rcases hgap with ((rfl | rfl) | rfl) | rfl <;> exact absurd hc (by decide)
      · rintro rfl
        exact absurd hc (by decide)
  | string text => exact ⟨'"', _, rfl, rfl, by decide⟩
  | array items => exact ⟨'[', _, rfl, rfl, by decide⟩
  | object members => exact ⟨'{', _, rfl, rfl, by decide⟩
  | broken => exact h.elim

/-- Where no gap is, none is skipped. -/
theorem skipGap_cons_of_not {c : Char} (h : isGap c = false) (cs : List Char) :
    skipGap (c :: cs) = c :: cs := by
  simp [skipGap, h]

/-- No gap stands in front of a printed value. -/
theorem skipGap_printed {v : Json} (h : v.Spelled) (rest : List Char) :
    skipGap (printed v ++ rest) = printed v ++ rest := by
  obtain ⟨c, cs, hcs, hgap, -⟩ := exists_cons_printed h
  rw [hcs, List.cons_append, skipGap_cons_of_not hgap]

/-- A word is read back with its value. -/
theorem readWord?_append (word : String) (value : Json) (rest : List Char) :
    readWord? word value (word.toList ++ rest) = some (value, rest) := by
  simp [readWord?, ← String.length_toList]

/-- A quoted text is read back behind its opening quote. -/
theorem readText?_encode (text : String) (rest : List Char) :
    readText? (Quoted.encode text.toList ++ '"' :: rest) = some (.string text, rest) := by
  simp [readText?, Quoted.decode?_encode]

/-- Where a value starts with a digit or a sign, a number is read. -/
theorem readValue?_of_number {c : Char} (h : c = '-' ∨ c.isDigit = true) (n : Nat)
    (cs : List Char) : readValue? (n + 1) (c :: cs) = readNumber? (c :: cs) := by
  have hne (d : Char) (hd : d ≠ '-' ∧ d.isDigit = false) : c ≠ d := by
    rintro rfl
    rcases h with h | h
    · exact hd.1 h
    · simp [hd.2] at h
  have hquote := hne '"' (by decide)
  have hlist := hne '[' (by decide)
  have hobject := hne '{' (by decide)
  have hnull := hne 'n' (by decide)
  have htrue := hne 't' (by decide)
  have hfalse := hne 'f' (by decide)
  -- Each row of the reader but the last one is ruled out by one of these facts.
  simp only [readValue?]

/-- A number ends before a character that cannot go on with it. -/
theorem endsNumber_cons {c : Char} (h : goesOnNumber c = false) (rest : List Char) :
    EndsNumber (c :: rest) :=
  stops_cons h rest

/-- Behind its opening bracket, a list that is not closed at once has items. -/
theorem readValue?_list {c : Char} (hgap : isGap c = false) (hc : c ≠ ']') (n : Nat)
    (cs : List Char) :
    readValue? (n + 1) ('[' :: c :: cs) =
      (readItems? n (c :: cs)).map fun read => (.array read.1, read.2) := by
  simp [readValue?, skipGap_cons_of_not hgap, hc]

/-- Behind its opening brace, an object that is not closed at once has members. -/
theorem readValue?_object (n : Nat) (cs : List Char) :
    readValue? (n + 1) ('{' :: '"' :: cs) = readMembers? n ('"' :: cs) := by
  simp [readValue?, skipGap, isGap]

section Parts

variable {n : Nat} {cs rest : List Char} {item value : Json}

/-- The last item stands before the closing bracket. -/
theorem readItems?_last (h : readValue? n cs = some (item, ']' :: rest)) :
    readItems? (n + 1) cs = some ([item], rest) := by
  simp [readItems?, h, skipGap, isGap]

/-- More items follow behind a comma. -/
theorem readItems?_more (h : readValue? n cs = some (item, ',' :: rest)) :
    readItems? (n + 1) cs =
      (readItems? n (skipGap rest)).map fun read => (item :: read.1, read.2) := by
  simp [readItems?, h, skipGap, isGap]

theorem readMembers?_last (name : String)
    (h : readValue? n (skipGap cs) = some (value, '}' :: rest)) :
    readMembers? (n + 1) (Quoted.quote name ++ ':' :: cs) =
      some (.object [(name, value)], rest) := by
  have hname := readText?_encode name (':' :: cs)
  simp [readMembers?, Quoted.quote, hname, skipGap_cons_of_not (show isGap ':' = false from rfl), h,
    skipGap_cons_of_not (show isGap '}' = false from rfl), addMember]

theorem readMembers?_more (name : String)
    (h : readValue? n (skipGap cs) = some (value, ',' :: rest)) :
    readMembers? (n + 1) (Quoted.quote name ++ ':' :: cs) =
      (readMembers? n (skipGap rest)).map fun read =>
        (addMember (.string name) value read.1, read.2) := by
  have hname := readText?_encode name (':' :: cs)
  simp [readMembers?, Quoted.quote, hname, skipGap_cons_of_not (show isGap ':' = false from rfl), h,
    skipGap_cons_of_not (show isGap ',' = false from rfl)]

end Parts

theorem exists_cons_printedItems {item : Json} {items : List Json}
    (h : AllSpelled (item :: items)) :
    ∃ c cs, printedItems (item :: items) = c :: cs ∧ isGap c = false ∧ c ≠ ']' := by
  obtain ⟨c, cs, hcs, hc⟩ := exists_cons_printed h.1
  cases items with
  | nil => exact ⟨c, cs ++ [']'], by simp [printedItems, hcs], hc⟩
  | cons next items =>
    exact ⟨c, cs ++ ',' :: printedItems (next :: items), by simp [printedItems, hcs], hc⟩

theorem exists_cons_printedMembers (member : String × Json) (members : List (String × Json)) :
    ∃ cs, printedMembers (member :: members) = '"' :: cs := by
  cases members <;> exact ⟨_, rfl⟩

mutual

/-- A written value is read back in front of any text that ends a number. -/
theorem readValue?_printed : ∀ (v : Json), v.Spelled → ∀ n, (printed v).length ≤ n →
    ∀ rest, EndsNumber rest → readValue? n (printed v ++ rest) = some (v, rest)
  | v, h, 0, hn, rest, hrest => by
    obtain ⟨c, cs, hcs, -⟩ := exists_cons_printed h
    simp [hcs] at hn
  | .null, _, n + 1, _, rest, _ => by
    simpa [readValue?, printed] using readWord?_append "null" .null rest
  | .bool true, _, n + 1, _, rest, _ => by
    simpa [readValue?, printed] using readWord?_append "true" (.bool true) rest
  | .bool false, _, n + 1, _, rest, _ => by
    simpa [readValue?, printed] using readWord?_append "false" (.bool false) rest
  | .number text, h, n + 1, _, rest, hrest => by
    have hread : readNumber? (text.toList ++ rest) = some (.number text, rest) :=
      readNumber?_append hrest h
    obtain ⟨c, cs, hcs, hc⟩ := exists_cons_of_readNumber? h
    rw [printed, hcs, List.cons_append, readValue?_of_number hc, ← List.cons_append, ← hcs, hread]
  | .string text, _, n + 1, _, rest, _ => by
    simpa [readValue?, printed, Quoted.quote] using readText?_encode text rest
  | .array [], _, n + 1, _, rest, _ => by
    simp [readValue?, printed, printedItems, skipGap, isGap]
  | .array (item :: items), h, n + 1, hn, rest, _ => by
    have hitems := readItems?_printed item items h n (by simpa [printed] using hn) rest
    obtain ⟨c, cs, hcs, hgap, hc⟩ := exists_cons_printedItems h
    rw [hcs] at hitems
    rw [printed, hcs]
    exact (readValue?_list hgap hc n (cs ++ rest)).trans (by rw [← List.cons_append, hitems]; rfl)
  | .object [], _, n + 1, _, rest, _ => by
    simp [readValue?, printed, printedMembers, skipGap, isGap]
  | .object (member :: members), h, n + 1, hn, rest, _ => by
    have hmembers := readMembers?_printed member members h n (by simpa [printed] using hn) rest
    obtain ⟨cs, hcs⟩ := exists_cons_printedMembers member members
    rw [hcs] at hmembers
    rw [printed, hcs]
    exact (readValue?_object n (cs ++ rest)).trans hmembers
  | .broken, h, _ + 1, _, _, _ => h.elim

/-- Written items are read back with the bracket behind them. -/
theorem readItems?_printed : ∀ (item : Json) (items : List Json), AllSpelled (item :: items) →
    ∀ n, (printedItems (item :: items)).length ≤ n → ∀ rest,
      readItems? n (printedItems (item :: items) ++ rest) = some (item :: items, rest)
  | item, items, h, 0, hn, _ => by
    obtain ⟨c, cs, hcs, -⟩ := exists_cons_printedItems h
    simp [hcs] at hn
  | item, [], h, n + 1, hn, rest => by
    have hlength : (printed item).length ≤ n := by simpa [printedItems] using hn
    have hitem := readValue?_printed item h.1 n hlength (']' :: rest) (endsNumber_cons rfl rest)
    simpa [printedItems] using readItems?_last hitem
  | item, next :: items, h, n + 1, hn, rest => by
    simp only [printedItems, List.length_append, List.length_cons] at hn
    have hitem := readValue?_printed item h.1 n (by omega)
      (',' :: (printedItems (next :: items) ++ rest)) (endsNumber_cons rfl _)
    have hitems := readItems?_printed next items h.2 n (by omega) rest
    obtain ⟨c, cs, hcs, hgap, -⟩ := exists_cons_printedItems h.2
    have hskip : skipGap (printedItems (next :: items) ++ rest) =
        printedItems (next :: items) ++ rest := by
      rw [hcs, List.cons_append, skipGap_cons_of_not hgap]
    have hread := readItems?_more hitem
    rw [hskip, hitems] at hread
    simpa [printedItems] using hread

/-- Written members are read back with the brace behind them. -/
theorem readMembers?_printed : ∀ (member : String × Json) (members : List (String × Json)),
    AllMembersSpelled (member :: members) →
    ∀ n, (printedMembers (member :: members)).length ≤ n → ∀ rest,
      readMembers? n (printedMembers (member :: members) ++ rest) =
        some (.object (member :: members), rest)
  | member, members, _, 0, hn, _ => by
    obtain ⟨cs, hcs⟩ := exists_cons_printedMembers member members
    simp [hcs] at hn
  | (name, value), [], h, n + 1, hn, rest => by
    simp only [printedMembers, List.length_append, List.length_cons] at hn
    have hvalue := readValue?_printed value h.1 n (by omega) ('}' :: rest)
      (endsNumber_cons rfl rest)
    rw [← skipGap_printed h.1] at hvalue
    simpa [printedMembers] using readMembers?_last name hvalue
  | (name, value), next :: members, h, n + 1, hn, rest => by
    simp only [printedMembers, List.length_append, List.length_cons] at hn
    have hvalue := readValue?_printed value h.1 n (by omega)
      (',' :: (printedMembers (next :: members) ++ rest)) (endsNumber_cons rfl _)
    rw [← skipGap_printed h.1] at hvalue
    have hmembers := readMembers?_printed next members h.2 n (by omega) rest
    obtain ⟨cs, hcs⟩ := exists_cons_printedMembers next members
    have hskip : skipGap (printedMembers (next :: members) ++ rest) =
        printedMembers (next :: members) ++ rest := by
      rw [hcs, List.cons_append, skipGap_cons_of_not rfl]
    have hread := readMembers?_more name hvalue
    rw [hskip, hmembers] at hread
    simpa [printedMembers, addMember] using hread

end

/-- The text of a value stands for the value. -/
theorem parse_print_of_spelled {v : Json} (h : v.Spelled) : parse v.print = some v := by
  have hskip : skipGap (printed v) = printed v := by simpa using skipGap_printed h []
  have hread : readValue? (2 * (printed v).length + 2) (printed v) = some (v, []) := by
    simpa using readValue?_printed v h _ (by omega) [] (stops_nil _)
  have hempty : skipGap [] = [] := rfl
  simp [parse, print, hskip, hread, hempty]

end TemplateImports.Json
