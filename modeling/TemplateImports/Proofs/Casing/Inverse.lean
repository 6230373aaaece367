import TemplateImports.Casing
import TemplateImports.Proofs.Text.Ascii

/-!
# Casing back and forth

Names of components are made of word characters.  Their kebab-case spelling puts a dash in front of
every capital but the first character, and the camel-case spelling takes just these dashes away
again.

The induction is on the characters behind the first one: each of them follows a word character, so
that a dash marks exactly the capitals among them.

Main results:

- Theorem `camelizeChars_hyphenateAfter` says that camel case undoes kebab case.
- Theorem `hyphenate_lowerFirst` says that the case of the first character does not matter to kebab
  case; theorem `hyphenate_hyphenate` says that a kebab-case spelling stays as it is.
- Theorems `IsPascalName.pascalize_hyphenate` and `IsCamelName.camelize_hyphenate` recover a name
  from its kebab-case spelling.
-/

namespace TemplateImports.Casing

open Text

/-! ## Word characters -/

theorem toNat_lt_of_isAsciiWord {c : Char} (h : isAsciiWord c = true) : c.toNat < 128 := by
  simp only [isAsciiWord, Bool.or_eq_true, beq_iff_eq] at h
  rcases h with h | rfl
  · exact toNat_lt_of_isAlphanum h
  · decide

theorem lower_of_isAsciiWord {c : Char} (h : isAsciiWord c = true) : lower c = [c.toLower] :=
  lower_of_ascii (toNat_lt_of_isAsciiWord h)

theorem ne_dash_of_isAsciiWord {c : Char} (h : isAsciiWord c = true) : c ≠ '-' := by
  rintro rfl
  exact absurd h (by decide)

/-- The lower case of a word character is a word character, and no capital. -/
theorem toLower_of_isAsciiWord {c : Char} (h : isAsciiWord c = true) :
    isAsciiWord c.toLower = true ∧ c.toLower.isUpper = false := by
  have hall := forall_ascii
    (p := fun c => !isAsciiWord c || (isAsciiWord c.toLower && !c.toLower.isUpper))
    (by decide +kernel) (toNat_lt_of_isAsciiWord h)
  simpa [h] using hall

/-- A capital is recovered from its lower case. -/
theorem upper_toLower_of_isUpper {c : Char} (h : c.isUpper = true) : upper c.toLower = [c] := by
  have hword : isAsciiWord c = true := by simp [isAsciiWord, Char.isAlphanum, Char.isAlpha, h]
  have hall := forall_ascii (p := fun c => !c.isUpper || c.toLower.toUpper == c)
    (by decide +kernel) (toNat_lt_of_isAsciiWord hword)
  have hback : c.toLower.toUpper = c := by simpa [h] using hall
  rw [upper_of_ascii (toNat_lt_of_isAsciiWord (toLower_of_isAsciiWord hword).1), hback]

/-- A capital is its own upper case. -/
theorem upper_of_isUpper {c : Char} (h : c.isUpper = true) : upper c = [c] := by
  have hword : isAsciiWord c = true := by simp [isAsciiWord, Char.isAlphanum, Char.isAlpha, h]
  have hall := forall_ascii (p := fun c => !c.isUpper || c.toUpper == c) (by decide +kernel)
    (toNat_lt_of_isAsciiWord hword)
  have hsame : c.toUpper = c := by simpa [h] using hall
  rw [upper_of_ascii (toNat_lt_of_isAsciiWord hword), hsame]

/-! ## Characters behind the first one -/

theorem hyphenateAfter_cons (afterWord : Bool) (c : Char) (cs : List Char) :
    hyphenateAfter afterWord (c :: cs) =
      (if c.isUpper && afterWord then ['-'] else []) ++ lower c ++
        hyphenateAfter (isAsciiWord c) cs := rfl

theorem camelizeChars_dash (c : Char) (cs : List Char) :
    camelizeChars ('-' :: c :: cs) =
      if isAsciiWord c then upper c ++ camelizeChars cs else '-' :: camelizeChars (c :: cs) := rfl

/-- A character that is no dash stays where it is. -/
theorem camelizeChars_cons {c : Char} (h : c ≠ '-') (cs : List Char) :
    camelizeChars (c :: cs) = c :: camelizeChars cs := by
  rw [camelizeChars]
  rintro d ds rfl
  exact absurd rfl h

/-- Characters without dashes stay where they are, whatever follows them. -/
theorem camelizeChars_append_of_no_dash {cs : List Char} (h : '-' ∉ cs) (rest : List Char) :
    camelizeChars (cs ++ rest) = cs ++ camelizeChars rest := by
  induction cs with
  | nil => rfl
  | cons c cs ih =>
    simp only [List.mem_cons, not_or] at h
    rw [List.cons_append, camelizeChars_cons (Ne.symm h.1), ih h.2, List.cons_append]

/-- A text without dashes is left as it is. -/
theorem camelizeChars_of_no_dash {cs : List Char} (h : '-' ∉ cs) : camelizeChars cs = cs := by
  simpa [show camelizeChars [] = [] from rfl] using camelizeChars_append_of_no_dash h []

/-- Behind a word character, camel case undoes kebab case. -/
theorem camelizeChars_hyphenateAfter {cs : List Char} (h : ∀ c ∈ cs, isAsciiWord c = true) :
    camelizeChars (hyphenateAfter true cs) = cs := by
  induction cs with
  | nil => rfl
  | cons c cs ih =>
    have hc := h c (by simp)
    have hcs := ih fun d hd => h d (List.mem_cons_of_mem _ hd)
    obtain ⟨hword, -⟩ := toLower_of_isAsciiWord hc
    rw [hyphenateAfter_cons, lower_of_isAsciiWord hc, hc]
    by_cases hupper : c.isUpper = true
    · simp [hupper, camelizeChars_dash, hword, hcs, upper_toLower_of_isUpper hupper]
    · have hsame : c.toLower = c := toLower_of_not_isUpper (by simpa using hupper)
      have hdash := ne_dash_of_isAsciiWord hc
      simp only [hupper, Bool.false_and, Bool.false_eq_true, ↓reduceIte, List.nil_append, hsame,
        List.singleton_append]
      rw [camelizeChars_cons hdash, hcs]

/-- A kebab-case text of ASCII characters stays as it is. -/
theorem hyphenateAfter_of_no_upper (afterWord : Bool) {cs : List Char}
    (h : ∀ c ∈ cs, c.toNat < 128 ∧ c.isUpper = false) : hyphenateAfter afterWord cs = cs := by
  induction cs generalizing afterWord with
  | nil => rfl
  | cons c cs ih =>
    obtain ⟨hascii, hupper⟩ := h c (by simp)
    rw [hyphenateAfter_cons, ih _ fun d hd => h d (List.mem_cons_of_mem _ hd), lower_of_ascii hascii,
      toLower_of_not_isUpper hupper]
    simp [hupper]

/-- The kebab-case spelling of an ASCII text has no capitals. -/
theorem mem_hyphenateAfter {afterWord : Bool} {cs : List Char} (h : ∀ c ∈ cs, c.toNat < 128) :
    ∀ c ∈ hyphenateAfter afterWord cs, c.toNat < 128 ∧ c.isUpper = false := by
  induction cs generalizing afterWord with
  | nil => simp [hyphenateAfter]
  | cons d cs ih =>
    have hd := h d (by simp)
    have hall := forall_ascii
      (p := fun d => decide (d.toLower.toNat < 128) && !d.toLower.isUpper) (by decide +kernel) hd
    intro c hc
    rw [hyphenateAfter_cons, lower_of_ascii hd] at hc
    simp only [List.append_assoc, List.mem_append, List.mem_ite_nil_right, List.mem_singleton]
      at hc
    rcases hc with ⟨-, rfl⟩ | rfl | hc
    · decide
    · simpa using hall
    · exact ih (fun e he => h e (List.mem_cons_of_mem _ he)) c hc

/-! ## Names -/

/-- A name that starts with a capital and is made of word characters. -/
def IsPascalName (name : String) : Prop :=
  ∃ c cs, name.toList = c :: cs ∧ c.isUpper = true ∧ ∀ d ∈ cs, isAsciiWord d = true

/-- A name that starts with a small letter and is made of word characters. -/
def IsCamelName (name : String) : Prop :=
  ∃ c cs, name.toList = c :: cs ∧ c.isLower = true ∧ ∀ d ∈ cs, isAsciiWord d = true

/-- The text with its first character in lower case. -/
def lowerFirstChars : List Char → List Char
  | [] => []
  | c :: cs => c.toLower :: cs

/-- The name with its first character in lower case. -/
def lowerFirst (name : String) : String :=
  String.ofList (lowerFirstChars name.toList)

section

variable {name : String} {c : Char} {cs : List Char}

/-- A name without dashes is in camel case already. -/
theorem camelize_of_no_dash (h : '-' ∉ name.toList) : camelize name = name := by
  rw [camelize, camelizeChars_of_no_dash h, String.ofList_toList]

/-- Kebab case does not look at the case of the first character. -/
theorem hyphenate_lowerFirst (hname : name.toList = c :: cs) (hc : isAsciiWord c = true) :
    hyphenate (lowerFirst name) = hyphenate name := by
  obtain ⟨hword, hupper⟩ := toLower_of_isAsciiWord hc
  rw [← String.toList_inj]
  simp [lowerFirst, lowerFirstChars, hname, hyphenateAfter_cons, hc, hword,
    lower_of_isAsciiWord hc, lower_of_isAsciiWord hword, toLower_of_not_isUpper hupper]

/-- Camel case takes the kebab-case spelling back, up to the case of the first character. -/
theorem camelize_hyphenate (hname : name.toList = c :: cs) (hc : isAsciiWord c = true)
    (hcs : ∀ d ∈ cs, isAsciiWord d = true) : camelize (hyphenate name) = lowerFirst name := by
  have hdash := ne_dash_of_isAsciiWord (toLower_of_isAsciiWord hc).1
  have hstart : camelizeChars (c.toLower :: hyphenateAfter true cs) = c.toLower :: cs := by
    rw [camelizeChars_cons hdash, camelizeChars_hyphenateAfter hcs]
  rw [← String.toList_inj]
  simpa [lowerFirst, lowerFirstChars, hname, hyphenateAfter_cons, hc, lower_of_isAsciiWord hc]
    using hstart

/-- The kebab-case spelling of an ASCII name stays as it is. -/
theorem hyphenate_hyphenate (h : ∀ d ∈ name.toList, d.toNat < 128) :
    hyphenate (hyphenate name) = hyphenate name := by
  rw [← String.toList_inj]
  simp only [toList_hyphenate]
  exact hyphenateAfter_of_no_upper false (mem_hyphenateAfter h)

end

theorem mem_isAsciiWord_of_isAlpha {name : String} {c : Char} {cs : List Char}
    (hname : name.toList = c :: cs) (hc : c.isAlpha = true)
    (hcs : ∀ d ∈ cs, isAsciiWord d = true) : ∀ d ∈ name.toList, isAsciiWord d = true := by
  rw [hname]
  intro d hd
  rcases List.mem_cons.1 hd with rfl | hd
  · simp [isAsciiWord, Char.isAlphanum, hc]
  · exact hcs d hd

theorem IsPascalName.mem_isAsciiWord {name : String} (h : IsPascalName name) :
    ∀ d ∈ name.toList, isAsciiWord d = true := by
  obtain ⟨c, cs, hname, hc, hcs⟩ := h
  exact mem_isAsciiWord_of_isAlpha hname (by simp [Char.isAlpha, hc]) hcs

theorem IsCamelName.mem_isAsciiWord {name : String} (h : IsCamelName name) :
    ∀ d ∈ name.toList, isAsciiWord d = true := by
  obtain ⟨c, cs, hname, hc, hcs⟩ := h
  exact mem_isAsciiWord_of_isAlpha hname (by simp [Char.isAlpha, hc]) hcs

theorem no_dash_of_mem_isAsciiWord {cs : List Char} (h : ∀ d ∈ cs, isAsciiWord d = true) :
    '-' ∉ cs :=
  fun hmem => ne_dash_of_isAsciiWord (h _ hmem) rfl

/-- Putting the first character of a Pascal-case name in lower case and back changes nothing. -/
theorem IsPascalName.capitalize_lowerFirst {name : String} (h : IsPascalName name) :
    capitalize (lowerFirst name) = name := by
  obtain ⟨c, cs, hname, hc, -⟩ := h
  rw [← String.toList_inj]
  simp [lowerFirst, lowerFirstChars, hname, capitalizeChars, upper_toLower_of_isUpper hc]

/-- A Pascal-case name stays as it is. -/
theorem IsPascalName.pascalize_eq {name : String} (h : IsPascalName name) :
    pascalize name = name := by
  rw [pascalize, camelize_of_no_dash (no_dash_of_mem_isAsciiWord h.mem_isAsciiWord)]
  obtain ⟨c, cs, hname, hc, -⟩ := h
  rw [← String.toList_inj]
  simp [hname, capitalizeChars, upper_of_isUpper hc]

/-- A Pascal-case name is recovered from its spelling with a small first letter. -/
theorem IsPascalName.pascalize_lowerFirst {name : String} (h : IsPascalName name) :
    pascalize (lowerFirst name) = name := by
  have hdash : '-' ∉ (lowerFirst name).toList := by
    have hwords := h.mem_isAsciiWord
    obtain ⟨c, cs, hname, -, -⟩ := h
    rw [hname] at hwords
    have hlower := (toLower_of_isAsciiWord (hwords c (by simp))).1
    apply no_dash_of_mem_isAsciiWord
    simpa [lowerFirst, lowerFirstChars, hname, hlower] using
      fun d hd => hwords d (List.mem_cons_of_mem _ hd)
  rw [pascalize, camelize_of_no_dash hdash, h.capitalize_lowerFirst]

/-- A Pascal-case name is recovered from its kebab-case spelling. -/
theorem IsPascalName.pascalize_hyphenate {name : String} (h : IsPascalName name) :
    pascalize (hyphenate name) = name := by
  have hwords := h.mem_isAsciiWord
  obtain ⟨c, cs, hname, -, hcs⟩ := id h
  rw [hname] at hwords
  rw [pascalize, camelize_hyphenate hname (hwords c (by simp)) hcs, h.capitalize_lowerFirst]

/-- A camel-case name is recovered from its kebab-case spelling. -/
theorem IsCamelName.camelize_hyphenate {name : String} (h : IsCamelName name) :
    camelize (hyphenate name) = name := by
  have hwords := h.mem_isAsciiWord
  obtain ⟨c, cs, hname, hlower, hcs⟩ := h
  have hupper : c.isUpper = false := by
    have hall := forall_ascii (p := fun c => !c.isLower || !c.isUpper) (by decide +kernel)
      (toNat_lt_of_isAsciiWord (hwords c (by simp [hname])))
    simpa [hlower] using hall
  rw [Casing.camelize_hyphenate hname (hwords c (by simp [hname])) hcs, ← String.toList_inj]
  simp [lowerFirst, lowerFirstChars, hname, toLower_of_not_isUpper hupper]

end TemplateImports.Casing
