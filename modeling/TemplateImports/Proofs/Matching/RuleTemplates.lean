import TemplateImports.Matching.Rule
import TemplateImports.Proofs.Pattern.Backtracking
import TemplateImports.Proofs.Text.Occurrence
import TemplateImports.Proofs.Text.Run

/-!
# Templates of rules

A template cut at its placeholders is literal texts and placeholders in turn, where no literal text
holds a placeholder; other braces may stand anywhere.  Filling the template puts values in the place
of the placeholders and copies everything else.  A value is put in as it is, whatever braces it
holds.

Main results:

- Structure `CutTemplate` is a template cut at its placeholders; theorem `exists_cutTemplate` says
  that each text is one.
- Theorems `read?_text_append` and `text_of_read?` say where a placeholder is read.
- Theorem `expand_text` says that filling replaces the placeholders and nothing else.
- Theorem `Rule.answer_of_cutTemplates` says what a rule answers for a name that its pattern
  matches.
-/

namespace TemplateImports

open Text

/-! ## Placeholders as they are written -/

namespace Placeholder

/-- What stands between the braces of a placeholder. -/
def name : Placeholder → List Char
  | .raw => "raw".toList
  | .kebab => "kebab".toList
  | .camel => "camel".toList
  | .path => "path".toList
  | .group index => [index.digitChar]

/-- A placeholder in its braces. -/
def text (p : Placeholder) : List Char :=
  '\x7b' :: (p.name ++ ['\x7d'])

/-- Whether a placeholder can be written: a group is named by one digit. -/
def IsWritten : Placeholder → Prop
  | .group index => index < 10
  | _ => True

section

variable {p : Placeholder} {cs : List Char} {length : Nat}

/-- The names are short and hold no braces. -/
theorem IsWritten.name_plain (h : p.IsWritten) :
    p.name.length < 6 ∧ '\x7b' ∉ p.name ∧ '\x7d' ∉ p.name := by
  cases p with
  | group index =>
    have hindex : index < 10 := h
    interval_cases index <;> decide
  | _ => decide

/-- A digit is the name of its group. -/
theorem digitChar_toNat_sub {c : Char} (h : c.isDigit = true) :
    c.toNat - 48 < 10 ∧ (c.toNat - 48).digitChar = c := by
  obtain ⟨hlow, hhigh⟩ := Char.isDigit_iff_toNat.1 h
  have hlow' : 48 ≤ c.toNat := hlow
  have hhigh' : c.toNat ≤ 57 := hhigh
  have hlt : c.toNat - 48 < 10 := by omega
  refine ⟨hlt, Char.toNat_inj.1 ?_⟩
  rw [Nat.toNat_digitChar_of_lt_ten hlt]
  omega

/-- A name is read as the placeholder that has it. -/
theorem ofName?_name (h : p.IsWritten) : ofName? p.name = some p := by
  cases p with
  | group index =>
    have hindex : index < 10 := h
    interval_cases index <;> decide
  | _ => decide

theorem name_of_ofName? (h : ofName? cs = some p) : p.IsWritten ∧ cs = p.name := by
  unfold ofName? at h
  split at h
  · rename_i c
    split at h
    · rename_i hdigit
      obtain ⟨hlt, hname⟩ := digitChar_toNat_sub hdigit
      obtain rfl := Option.some.inj h
      exact ⟨hlt, by rw [name, hname]⟩
    · simp at h
  · obtain ⟨before, after, hnamed, -⟩ := List.lookup_eq_some_iff.1 h
    have hmem : (String.ofList cs, p) ∈ named := by simp [hnamed]
    have hname : ∀ entry ∈ named, entry.2.IsWritten ∧ entry.1.toList = entry.2.name := by
      simp [named, IsWritten, name]
    simpa using hname _ hmem

/-- A placeholder is read where it is written. -/
theorem read?_text_append (h : p.IsWritten) (rest : List Char) :
    read? (p.text ++ rest) = some (p, p.text.length) := by
  obtain ⟨hlength, -, hclose⟩ := h.name_plain
  have htake : ((p.name ++ '\x7d' :: rest).take 6).takeWhile (· != '\x7d') = p.name := by
    rw [List.take_append, List.take_of_length_le hlength.le,
      show 6 - p.name.length = (5 - p.name.length) + 1 by omega, List.take_succ_cons]
    refine takeWhile_append_stop ?_ (by simp [Stops])
    intro c hc
    simpa using ne_of_mem_of_not_mem hc hclose
  have htext : p.text ++ rest = '\x7b' :: (p.name ++ '\x7d' :: rest) := by simp [text]
  rw [htext, read?]
  simp only [htake, List.drop_left]
  simp [ofName?_name h, text]

/-- What is read as a placeholder is written there. -/
theorem text_of_read? (h : read? cs = some (p, length)) :
    p.IsWritten ∧ length = p.text.length ∧ p.text <+: cs := by
  unfold read? at h
  split at h
  · rename_i cs
    dsimp only at h
    split at h
    · rename_i hclose
      simp only [Option.map_eq_some_iff, Prod.mk.injEq] at h
      obtain ⟨p, hname, rfl, rfl⟩ := h
      obtain ⟨hwritten, heq⟩ := name_of_ofName? hname
      have hbegins : p.name <+: cs := by
        rw [← heq]
        exact (List.takeWhile_prefix _).trans (List.take_prefix _ _)
      obtain ⟨rest, rfl⟩ := hbegins
      rw [heq, List.drop_left, beq_iff_eq, List.head?_eq_some_iff] at hclose
      obtain ⟨rest, rfl⟩ := hclose
      exact ⟨hwritten, by simp [heq, text], rest, by simp [text]⟩
    · simp at h
  · simp at h

end

/-- What a placeholder stands for where a pattern matches a name: a spelling of the used name, its
path, or the text of a group of the match, which is empty if the group took no part. -/
def valueIn (u : NameUse) (name : String) (ends : Array (Option Nat)) : Placeholder → List Char
  | .raw => u.name.toList
  | .kebab => u.kebab.toList
  | .camel => u.camel.toList
  | .path => u.path.toList
  | .group index => ((Pattern.groupText? name ends index).getD "").toList

end Placeholder

/-! ## Templates cut at their placeholders -/

/-- A template cut at its placeholders: the literal text in front of the first one, and each
placeholder with the literal text behind it. -/
structure CutTemplate where
  opening : List Char
  parts : List (Placeholder × List Char)

/-- Whether a literal text holds no placeholder. -/
def IsLiteral (cs : List Char) : Prop :=
  ∀ p : Placeholder, p.IsWritten → ¬ p.text <:+: cs

namespace CutTemplate

/-- A template with a value in the place of each placeholder. -/
def fill (value : Placeholder → List Char) (t : CutTemplate) : List Char :=
  t.opening ++ t.parts.flatMap fun part => value part.1 ++ part.2

/-- A template as it is written. -/
def text (t : CutTemplate) : List Char :=
  t.fill Placeholder.text

/-- The placeholders of a template can be written, and its literal texts hold none. -/
structure WellFormed (t : CutTemplate) : Prop where
  written : ∀ part ∈ t.parts, part.1.IsWritten
  opening_isLiteral : IsLiteral t.opening
  isLiteral : ∀ part ∈ t.parts, IsLiteral part.2

end CutTemplate

section

variable {p : Placeholder} {cs rest : List Char}

theorem isLiteral_nil : IsLiteral [] := by
  intro p _ h
  simp [Placeholder.text] at h

/-- A text without one of the braces holds no placeholder. -/
theorem isLiteral_of_not_mem (h : '\x7b' ∉ cs ∨ '\x7d' ∉ cs) : IsLiteral cs := by
  intro p _ hinfix
  have hopen : '\x7b' ∈ cs := hinfix.mem (by simp [Placeholder.text])
  have hclose : '\x7d' ∈ cs := hinfix.mem (by simp [Placeholder.text])
  exact h.elim (· hopen) (· hclose)

/-- A literal text stays one behind a character that starts no placeholder. -/
theorem isLiteral_cons {c : Char} (h : IsLiteral cs)
    (hc : ∀ p : Placeholder, p.IsWritten → ¬ p.text <+: c :: cs) : IsLiteral (c :: cs) := by
  intro p hp hinfix
  rcases List.infix_cons_iff.1 hinfix with hbegins | hinside
  · exact hc p hp hbegins
  · exact h p hp hinside

/-- No placeholder starts in a literal text in front of the end or of a brace. -/
theorem IsLiteral.read?_eq_none {c : Char} (h : IsLiteral (c :: cs))
    (hrest : Stops (· != '\x7b') rest) : Placeholder.read? (c :: cs ++ rest) = none := by
  rw [Option.eq_none_iff_forall_ne_some]
  rintro ⟨p, length⟩ hread
  obtain ⟨hwritten, -, hbegins⟩ := Placeholder.text_of_read? hread
  refine h p hwritten (List.IsPrefix.isInfix ?_)
  cases rest with
  | nil => simpa using hbegins
  | cons d rest =>
    -- The rest starts with the brace that no placeholder holds behind its first character.
    obtain rfl : d = '\x7b' := by simpa [Stops] using hrest
    rw [Placeholder.text, List.cons_append, List.cons_prefix_cons] at hbegins
    rw [Placeholder.text, List.cons_prefix_cons]
    refine ⟨hbegins.1, prefix_of_prefix_append_cons ?_ cs rest hbegins.2⟩
    simp [hwritten.name_plain.2.1]

/-- Every text is a template cut at its placeholders. -/
theorem exists_cutTemplate (cs : List Char) : ∃ t : CutTemplate, t.WellFormed ∧ t.text = cs := by
  induction hn : cs.length using Nat.strong_induction_on generalizing cs with
  | _ n ih =>
    subst hn
    cases hread : Placeholder.read? cs with
    | some found =>
      obtain ⟨p, length⟩ := found
      obtain ⟨hwritten, -, rest, rfl⟩ := Placeholder.text_of_read? hread
      obtain ⟨t, ht, rfl⟩ := ih rest.length (by simp [Placeholder.text]; omega) rest rfl
      refine ⟨⟨[], (p, t.opening) :: t.parts⟩, ⟨?_, isLiteral_nil, ?_⟩, ?_⟩
      · exact List.forall_mem_cons.2 ⟨hwritten, ht.written⟩
      · exact List.forall_mem_cons.2 ⟨ht.opening_isLiteral, ht.isLiteral⟩
      · simp [CutTemplate.text, CutTemplate.fill]
    | none =>
      cases cs with
      | nil => exact ⟨⟨[], []⟩, ⟨by simp, isLiteral_nil, by simp⟩, rfl⟩
      | cons c cs =>
        obtain ⟨t, ht, rfl⟩ := ih cs.length (by simp) cs rfl
        refine ⟨⟨c :: t.opening, t.parts⟩, ⟨ht.written, ?_, ht.isLiteral⟩, rfl⟩
        refine isLiteral_cons ht.opening_isLiteral fun p hp hbegins => ?_
        obtain ⟨rest, hrest⟩ := hbegins.trans (List.prefix_append (c :: t.opening)
          (t.parts.flatMap fun part => part.1.text ++ part.2))
        have hthere := Placeholder.read?_text_append hp rest
        rw [hrest] at hthere
        exact absurd (hthere.symm.trans hread) (by simp)

/-! ## Filling a template -/

variable {value : Placeholder → String}

/-- The characters of a placeholder are passed over. -/
theorem expandFrom_length_append (passed rest : List Char) :
    expandFrom value passed.length (passed ++ rest) = expandFrom value 0 rest := by
  induction passed with
  | nil => rfl
  | cons c passed ih => exact ih

/-- A placeholder is replaced by its value, which is not looked at again. -/
theorem expandFrom_placeholder (h : p.IsWritten) (rest : List Char) :
    expandFrom value 0 (p.text ++ rest) = (value p).toList ++ expandFrom value 0 rest := by
  have hread := Placeholder.read?_text_append h rest
  simp only [Placeholder.text, List.cons_append, List.length_cons] at hread ⊢
  simp only [expandFrom, hread, Nat.add_sub_cancel]
  rw [expandFrom_length_append]

/-- A literal text is copied. -/
theorem expandFrom_literal (h : IsLiteral cs) (hrest : Stops (· != '\x7b') rest) :
    expandFrom value 0 (cs ++ rest) = cs ++ expandFrom value 0 rest := by
  induction cs with
  | nil => rfl
  | cons c cs ih =>
    have htail : IsLiteral cs := fun p hp hinfix => h p hp (List.infix_cons hinfix)
    have hread : Placeholder.read? (c :: (cs ++ rest)) = none := h.read?_eq_none hrest
    rw [List.cons_append, expandFrom_cons hread, ih htail, List.cons_append]

/-- Behind a literal text there is the end of the template or a placeholder. -/
theorem stops_flatMap_text (parts : List (Placeholder × List Char)) :
    Stops (· != '\x7b') (parts.flatMap fun part => part.1.text ++ part.2) := by
  cases parts with
  | nil => exact stops_nil _
  | cons part parts => simp [Stops, Placeholder.text]

theorem expandFrom_flatMap_text {parts : List (Placeholder × List Char)}
    (hwritten : ∀ part ∈ parts, part.1.IsWritten) (hliteral : ∀ part ∈ parts, IsLiteral part.2) :
    expandFrom value 0 (parts.flatMap fun part => part.1.text ++ part.2) =
      parts.flatMap fun part => (value part.1).toList ++ part.2 := by
  induction parts with
  | nil => rfl
  | cons part parts ih =>
    obtain ⟨hpart, hwritten⟩ := List.forall_mem_cons.1 hwritten
    obtain ⟨hbehind, hliteral⟩ := List.forall_mem_cons.1 hliteral
    rw [List.flatMap_cons, List.append_assoc, expandFrom_placeholder hpart,
      expandFrom_literal hbehind (stops_flatMap_text parts), ih hwritten hliteral,
      List.flatMap_cons, List.append_assoc]

/-- Filling replaces the placeholders of a template by their values, and nothing else. -/
theorem expand_text {t : CutTemplate} (h : t.WellFormed) :
    expand value (String.ofList t.text) = String.ofList (t.fill fun p => (value p).toList) := by
  rw [expand, String.toList_ofList, CutTemplate.text, CutTemplate.fill,
    expandFrom_literal h.opening_isLiteral (stops_flatMap_text t.parts),
    expandFrom_flatMap_text h.written h.isLiteral]
  rfl

end

/-! ## Rules -/

/-- The values of the placeholders come from the used name and from the groups of the match. -/
theorem Placeholder.toList_value {u : NameUse} {name : String} {ends : Array (Option Nat)}
    {groups : List (Option String)}
    (h : ∀ index, groups[index]?.getD none = Pattern.groupText? name ends index)
    (p : Placeholder) : (p.value u groups).toList = p.valueIn u name ends := by
  cases p with
  | group index => simp only [value, valueIn, h index]
  | _ => rfl

/-- Every text is a template cut at its placeholders.  Templates are filled with the spellings of the
used name and with the groups of the first match, and so is the answer of a rule whose pattern matches
the used name. -/
theorem Rule.answer_of_cutTemplates (rule : Rule) {pattern : Pattern}
    (hcompile : Pattern.compile? rule.pattern = some pattern) {name : String}
    (hmatch : pattern.Matches name) (u : NameUse) :
    (∀ template, ∃ t : CutTemplate, t.WellFormed ∧ String.ofList t.text = template) ∧
    ∃ groups start ends, pattern.captures? name = some groups ∧
      Pattern.IsFirstMatch pattern.program name.toList.toArray start ends ∧
      (∀ t : CutTemplate, t.WellFormed →
        expand (Placeholder.value u groups) (String.ofList t.text) =
          String.ofList (t.fill (Placeholder.valueIn u name ends))) ∧
      (u.name = name → ∀ key statement : CutTemplate, key.WellFormed → statement.WellFormed →
        rule.key = String.ofList key.text → rule.statement = String.ofList statement.text →
        ∃ matcher, rule.matcher? = some matcher ∧ matcher u = some
          ⟨String.ofList (key.fill (Placeholder.valueIn u name ends)),
            String.ofList (statement.fill (Placeholder.valueIn u name ends))⟩) := by
  obtain ⟨groups, start, ends, hcaptures, hfirst, hgroups⟩ :=
    Pattern.exists_captures? hcompile hmatch
  have hexpand : ∀ t : CutTemplate, t.WellFormed →
      expand (Placeholder.value u groups) (String.ofList t.text) =
        String.ofList (t.fill (Placeholder.valueIn u name ends)) := by
    intro t ht
    rw [expand_text ht, funext (Placeholder.toList_value hgroups)]
  have hcut : ∀ template, ∃ t : CutTemplate, t.WellFormed ∧ String.ofList t.text = template := by
    intro template
    obtain ⟨t, ht, htext⟩ := exists_cutTemplate template.toList
    exact ⟨t, ht, by rw [htext, String.ofList_toList]⟩
  refine ⟨hcut, groups, start, ends, hcaptures, hfirst, hexpand, ?_⟩
  rintro rfl key statement hkey hstatement hkeyText hstatementText
  refine ⟨rule.matcherOf pattern, by rw [matcher?, hcompile]; rfl, ?_⟩
  rw [matcherOf, hcaptures, hkeyText, hstatementText, Option.map_some, hexpand key hkey,
    hexpand statement hstatement]

/-- A template with braces around a placeholder, a group that the pattern lacks, and a brace that is
never closed. -/
def bracedTemplate : CutTemplate :=
  ⟨['\x7b'], [(.group 1, ['\x7d']), (.raw, ['-']), (.group 2, "\x7bpath".toList)]⟩

/-- A rule for names behind a leading text. -/
def bracedRule : Rule where
  pattern := "^app-(.+)$"
  statement := String.ofList bracedTemplate.text

theorem wellFormed_bracedTemplate : bracedTemplate.WellFormed := by
  refine ⟨?_, isLiteral_of_not_mem (by decide), ?_⟩
  · simp [bracedTemplate, Placeholder.IsWritten]
  · simp only [bracedTemplate, List.forall_mem_cons, List.not_mem_nil]
    exact ⟨isLiteral_of_not_mem (by decide), isLiteral_of_not_mem (by decide),
      isLiteral_of_not_mem (by decide), by simp⟩

/-- A group that holds the text of a placeholder is put in as it is. -/
theorem Rule.answer_of_cutTemplates_braced :
    ∃ pattern, Pattern.compile? bracedRule.pattern = some pattern ∧
      pattern.Matches "app-\x7b1\x7d" ∧
      ∃ matcher, bracedRule.matcher? = some matcher ∧
        matcher ⟨.tag, "app-\x7b1\x7d", "src/App.vue", {}⟩ =
          some ⟨"App-\x7b1\x7d", "\x7b\x7b1\x7d\x7dapp-\x7b1\x7d-\x7bpath"⟩ := by
  have hfound : (Pattern.compile? bracedRule.pattern).bind
      (fun p => Pattern.search p.program "app-\x7b1\x7d".toList.toArray) =
      some #[some 0, some 7, some 4, some 7] := by decide +kernel
  obtain ⟨pattern, hcompile, hsearch⟩ := Option.bind_eq_some_iff.1 hfound
  have hmatch := (Pattern.matches_iff hcompile).2 ⟨_, hsearch⟩
  obtain ⟨-, groups, start, ends, -, hfirst, -, hanswer⟩ :=
    bracedRule.answer_of_cutTemplates hcompile hmatch
      ⟨.tag, "app-\x7b1\x7d", "src/App.vue", {}⟩
  have hends := (Pattern.search_eq_some_iff (Pattern.wellFormed_of_compile? hcompile)).2
    ⟨start, hfirst⟩
  rw [hsearch] at hends
  obtain rfl := Option.some.inj hends
  obtain ⟨matcher, hmatcher, hgiven⟩ := hanswer rfl ⟨[], [(.camel, [])]⟩ bracedTemplate
    ⟨by simp [Placeholder.IsWritten], isLiteral_nil, by simp [isLiteral_nil]⟩
    wellFormed_bracedTemplate (by decide +kernel) rfl
  exact ⟨pattern, hcompile, hmatch, matcher, hmatcher, hgiven.trans (by decide +kernel)⟩

end TemplateImports
