import TemplateImports.Proofs.Matching.Spelling
import TemplateImports.Proofs.Script.ImportedNames
import TemplateImports.Proofs.Template.RoundTrip
import TemplateImports.Template.Usage

/-!
# Statements of the library

The built-in matchers write the registered spelling of a name into an import as it is.  The names of
tags and directives come from catalogs, which hold words only.  The name of an icon is a part of an
attribute value, and any text may stand there: the import declares it exactly if its registered
spelling is a word.

Main results:

- Definition `IsDashedWord` says which texts are words in camel case, and theorem
  `continuesName_camelizeChars_iff` says so.
- Theorem `icons_ofTemplate_iconElement` says that a template may ask for any icon.
- Theorem `importedNames?_matcher_iff` says when a built-in matcher answers with an import of its
  key.
-/

namespace TemplateImports

open Casing Script Template Text

/-! ## Words with dashes -/

/-- Each character continues a name, or is a dash in front of an ASCII word character. -/
def IsDashedWord (cs : List Char) : Prop :=
  ∀ c after, (c :: after) <:+ cs →
    continuesName c = true ∨ (c = '-' ∧ ∃ d ∈ after.head?, isAsciiWord d = true)

theorem isDashedWord_nil : IsDashedWord [] := by
  intro c after h
  simp at h

theorem isDashedWord_cons_iff {c : Char} {cs : List Char} :
    IsDashedWord (c :: cs) ↔
      (continuesName c = true ∨ (c = '-' ∧ ∃ d ∈ cs.head?, isAsciiWord d = true)) ∧
        IsDashedWord cs := by
  simp only [IsDashedWord, List.suffix_cons_iff, List.cons.injEq]
  constructor
  · intro h
    exact ⟨h c cs (.inl ⟨rfl, rfl⟩), fun d after hd => h d after (.inr hd)⟩
  · rintro ⟨hc, hcs⟩ d after (⟨rfl, rfl⟩ | hd)
    · exact hc
    · exact hcs d after hd

instance decidableIsDashedWord : (cs : List Char) → Decidable (IsDashedWord cs)
  | [] => isTrue isDashedWord_nil
  | _ :: cs =>
    have := decidableIsDashedWord cs
    decidable_of_iff _ isDashedWord_cons_iff.symm

theorem continuesName_of_isAsciiWord {c : Char} (h : isAsciiWord c = true) :
    continuesName c = true ∧ continuesName c.toUpper = true := by
  have hall := forall_ascii
    (p := fun c => !isAsciiWord c || (continuesName c && continuesName c.toUpper))
    (by decide) (toNat_lt_of_isAsciiWord h)
  simpa [h] using hall

/-- Camel case takes away the dashes in front of word characters and keeps all others. -/
theorem continuesName_camelizeChars_iff (cs : List Char) :
    (∀ c ∈ camelizeChars cs, continuesName c = true) ↔ IsDashedWord cs := by
  have hdash : continuesName '-' = false := by decide
  induction cs using camelizeChars.induct with
  | case1 c cs hc ih =>
    obtain ⟨hword, hupper⟩ := continuesName_of_isAsciiWord hc
    rw [camelizeChars, if_pos hc, upper_of_ascii (toNat_lt_of_isAsciiWord hc)]
    simp [isDashedWord_cons_iff, hc, hword, hupper, ih]
  | case2 c cs hc ih =>
    rw [camelizeChars, if_neg hc]
    simp [isDashedWord_cons_iff, hc, hdash]
  | case3 c cs hpair ih =>
    have hlast : c = '-' → cs = [] := by
      rintro rfl
      cases cs with
      | nil => rfl
      | cons d ds => exact absurd rfl (hpair d ds rfl)
    -- A dash at the end stays, as every dash that no word character follows.
    rw [camelizeChars, List.forall_mem_cons, isDashedWord_cons_iff]
    · constructor
      · exact fun h => ⟨.inl h.1, ih.1 h.2⟩
      · rintro ⟨hc | ⟨rfl, d, hd, -⟩, hcs⟩
        · exact ⟨hc, ih.2 hcs⟩
        · simp [hlast rfl] at hd
    · exact hpair
  | case4 => simp [camelizeChars, isDashedWord_nil]

/-! ## Names of icons -/

/-- No character beyond ASCII has the lower case of the letter `m`: the letter is not between the
images of the ends of a run. -/
theorem ne_m_of_map? {r : CaseRun} (hr : r ∈ lowerRuns) {n code : Nat}
    (h : r.map? n = some code) : Char.ofNat code ≠ 'm' := by
  have hruns : ∀ r ∈ lowerRuns, (109 : Int) < r.first + r.delta ∨ r.last + r.delta < 109 := by
    decide +kernel
  have hr := hruns r hr
  simp only [CaseRun.map?, Option.ite_none_right_eq_some, Option.some.injEq] at h
  obtain ⟨⟨hfirst, hlast, -⟩, rfl⟩ := h
  intro hm
  have hcode := congrArg Char.toNat hm
  rw [Char.toNat_ofNat] at hcode
  have hletter : 'm'.toNat = 109 := rfl
  split at hcode <;> omega

/-- No character but the letter itself has the lower case of the letter `m`. -/
theorem exists_lower_eq_cons (c : Char) :
    ∃ d ds, lower c = d :: ds ∧ (d = 'm' → c = 'm' ∨ c = 'M') := by
  by_cases hascii : c.toNat < 0x80
  · have hall := forall_ascii (p := fun c => c.toLower != 'm' || c == 'm' || c == 'M')
      (by decide) hascii
    refine ⟨c.toLower, [], lower_of_ascii hascii, fun hlower => ?_⟩
    simpa [hlower] using hall
  · rw [lower, if_neg hascii, mapCase]
    split
    · rename_i codes hcodes
      have hexpansion : ∀ entry ∈ lowerExpansions, entry.2 = [0x69, 0x307] := by decide
      obtain ⟨before, after, htable, -⟩ := List.lookup_eq_some_iff.1 hcodes
      obtain rfl : codes = [0x69, 0x307] := hexpansion (c.toNat, codes) (by simp [htable])
      exact ⟨_, _, rfl, fun hm => absurd hm (by decide)⟩
    · refine ⟨_, _, rfl, fun hm => ?_⟩
      cases hrun : lowerRuns.findSome? (·.map? c.toNat) with
      | none =>
        left
        simpa [hrun] using hm
      | some code =>
        obtain ⟨r, hr, hmap⟩ := List.exists_of_findSome?_eq_some hrun
        exact absurd (by simpa [hrun] using hm) (ne_m_of_map? hr hmap)

variable {u : NameUse}

/-- The name of an icon of the library starts with the letter `m`. -/
theorem exists_name_of_ownsIcon (h : ({} : Library).ownsIcon u = true) :
    ∃ c cs, u.name.toList = c :: cs ∧ (c = 'm' ∨ c = 'M') := by
  simp only [Library.ownsIcon, NameUse.kebab, toList_hyphenate, Bool.and_eq_true,
    List.isPrefixOf_iff_prefix] at h
  obtain ⟨hleading, -⟩ := h
  cases hname : u.name.toList with
  | nil => simp [hname, hyphenateAfter] at hleading
  | cons c cs =>
    obtain ⟨d, ds, hlower, hm⟩ := exists_lower_eq_cons c
    refine ⟨c, cs, rfl, hm ?_⟩
    have hfirst : ['m', 'd', 'i', '-'] <+: d :: (ds ++ hyphenateAfter (isAsciiWord c) cs) := by
      simpa [hname, hyphenateAfter, hlower] using hleading
    exact (List.cons_prefix_cons.1 hfirst).1.symm

/-- No keyword starts with the letter `m`. -/
theorem ofText?_of_m {c : Char} (hc : c = 'm' ∨ c = 'M') (cs : List Char) :
    Keyword.ofText? (c :: cs) = none := by
  have hheads : ∀ entry ∈ Keyword.table,
      entry.1.toList.head? ≠ some 'm' ∧ entry.1.toList.head? ≠ some 'M' := by decide
  simp only [Keyword.ofText?, Option.map_eq_none_iff, List.find?_eq_none, beq_iff_eq]
  intro entry hentry heq
  obtain ⟨hlower, hupper⟩ := hheads entry hentry
  rw [heq] at hlower hupper
  rcases hc with rfl | rfl <;> simp at hlower hupper

/-! ## Statements -/

/-- A named import is written as a line of a script. -/
theorem toList_statement_namedImport (key moduleName : String) :
    (Library.namedImport key moduleName).statement.toList =
      (ScriptLine.namedImport key.toList moduleName.toList).write := by
  simp [Library.namedImport, ScriptLine.write, importWord, writeFrom]

/-- The modules of the library are named without quotes and escapes. -/
theorem forall_moduleOf (c : Category) : ∀ d ∈ (Library.moduleOf {} c).toList,
    d ≠ '\x27' ∧ d ≠ '\\' ∧ endsLine d = false := by
  cases c <;> decide

/-- The characters of a literal are known without decoding the literal. -/
theorem isKeyWord_toList_ofList {key : List Char} (h : IsKeyWord key) :
    IsKeyWord (String.ofList key).toList := by
  rwa [String.toList_ofList]

theorem isKeyWord_of_mem_components : ∀ name ∈ Catalog.components, IsKeyWord name.toList := by
  simp only [Catalog.components, List.forall_mem_cons]
  and_intros
  all_goals first | exact isKeyWord_toList_ofList (by decide) | simp

theorem isKeyWord_of_mem_directives : ∀ name ∈ Catalog.directives, IsKeyWord name.toList := by
  simp only [Catalog.directives, List.forall_mem_cons]
  and_intros
  all_goals first | exact isKeyWord_toList_ofList (by decide) | simp

/-- The keys of tags and directives come from a catalog of words that start with a capital. -/
theorem isKeyWord_of_matcher {c : Category} (hc : c ≠ .icon) {i : Import}
    (h : Library.matcher {} c u = some i) : IsKeyWord i.key.toList := by
  rw [Library.matcher_key h]
  cases c with
  | tag =>
    simp only [Library.matcher, Option.ite_none_right_eq_some] at h
    refine isKeyWord_of_mem_components _ ?_
    simpa [Library.ownsTag, Library.knownComponents] using (Bool.and_eq_true_iff.1 h.1).2
  | directive =>
    simp only [Library.matcher, Option.ite_none_right_eq_some] at h
    refine isKeyWord_of_mem_directives _ ?_
    simpa [Library.ownsDirective, Library.knownDirectives] using h.1
  | icon => exact absurd rfl hc

/-- The registered spelling of an icon of the library is a word exactly if its name is one with
dashes. -/
theorem isWord_camelize_iff {name : String} {c : Char} {cs : List Char}
    (hname : name.toList = c :: cs) (hc : c = 'm' ∨ c = 'M') :
    IsWord (camelize name).toList ↔ IsDashedWord name.toList := by
  have hstart : startsName c = true ∧ c ≠ '-' := by rcases hc with rfl | rfl <;> decide
  rw [toList_camelize, ← continuesName_camelizeChars_iff, hname, camelizeChars_cons hstart.2]
  exact ⟨IsWord.continuesName,
    fun h => ⟨c, _, rfl, hstart.1, fun d hd => h d (List.mem_cons_of_mem _ hd)⟩⟩

/-- The statement of a built-in matcher is a script that declares the key and nothing else if the
name is that of a tag or a directive.  If it is that of an icon, the statement is such a script
exactly if the key is a word, which means that the name is one with dashes. -/
theorem importedNames?_matcher_iff (c : Category) (path : String) (component : Component)
    (name : String) (i : Import)
    (h : Library.matcher {} c (Site.use ⟨c, path, component⟩ name) = some i) :
    (importedNames? i.statement = some [i.key] ↔ (c = .icon → IsWord i.key.toList)) ∧
      (c = .icon → (IsWord i.key.toList ↔ IsDashedWord name.toList)) := by
  have hstatement : i.statement.toList =
      (ScriptLine.namedImport i.key.toList (Library.moduleOf {} c).toList).write := by
    conv_lhs => rw [Library.eq_namedImport_of_matcher h]
    exact toList_statement_namedImport _ _
  by_cases hc : c = .icon
  · subst hc
    have howns : ({} : Library).ownsIcon (Site.use ⟨.icon, path, component⟩ name) = true := by
      simp only [Library.matcher, Option.ite_none_right_eq_some] at h
      exact h.1
    obtain ⟨d, ds, hname, hd⟩ := exists_name_of_ownsIcon howns
    have hkey : i.key = camelize name := Library.matcher_key h
    have hletter : d ≠ '-' ∧ isTokenStart d = true := by rcases hd with rfl | rfl <;> decide
    have hchars : i.key.toList = d :: camelizeChars ds := by
      rw [hkey, toList_camelize]
      exact (congrArg camelizeChars hname).trans (camelizeChars_cons hletter.1 ds)
    have hstart : ∀ e ∈ i.key.toList.head?, isTokenStart e = true := by
      simp [hchars, hletter.2]
    have hkeyword : Keyword.ofText? i.key.toList = none := by
      rw [hchars]
      exact ofText?_of_m hd _
    have hdeclares :=
      importedNames?_namedImport_iff hstart hkeyword (forall_moduleOf .icon) hstatement
    rw [String.ofList_toList] at hdeclares
    refine ⟨by simpa using hdeclares, fun _ => ?_⟩
    rw [hkey]
    exact isWord_camelize_iff hname hd
  · have hplain := (isKeyWord_of_matcher hc h).isPlainWord
    have hdeclares := hplain.importedNames?_namedImport (forall_moduleOf c) hstatement
    rw [String.ofList_toList] at hdeclares
    simp [hdeclares, hc]

/-- The built-in matcher answers an icon that has something behind its leading text. -/
theorem matcher_icon {name : String} (path : String) (component : Component)
    (hleading : "mdi-".toList <+: (hyphenate name).toList) (hne : hyphenate name ≠ "mdi-") :
    Library.matcher {} .icon (Site.use ⟨.icon, path, component⟩ name) =
      some (Library.namedImport (camelize name) "@mdi/js") := by
  have howns : ({} : Library).ownsIcon (Site.use ⟨.icon, path, component⟩ name) = true := by
    rw [Library.ownsIcon, Bool.and_eq_true, List.isPrefixOf_iff_prefix, bne_iff_ne]
    exact ⟨hleading, hne⟩
  exact if_pos howns

/-- The name of an icon with a dash. -/
theorem importedNames?_matcher_iff_dashed :
    importedNames? (Library.namedImport "mdiHome" "@mdi/js").statement = some ["mdiHome"] := by
  have hkebab : hyphenate "mdi-home" = "mdi-home" := by decide
  have hcamel : camelize "mdi-home" = "mdiHome" := by decide
  have hanswer : Library.matcher {} .icon (Site.use ⟨.icon, "App.vue", {}⟩ "mdi-home") =
      some (Library.namedImport "mdiHome" "@mdi/js") := by
    rw [← hcamel]
    exact matcher_icon "App.vue" {} (by rw [hkebab]; decide) (by rw [hkebab]; decide)
  have hname : IsDashedWord "mdi-home".toList := by decide
  obtain ⟨hdeclares, hword⟩ := importedNames?_matcher_iff .icon "App.vue" {} "mdi-home" _ hanswer
  exact hdeclares.2 fun hc => (hword hc).2 hname

/-! ## Icons that a template asks for -/

/-- An attribute that asks for an icon. -/
def iconAttribute (name : List Char) : WrittenAttribute :=
  .quoted [':', 'i'] (iconOpening ++ '\x27' :: (name ++ ['\x27', ')']))

/-- An element that asks for an icon. -/
def iconElement (name : List Char) : Written :=
  .element "v-icon".toList [iconAttribute name] []

theorem beforeLast_endsIconName (name : List Char) :
    beforeLast endsIconName (name ++ ['\x27', ')']) = some name := by
  induction name with
  | nil => rfl
  | cons c name ih => rw [List.cons_append, beforeLast, ih]

/-- The name of an icon is any text of one line. -/
theorem icon?_of_text {name : List Char} (hname : name ≠ []) (hline : '\n' ∉ name) :
    icon? (String.ofList (iconOpening ++ '\x27' :: (name ++ ['\x27', ')']))) =
      some (String.ofList name) := by
  have hrun : (name ++ ['\x27', ')']).takeWhile (· != '\n') = name ++ ['\x27', ')'] := by
    rw [List.takeWhile_eq_self_iff]
    intro c hc
    rw [bne_iff_ne]
    rintro rfl
    simp [hline] at hc
  rw [icon?, String.toList_ofList, if_pos (by simp), List.drop_left]
  simp [hrun, beforeLast_endsIconName, hname]

theorem wellFormed_iconElement {name : List Char}
    (h : ∀ c ∈ name, WrittenAttribute.isValueChar c = true) :
    Written.AllWellFormed [iconElement name] := by
  have hopening : ∀ c ∈ iconOpening, WrittenAttribute.isValueChar c = true := by decide
  have hquote : WrittenAttribute.isValueChar '\x27' = true := by decide
  have hclosing : WrittenAttribute.isValueChar ')' = true := by decide
  have hchars : ∀ c ∈ [':', 'i'], WrittenAttribute.isNameChar c = true := by decide
  have hmarkers : [':', 'i'] ≠ nameMarker.toList ∧ [':', 'i'] ≠ caseMarker.toList := by
    decide
  have hattribute : (iconAttribute name).WellFormed := by
    refine ⟨⟨':', rfl, by decide⟩, hchars, hmarkers.1, hmarkers.2, ?_⟩
    simp only [iconAttribute, WrittenAttribute.value, List.forall_mem_append, List.forall_mem_cons,
      List.not_mem_nil]
    exact ⟨hopening, hquote, h, hquote, hclosing, fun _ hnil => hnil.elim⟩
  refine ⟨⟨by decide, ⟨List.forall_mem_singleton.2 hattribute, by simp⟩, trivial⟩, ?_, trivial⟩
  simp [iconElement, Written.isText]

/-- A template may ask for any icon whose name can stand in an attribute value. -/
theorem icons_ofTemplate_iconElement {name : List Char} (hname : name ≠ []) (hline : '\n' ∉ name)
    (h : ∀ c ∈ name, WrittenAttribute.isValueChar c = true) :
    (Usage.ofTemplate (String.ofList (Written.writeAll [iconElement name]))).icons =
      [String.ofList name] := by
  have hws := wellFormed_iconElement h
  have hforeign : IsForeignChar '\r' :=
    ⟨by decide, by decide, by decide, by decide, by decide⟩
  have hreturn : '\r' ∉ Written.spellAll .prepared [iconElement name] :=
    not_mem_spellAll hforeign hws
  have hforest : Template.parse (String.ofList (Written.writeAll [iconElement name])) =
      Written.forest [iconElement name] := by
    unfold parse
    rw [String.toList_ofList, writesWrappers_writeAll hws, prepare_writeAll hws.prepared,
      Markup.Document.parse, dropByteOrderMark_spellAll hws, normalizeNewlines_of_not_mem hreturn]
    exact ofDocument_build hws
  rw [Usage.ofTemplate, hforest]
  have hicon : icon? (iconAttribute name).toAttribute.value = some (String.ofList name) :=
    icon?_of_text hname hline
  change insertNames [] ([(iconAttribute name).toAttribute].filterMap fun a => icon? a.value) = _
  simp [hicon, insertNames, insertName]

/-- A template that asks for an icon with a blank in its name: the built-in matcher answers with a
statement that does not declare the key. -/
theorem not_importedNames?_blank :
    (Usage.ofTemplate "<v-icon :i=\"$getIcon('mdi-a b')\"></v-icon>").icons = ["mdi-a b"] ∧
      ∃ i, Library.matcher {} .icon (Site.use ⟨.icon, "App.vue", {}⟩ "mdi-a b") = some i ∧
        importedNames? i.statement ≠ some [i.key] := by
  have hkebab : hyphenate "mdi-a b" = "mdi-a b" := by decide
  have hcamel : camelize "mdi-a b" = "mdiA b" := by decide
  refine ⟨?_, _, matcher_icon "App.vue" {} (by rw [hkebab]; decide)
    (by rw [hkebab]; decide), ?_⟩
  · have htext : "<v-icon :i=\"$getIcon('mdi-a b')\"></v-icon>" =
        String.ofList (Written.writeAll [iconElement "mdi-a b".toList]) := by decide
    rw [htext, icons_ofTemplate_iconElement (by decide) (by decide)
      (by decide), String.ofList_toList]
  · rw [hcamel]
    intro hnames
    have hword := isWord_of_importedNames? hnames "mdiA b" (List.mem_singleton_self _)
    exact absurd hword (by decide)

end TemplateImports
