import Mathlib.Data.List.Nodup
import TemplateImports.Proofs.Template.Passes

/-!
# Recovering the spellings of names

Reading a prepared tag puts all names into lower case.  The markers among its attributes bring the
spellings of the template back.

Main results:

- Theorem `scanAttributes_prepared` reads the attributes of a prepared tag.
- Theorem `splitBlank_joinWith` takes the record of names apart.
- Theorem `originalTag_prepared` recovers the name of an element.
- Theorem `originalAttributes_prepared` recovers the attributes of an element.
-/

namespace TemplateImports.Template

open Markup (Attribute)
open Markup.Token (scanAttributes scanAttributes_bare scanAttributes_quoted scanAttributes_close
  addAttribute)
open Text

/-! ## Attributes in lower case -/

/-- The attribute that is read from the text of a written one. -/
def WrittenAttribute.lowered (a : WrittenAttribute) : Attribute :=
  ⟨String.ofList a.lowerName, String.ofList a.value⟩

theorem addAttribute_of_not_mem {attributes : List Attribute} {a : Attribute}
    (h : a.name ∉ attributes.map (·.name)) : addAttribute attributes a = attributes ++ [a] := by
  have hany : attributes.any (·.name == a.name) = false := by
    rw [List.any_eq_false]
    intro b hb
    rw [beq_iff_eq]
    intro heq
    exact h (heq ▸ List.mem_map_of_mem hb)
  rw [addAttribute, hany]
  rfl

/-- The text behind a bare name is that of another attribute or the end of the tag. -/
theorem endsBareName_writeAttributes {attributes : List WrittenAttribute}
    (h : ∀ a ∈ attributes, a.IsSpelled) (rest : List Char) :
    Markup.Token.EndsBareName (writeAttributes attributes ++ '>' :: rest) := by
  refine ⟨stops_writeAttributes (by decide) attributes (stops_cons (by decide) rest), ?_⟩
  cases attributes with
  | nil => exact stops_cons (by decide) rest
  | cons a attributes =>
    have ha := h a (by simp)
    have hname : ∀ c ∈ a.name.head?, ∀ cs, Stops (· == '=')
        ((' ' :: (a.name ++ cs)).dropWhile isAsciiBlank) := by
      intro c hc cs
      have hspace : isAsciiBlank ' ' = true := by decide
      obtain ⟨tail, htail⟩ : ∃ tail, a.name = c :: tail := by
        cases hn : a.name with
        | nil => simp [hn] at hc
        | cons d tail =>
          rw [hn, List.head?_cons, Option.mem_some_iff] at hc
          exact ⟨tail, by rw [hc]⟩
      have hharmless : WrittenAttribute.isHarmless c = true := ha.harmless (by simp [htail])
      simp only [WrittenAttribute.isHarmless, Markup.Token.isAttributeNameChar,
        Markup.Token.isTagNameChar, Bool.and_eq_true, Bool.not_eq_true', bne_iff_ne] at hharmless
      obtain ⟨⟨⟨-, ⟨⟨hblank, -⟩, -⟩, hequals⟩, -⟩, -⟩ := hharmless
      rw [htail, List.cons_append, List.dropWhile_cons, if_pos hspace, List.dropWhile_cons,
        if_neg (by simp [hblank])]
      exact stops_cons (p := (· == '=')) (beq_eq_false_iff_ne.2 hequals) _
    obtain ⟨c, hc, -⟩ := ha.starts
    cases a with
    | bare name =>
      have happ : writeAttributes (.bare name :: attributes) ++ '>' :: rest =
          ' ' :: (name ++ (writeAttributes attributes ++ '>' :: rest)) := by
        simp [writeAttributes, WrittenAttribute.write]
      rw [happ]
      exact hname c hc _
    | quoted name value =>
      have happ : writeAttributes (.quoted name value :: attributes) ++ '>' :: rest =
          ' ' :: (name ++ ('=' :: '"' :: value ++
            '"' :: (writeAttributes attributes ++ '>' :: rest))) := by
        simp [writeAttributes, WrittenAttribute.write]
      rw [happ]
      exact hname c hc _

/-- Attributes with distinct names are read one by one, behind those that are read already. -/
theorem scanAttributes_append {attributes : List WrittenAttribute}
    (h : ∀ a ∈ attributes, a.IsSpelled) {seen : List Attribute}
    (hdistinct : (seen.map (·.name) ++ attributes.map (·.lowered.name)).Nodup)
    (rest : List Char) :
    scanAttributes seen (writeAttributes attributes ++ '>' :: rest) =
      some (seen ++ attributes.map WrittenAttribute.lowered, false, rest) := by
  induction attributes generalizing seen with
  | nil => simpa [writeAttributes] using scanAttributes_close seen rest
  | cons a attributes ih =>
    have ha := h a (by simp)
    have hattributes : ∀ b ∈ attributes, b.IsSpelled := fun b hb => h b (List.mem_cons_of_mem a hb)
    have hnew : a.lowered.name ∉ seen.map (·.name) := by
      intro hmem
      rw [List.nodup_append] at hdistinct
      exact hdistinct.2.2 _ hmem _ (by simp) rfl
    have hadd := addAttribute_of_not_mem hnew
    have hrest : ((seen ++ [a.lowered]).map (·.name) ++
        attributes.map (·.lowered.name)).Nodup := by
      simpa using hdistinct
    have hih := ih hattributes hrest
    have hname : ∀ c ∈ a.name, Markup.Token.isAttributeNameChar c = true := by
      intro c hc
      have hharmless := ha.harmless hc
      simp only [WrittenAttribute.isHarmless, Bool.and_eq_true] at hharmless
      exact hharmless.1.1.2
    have hlower := Markup.Token.nameOf_eq (ha.not_mem_name (show _ = false by decide))
    cases a with
    | bare name =>
      have happ : writeAttributes (.bare name :: attributes) ++ '>' :: rest =
          ' ' :: ((WrittenAttribute.bare name).name ++
            (writeAttributes attributes ++ '>' :: rest)) := by
        simp [writeAttributes, WrittenAttribute.write, WrittenAttribute.name]
      have hlowered : (⟨String.ofList ((WrittenAttribute.bare name).name.map Char.toLower), ""⟩ :
          Attribute) = WrittenAttribute.lowered (.bare name) := rfl
      rw [happ, scanAttributes_bare ha.name_ne_nil hname
        (endsBareName_writeAttributes hattributes rest), hlower, hlowered, hadd, hih]
      simp
    | quoted name value =>
      have hquote : '"' ∉ value := ha.not_mem_value (by decide)
      have hvalue : Markup.Token.valueOf value = String.ofList value :=
        Markup.Token.valueOf_eq (ha.not_mem_value (by decide)) (ha.not_mem_value (by decide))
      have happ : writeAttributes (.quoted name value :: attributes) ++ '>' :: rest =
          ' ' :: ((WrittenAttribute.quoted name value).name ++ '=' :: '"' :: value ++
            '"' :: (writeAttributes attributes ++ '>' :: rest)) := by
        simp [writeAttributes, WrittenAttribute.write, WrittenAttribute.name]
      have hlowered : (⟨String.ofList ((WrittenAttribute.quoted name value).name.map Char.toLower),
          String.ofList value⟩ : Attribute) = WrittenAttribute.lowered (.quoted name value) := rfl
      rw [happ, scanAttributes_quoted ha.name_ne_nil hname hquote, hlower, hvalue, hlowered, hadd,
        hih]
      simp

/-! ## The record of names -/

/-- Words joined with spaces are taken apart at the blanks. -/
theorem splitBlank_joinWith {words : List (List Char)} (hne : ∀ word ∈ words, word ≠ [])
    (hblank : ∀ word ∈ words, ∀ c ∈ word, isBlank c = false) :
    splitBlank (joinWith [' '] words) = words := by
  have hword : ∀ (word : List Char), word ≠ [] → (∀ c ∈ word, isBlank c = false) →
      splitBlank word = [word] ∧
        ∀ rest, splitBlank (word ++ ' ' :: rest) = word :: splitBlank rest := by
    intro word
    induction word with
    | nil => exact fun hne => absurd rfl hne
    | cons c word ih =>
      intro _ hfree
      have hc := hfree c (by simp)
      have hspace : isBlank ' ' = true := by decide
      cases word with
      | nil => exact ⟨by simp [splitBlank, hc], fun rest => by simp [splitBlank, hc, hspace]⟩
      | cons d word =>
        have hd := hfree d (by simp)
        obtain ⟨hone, hmore⟩ := ih (by simp) fun e he => hfree e (List.mem_cons_of_mem c he)
        refine ⟨?_, fun rest => ?_⟩
        · rw [splitBlank]
          simp [hc, hd, hone]
        · have hrest := hmore rest
          simp only [List.cons_append] at hrest ⊢
          rw [splitBlank]
          simp [hc, hd, hrest]
  induction words with
  | nil => rfl
  | cons word words ih =>
    obtain ⟨hone, hmore⟩ := hword word (hne word (by simp)) (hblank word (by simp))
    cases words with
    | nil => exact hone
    | cons next words =>
      have hih := ih (fun w hw => hne w (List.mem_cons_of_mem word hw))
        fun w hw => hblank w (List.mem_cons_of_mem word hw)
      rw [joinWith]
      · simp only [List.append_assoc, List.singleton_append]
        rw [hmore, hih]
      · simp

/-- What a record says of a name if all its entries for that name agree. -/
theorem lookup_of_unique {entries : List (String × String)} {key value : String}
    (hmem : (key, value) ∈ entries) (hunique : ∀ other, (key, other) ∈ entries → other = value) :
    entries.lookup key = some value := by
  induction entries with
  | nil => simp at hmem
  | cons entry entries ih =>
    obtain ⟨k, v⟩ := entry
    by_cases hk : key = k
    · subst hk
      rw [List.lookup_cons_self, hunique v (by simp)]
    · have hrest : (key, value) ∈ entries := by
        simpa [hk] using hmem
      have hkey : (key == k) = false := beq_eq_false_iff_ne.2 hk
      rw [List.lookup_cons, hkey]
      exact ih hrest fun other hother => hunique other (List.mem_cons_of_mem _ hother)

/-! ## Prepared attributes -/

section Prepared

variable {tag : List Char} {attributes : List WrittenAttribute}

theorem mem_capitalNames {name : List Char} :
    name ∈ capitalNames attributes ↔
      ∃ a ∈ attributes, a.name = name ∧ name.any Char.isUpper = true := by
  unfold capitalNames
  rw [List.mem_filter, List.mem_map]
  constructor
  · rintro ⟨⟨a, ha, rfl⟩, hupper⟩
    exact ⟨a, ha, rfl, hupper⟩
  · rintro ⟨a, ha, rfl, hupper⟩
    exact ⟨⟨a, ha, rfl⟩, hupper⟩

theorem isSpelled_caseMarks (h : ∀ a ∈ attributes, a.IsSpelled) :
    ∀ a ∈ caseMarks attributes, a.IsSpelled := by
  have hjoin : ∀ names : List (List Char),
      (∀ name ∈ names, ∀ c ∈ name, WrittenAttribute.isValueChar c = true) →
        ∀ c ∈ joinWith [' '] names, WrittenAttribute.isValueChar c = true := by
    intro names hnames
    fun_induction joinWith [' '] names with
    | case1 => simp
    | case2 name => exact hnames name (by simp)
    | case3 name names _ ih =>
      intro c hc
      rcases List.mem_append.1 hc with hc | hc
      · rcases List.mem_append.1 hc with hc | hc
        · exact hnames name (by simp) c hc
        · rw [List.mem_singleton.1 hc]
          decide
      · exact ih (fun n hn => hnames n (List.mem_cons_of_mem name hn)) c hc
  have hnames : ∀ name ∈ capitalNames attributes,
      ∀ c ∈ name, WrittenAttribute.isValueChar c = true := by
    intro name hname c hc
    obtain ⟨a, ha, rfl, -⟩ := mem_capitalNames.1 hname
    have hharmless := (h a ha).harmless hc
    simp only [WrittenAttribute.isHarmless, Bool.and_eq_true] at hharmless
    exact hharmless.1.2
  intro a ha
  unfold caseMarks at ha
  split at ha
  · simp at ha
  · rw [List.mem_singleton.1 ha]
    have hall : ∀ c ∈ caseMarker.toList, WrittenAttribute.isNameChar c = true := by
      decide +kernel
    exact ⟨⟨'d', rfl, by decide⟩, hall, hjoin _ hnames⟩

theorem isSpelled_preparedAttributes (htag : IsTagText tag) (h : WellFormedAttributes attributes) :
    ∀ a ∈ preparedAttributes tag attributes, a.IsSpelled :=
  isSpelled_append (isSpelled_caseMarks h.isSpelled)
    (isSpelled_append htag.isSpelled_nameMarks h.isSpelled)

/-- The marker of attribute names keeps its name in lower case. -/
theorem lowered_name_of_mem_caseMarks :
    ∀ a ∈ caseMarks attributes, a.lowered.name = caseMarker := by
  have hmarker : String.ofList (caseMarker.toList.map Char.toLower) = caseMarker := by
    decide_cbv
  intro a ha
  unfold caseMarks at ha
  split at ha
  · simp at ha
  · rw [List.mem_singleton.1 ha]
    exact hmarker

/-- The marker of an element name keeps its name in lower case. -/
theorem lowered_name_of_mem_nameMarks : ∀ a ∈ nameMarks tag, a = spellingMark tag ∧
    a.lowered.name = nameMarker := by
  have hmarker : String.ofList (nameMarker.toList.map Char.toLower) = nameMarker := by
    decide_cbv
  have hsingle : ∀ a ∈ [spellingMark tag], a = spellingMark tag ∧ a.lowered.name = nameMarker := by
    intro a ha
    rw [List.mem_singleton.1 ha]
    exact ⟨rfl, hmarker⟩
  intro a ha
  unfold nameMarks selectMarks at ha
  split at ha
  · exact hsingle a ha
  · split at ha
    · exact hsingle a ha
    · simp at ha

theorem ofList_ne {cs : List Char} {s : String} (h : cs ≠ s.toList) : String.ofList cs ≠ s := by
  intro heq
  apply h
  rw [← heq, String.toList_ofList]

/-- The attributes of a template are no markers. -/
theorem lowered_name_ne (h : WellFormedAttributes attributes) :
    ∀ a ∈ attributes, a.lowered.name ≠ nameMarker ∧ a.lowered.name ≠ caseMarker := by
  intro a ha
  exact ⟨ofList_ne (h.each a ha).not_nameMarker, ofList_ne (h.each a ha).not_caseMarker⟩

theorem nameMarker_ne_caseMarker : nameMarker ≠ caseMarker := by
  decide_cbv

/-- The attributes of a prepared tag have distinct names. -/
theorem nodup_preparedAttributes (h : WellFormedAttributes attributes) :
    ((preparedAttributes tag attributes).map (·.lowered.name)).Nodup := by
  have hcase : ((caseMarks attributes).map (·.lowered.name)).Nodup := by
    unfold caseMarks
    split <;> simp
  have hname : ((nameMarks tag).map (·.lowered.name)).Nodup := by
    unfold nameMarks selectMarks
    split
    · simp
    · split <;> simp
  have hown : (attributes.map (·.lowered.name)).Nodup := by
    have hmap : attributes.map (·.lowered.name) =
        (attributes.map WrittenAttribute.lowerName).map String.ofList := by
      rw [List.map_map]
      rfl
    rw [hmap]
    exact List.Nodup.map (fun _ _ heq => String.ofList_injective heq) h.distinct
  unfold preparedAttributes
  rw [List.map_append, List.map_append, List.nodup_append, List.nodup_append]
  refine ⟨hcase, ⟨hname, hown, ?_⟩, ?_⟩
  · intro x hx y hy heq
    obtain ⟨a, ha, rfl⟩ := List.mem_map.1 hx
    obtain ⟨b, hb, rfl⟩ := List.mem_map.1 hy
    rw [(lowered_name_of_mem_nameMarks a ha).2] at heq
    exact (lowered_name_ne h b hb).1 heq.symm
  · intro x hx y hy heq
    obtain ⟨a, ha, rfl⟩ := List.mem_map.1 hx
    rw [lowered_name_of_mem_caseMarks a ha] at heq
    rcases List.mem_append.1 hy with hy | hy
    · obtain ⟨b, hb, rfl⟩ := List.mem_map.1 hy
      rw [(lowered_name_of_mem_nameMarks b hb).2] at heq
      exact nameMarker_ne_caseMarker heq.symm
    · obtain ⟨b, hb, rfl⟩ := List.mem_map.1 hy
      exact (lowered_name_ne h b hb).2 heq.symm

/-- The attributes that are read from a prepared tag. -/
def preparedTagAttributes (tag : List Char) (attributes : List WrittenAttribute) :
    List Attribute :=
  (preparedAttributes tag attributes).map WrittenAttribute.lowered

/-- The attributes of a prepared tag are read in order. -/
theorem scanAttributes_prepared (htag : IsTagText tag) (h : WellFormedAttributes attributes)
    (rest : List Char) :
    scanAttributes [] (writeAttributes (preparedAttributes tag attributes) ++ '>' :: rest) =
      some (preparedTagAttributes tag attributes, false, rest) := by
  have hdistinct : (([] : List Attribute).map (·.name) ++
      (preparedAttributes tag attributes).map (·.lowered.name)).Nodup := by
    simpa using nodup_preparedAttributes h
  have hscan := scanAttributes_append (isSpelled_preparedAttributes htag h) hdistinct rest
  simpa [preparedTagAttributes] using hscan

/-- The three parts of the attributes of a prepared tag are told apart by their names. -/
theorem filter_preparedTagAttributes (tag : List Char) (attributes : List WrittenAttribute)
    (p : String → Bool) :
    (preparedTagAttributes tag attributes).filter (fun a => p a.name) =
      (if p caseMarker then (caseMarks attributes).map WrittenAttribute.lowered else []) ++
        ((if p nameMarker then (nameMarks tag).map WrittenAttribute.lowered else []) ++
          (attributes.map WrittenAttribute.lowered).filter fun a => p a.name) := by
  have hconstant : ∀ (marks : List WrittenAttribute) (marker : String),
      (∀ a ∈ marks, a.lowered.name = marker) →
        (marks.map WrittenAttribute.lowered).filter (fun a => p a.name) =
          if p marker then marks.map WrittenAttribute.lowered else [] := by
    intro marks marker hmarks
    by_cases hp : p marker = true
    · rw [if_pos hp, List.filter_eq_self]
      intro a ha
      obtain ⟨b, hb, rfl⟩ := List.mem_map.1 ha
      rw [hmarks b hb, hp]
    · rw [if_neg hp, List.filter_eq_nil_iff]
      intro a ha
      obtain ⟨b, hb, rfl⟩ := List.mem_map.1 ha
      rw [hmarks b hb]
      exact hp
  rw [preparedTagAttributes, preparedAttributes, List.map_append, List.map_append,
    List.filter_append, List.filter_append, hconstant _ _ lowered_name_of_mem_caseMarks,
    hconstant _ _ fun a ha => (lowered_name_of_mem_nameMarks a ha).2]

/-! ## Recovered names -/

/-- The name of an element is recovered from its marker, or from its label if it has none. -/
theorem originalTag_of_marked (h : WellFormedAttributes attributes) {label : String}
    (hlabel : isCapitalTag tag = false → tag ≠ "select".toList → label = String.ofList tag) :
    Node.originalTag label (preparedTagAttributes tag attributes) = String.ofList tag := by
  have hfilter := filter_preparedTagAttributes tag attributes (· == nameMarker)
  have hown : (attributes.map WrittenAttribute.lowered).filter (fun a => a.name == nameMarker) =
      [] := by
    rw [List.filter_eq_nil_iff]
    intro a ha
    obtain ⟨b, hb, rfl⟩ := List.mem_map.1 ha
    simpa using (lowered_name_ne h b hb).1
  rw [hown] at hfilter
  simp only [beq_self_eq_true, if_true, beq_eq_false_iff_ne.2 nameMarker_ne_caseMarker.symm,
    Bool.false_eq_true, if_false, List.nil_append, List.append_nil] at hfilter
  unfold Node.originalTag
  rw [hfilter]
  by_cases hcapital : isCapitalTag tag = true
  · have hmarks : nameMarks tag = [spellingMark tag] := if_pos hcapital
    rw [hmarks]
    rfl
  · have hselect : nameMarks tag = selectMarks tag := if_neg hcapital
    by_cases hsel : tag = "select".toList
    · have hmarks : selectMarks tag = [spellingMark tag] := if_pos hsel
      rw [hselect, hmarks]
      rfl
    · have hmarks : selectMarks tag = [] := if_neg hsel
      rw [hselect, hmarks, hlabel (by simpa using hcapital) hsel]
      rfl

/-- The name of an element is recovered. -/
theorem originalTag_prepared (htag : IsCasedTag tag) (h : WellFormedAttributes attributes) :
    Node.originalTag (String.ofList ((neutralName tag).map Char.toLower))
      (preparedTagAttributes tag attributes) = String.ofList tag := by
  refine originalTag_of_marked h fun hcapital hselect => ?_
  have hlower := htag.casing.resolve_left (by simp [hcapital])
  rw [neutralName, if_neg hselect, map_toLower_of_not_isUpper hlower]

/-- The record of a prepared tag holds the names with capitals. -/
theorem mem_spellings_prepared (h : WellFormedAttributes attributes) {key value : String} :
    (key, value) ∈ Node.spellings (preparedTagAttributes tag attributes) ↔
      ∃ a ∈ attributes, a.name.any Char.isUpper = true ∧ key = a.lowered.name ∧
        value = String.ofList a.name := by
  have hfilter := filter_preparedTagAttributes tag attributes (· == caseMarker)
  have hown : (attributes.map WrittenAttribute.lowered).filter (fun a => a.name == caseMarker) =
      [] := by
    rw [List.filter_eq_nil_iff]
    intro a ha
    obtain ⟨b, hb, rfl⟩ := List.mem_map.1 ha
    simpa using (lowered_name_ne h b hb).2
  rw [hown] at hfilter
  simp only [beq_self_eq_true, if_true, beq_eq_false_iff_ne.2 nameMarker_ne_caseMarker,
    Bool.false_eq_true, if_false, List.append_nil] at hfilter
  have hnames : ((caseMarks attributes).map WrittenAttribute.lowered).flatMap
      (fun a => splitBlank a.value.toList) = capitalNames attributes := by
    have hwords : ∀ name ∈ capitalNames attributes,
        name ≠ [] ∧ ∀ c ∈ name, isBlank c = false := by
      intro name hname
      obtain ⟨a, ha, rfl, -⟩ := mem_capitalNames.1 hname
      refine ⟨(h.isSpelled a ha).name_ne_nil, fun c hc => ?_⟩
      have hharmless := (h.isSpelled a ha).harmless hc
      simp only [WrittenAttribute.isHarmless, isAttributeChar, Bool.and_eq_true,
        Bool.not_eq_true'] at hharmless
      exact hharmless.1.1.1.1
    have hsplit := splitBlank_joinWith (fun name hname => (hwords name hname).1)
      fun name hname => (hwords name hname).2
    unfold caseMarks
    split
    · rename_i hnil
      simp [hnil]
    · simpa [WrittenAttribute.lowered, WrittenAttribute.value] using hsplit
  unfold Node.spellings
  rw [hfilter, List.mem_reverse, hnames, List.mem_map]
  constructor
  · rintro ⟨name, hname, heq⟩
    obtain ⟨a, ha, rfl, hupper⟩ := mem_capitalNames.1 hname
    simp only [Prod.mk.injEq] at heq
    exact ⟨a, ha, hupper, heq.1.symm, heq.2.symm⟩
  · rintro ⟨a, ha, hupper, rfl, rfl⟩
    exact ⟨a.name, mem_capitalNames.2 ⟨a, ha, rfl, hupper⟩, rfl⟩

/-- The attributes of an element are recovered. -/
theorem originalAttributes_prepared (h : WellFormedAttributes attributes) :
    Node.originalAttributes (preparedTagAttributes tag attributes) =
      attributes.map WrittenAttribute.toAttribute := by
  have hfilter := filter_preparedTagAttributes tag attributes
    fun name => name != nameMarker && name != caseMarker
  have hown : (attributes.map WrittenAttribute.lowered).filter
      (fun a => a.name != nameMarker && a.name != caseMarker) =
      attributes.map WrittenAttribute.lowered := by
    rw [List.filter_eq_self]
    intro a ha
    obtain ⟨b, hb, rfl⟩ := List.mem_map.1 ha
    simpa using lowered_name_ne h b hb
  rw [hown] at hfilter
  simp only [bne_self_eq_false, Bool.and_false, Bool.false_and, Bool.false_eq_true, if_false,
    List.nil_append] at hfilter
  have hinjective : ∀ a ∈ attributes, ∀ b ∈ attributes, a.lowered.name = b.lowered.name → a = b := by
    intro a ha b hb heq
    exact List.inj_on_of_nodup_map h.distinct ha hb (String.ofList_injective heq)
  unfold Node.originalAttributes
  dsimp only
  rw [hfilter, List.map_map]
  apply List.map_congr_left
  intro a ha
  have hname : ((Node.spellings (preparedTagAttributes tag attributes)).lookup
      a.lowered.name).getD a.lowered.name = String.ofList a.name := by
    -- A name with capitals is looked up in the marker, and any other name is written as it is
    -- read.
    by_cases hupper : a.name.any Char.isUpper = true
    · have hmem : (a.lowered.name, String.ofList a.name) ∈
          Node.spellings (preparedTagAttributes tag attributes) :=
        (mem_spellings_prepared h).2 ⟨a, ha, hupper, rfl, rfl⟩
      have hlookup := lookup_of_unique hmem fun other hother => by
        obtain ⟨b, hb, -, hkey, hvalue⟩ := (mem_spellings_prepared h).1 hother
        rw [hvalue, hinjective a ha b hb hkey]
      rw [hlookup]
      rfl
    · have hlower : a.lowered.name = String.ofList a.name := by
        have hnone : ∀ c ∈ a.name, c.isUpper = false := by
          intro c hc
          by_contra hne
          simp only [Bool.not_eq_false] at hne
          exact hupper (List.any_eq_true.2 ⟨c, hc, hne⟩)
        simp [WrittenAttribute.lowered, WrittenAttribute.lowerName,
          map_toLower_of_not_isUpper hnone]
      have hlookup : (Node.spellings (preparedTagAttributes tag attributes)).lookup
          a.lowered.name = none := by
        rw [List.lookup_eq_none_iff]
        rintro ⟨key, value⟩ hmem
        obtain ⟨b, hb, hcapital, hkey, -⟩ := (mem_spellings_prepared h).1 hmem
        rw [bne_iff_ne]
        intro heq
        rw [hinjective a ha b hb (heq.trans hkey)] at hupper
        exact hupper hcapital
      rw [hlookup, Option.getD_none, hlower]
  simp only [Function.comp_apply]
  rw [hname]
  rfl

end Prepared

end TemplateImports.Template
