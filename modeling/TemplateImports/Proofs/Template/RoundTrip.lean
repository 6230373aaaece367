import TemplateImports.Proofs.Template.Reading
import TemplateImports.Proofs.Text.Occurrence
import TemplateImports.Template.Walk

/-!
# Reading a written template

A template that is written down is read back as the forest that was meant, whatever its depth and
width and however its tags are written.  Templates at the beginning of the forest stand in the head
of the document, everything else in its body; the wrappers vanish again.

Main results:

- Theorem `writesWrappers_writeAll` says that a written template has no wrappers of its own.
- Theorem `ofDocument_build` says what forest the document of a prepared template stands for.
- Theorem `parse_writeAll` says that a written template is read as the forest that was meant.
-/

namespace TemplateImports.Template

open Markup (Frame Builder Token plug)
open Markup.Builder (Ready)
open Text

/-! ## Characters of a written template -/

/-- Other characters do not become brackets in lower case. -/
theorem toLower_ne {c : Char} (h : c ≠ '<') : c.toLower ≠ '<' := by
  intro heq
  by_cases hupper : c.isUpper = true
  · have hascii : c.toNat < 128 :=
      toNat_lt_of_isAlphanum (by simp [Char.isAlphanum, Char.isAlpha, hupper])
    have hall := forall_ascii (p := fun c => !c.isUpper || c.toLower != '<') (by decide_cbv)
      hascii
    simp [hupper, heq] at hall
  · simp only [Bool.not_eq_true] at hupper
    rw [toLower_of_not_isUpper hupper] at heq
    exact h heq

/-- Text without brackets holds no start of a tag. -/
theorem hasInfix_text_append (word : List Char) {cs : List Char} (h : '<' ∉ cs)
    (rest : List Char) :
    hasInfix ('<' :: word) ((cs ++ rest).map Char.toLower) =
      hasInfix ('<' :: word) (rest.map Char.toLower) := by
  induction cs with
  | nil => rfl
  | cons c cs ih =>
    simp only [List.mem_cons, not_or] at h
    have hc : ('<' == c.toLower) = false :=
      beq_eq_false_iff_ne.2 (Ne.symm (toLower_ne (Ne.symm h.1)))
    rw [List.cons_append, List.map_cons, hasInfix, List.isPrefixOf_cons_cons, hc, ih h.2]
    rfl

/-- A tag starts with a word if its name does. -/
theorem hasInfix_tag_append {word cs : List Char} {c : Char} (hne : c.toLower ∉ word)
    (hcs : '<' ∉ cs) (rest : List Char) :
    hasInfix ('<' :: word) (('<' :: (cs ++ c :: rest)).map Char.toLower) =
      (word.isPrefixOf (cs.map Char.toLower) ||
        hasInfix ('<' :: word) ((c :: rest).map Char.toLower)) := by
  have hstart : ('<' :: word).isPrefixOf (('<' :: (cs ++ c :: rest)).map Char.toLower) =
      word.isPrefixOf (cs.map Char.toLower) := by
    rw [Bool.eq_iff_iff, List.isPrefixOf_iff_prefix, List.isPrefixOf_iff_prefix, List.map_cons,
      List.map_append, List.map_cons, show '<'.toLower = '<' from rfl, List.cons_prefix_cons]
    exact ⟨fun h => prefix_of_prefix_append_cons hne _ _ h.2,
      fun h => ⟨rfl, h.trans (List.prefix_append _ _)⟩⟩
  have hread := hasInfix_text_append word hcs (c :: rest)
  rw [List.map_cons] at hstart ⊢
  rw [hasInfix, hstart, hread]

/-- A start tag begins with a word if its name does: the word does not reach the attributes. -/
theorem hasInfix_opening_append {word tag : List Char} {attributes : List WrittenAttribute}
    {c : Char} (hword : ∀ c ∈ [' ', '/', '>'], c ∉ word) (htag : IsTagText tag)
    (hattributes : WellFormedAttributes attributes) (hc : c ∈ ['/', '>']) (rest : List Char) :
    hasInfix ('<' :: word)
        (('<' :: (tag ++ (writeAttributes attributes ++ c :: rest))).map Char.toLower) =
      (word.isPrefixOf (tag.map Char.toLower) ||
        hasInfix ('<' :: word) ((c :: rest).map Char.toLower)) := by
  have htext := htag.not_mem (show isTagChar '<' = false by decide)
  rcases writeAttributes_eq_nil_or_cons attributes with hnil | ⟨cs, hcs⟩
  · have hc' : c.toLower ∉ word := by
      simp only [List.mem_cons, List.not_mem_nil, or_false] at hc
      rcases hc with rfl | rfl
      · exact hword '/' (by simp)
      · exact hword '>' (by simp)
    rw [hnil]
    exact hasInfix_tag_append hc' htext rest
  · have hfree := open_not_mem_writeAttributes hattributes.isSpelled
    have hread := hasInfix_tag_append (c := ' ') (hword ' ' (by simp)) htext (cs ++ c :: rest)
    have hattrs := hasInfix_text_append word hfree (c :: rest)
    rw [hcs] at hattrs ⊢
    rw [← hattrs]
    exact hread

/-- An end tag holds no start of a tag. -/
theorem hasInfix_ending_append {word tag : List Char} (hne : word ≠ []) (hword : '/' ∉ word)
    (htag : IsTagText tag) (rest : List Char) :
    hasInfix ('<' :: word) (('<' :: '/' :: (tag ++ '>' :: rest)).map Char.toLower) =
      hasInfix ('<' :: word) (rest.map Char.toLower) := by
  have htext := htag.not_mem (show isTagChar '<' = false by decide)
  have hread := hasInfix_tag_append (c := '/') hword (show '<' ∉ ([] : List Char) by simp)
    (tag ++ '>' :: rest)
  have hnil : word.isPrefixOf (([] : List Char).map Char.toLower) = false := by
    cases word with
    | nil => exact absurd rfl hne
    | cons c word => rfl
  have hfree : '<' ∉ '/' :: (tag ++ ['>']) := by simp [htext]
  have hskip := hasInfix_text_append word hfree rest
  rw [hnil, Bool.false_or] at hread
  simp only [List.nil_append, List.cons_append, List.append_assoc] at hread hskip
  exact hread.trans hskip

/-- Whether some tag of a forest starts with a word, in any letter case. -/
def Written.startsTag (word : List Char) (ws : List Written) : Bool :=
  (tags ws).any fun tag => word.isPrefixOf (tag.map Char.toLower)

mutual

/-- The start of a tag stands in a written node, where one of its tags begins so, or behind it. -/
theorem hasInfix_write_append {word : List Char} (hne : word ≠ [])
    (hword : ∀ c ∈ [' ', '/', '>'], c ∉ word) {w : Written}
    (hw : w.MadeOf IsElementTag ('<' ∉ ·)) (rest : List Char) :
    hasInfix ('<' :: word) ((w.write ++ rest).map Char.toLower) =
      (w.tagsIn.any (fun tag => word.isPrefixOf (tag.map Char.toLower)) ||
        hasInfix ('<' :: word) (rest.map Char.toLower)) := by
  have hclose : ∀ rest, hasInfix ('<' :: word) (('>' :: rest).map Char.toLower) =
      hasInfix ('<' :: word) (rest.map Char.toLower) :=
    fun rest => hasInfix_text_append word (show '<' ∉ ['>'] by simp) rest
  cases w with
  | text cs =>
    rw [Written.write, hasInfix_text_append word hw]
    rfl
  | element tag attributes children =>
    obtain ⟨htag, hattributes, hchildren⟩ := hw
    simp only [Written.write, Written.tagsIn, List.cons_append, List.append_assoc,
      List.nil_append, List.any_cons]
    rw [hasInfix_opening_append hword htag.isTagText hattributes (by simp), hclose,
      hasInfix_writeAll_append hne hword hchildren,
      hasInfix_ending_append hne (hword '/' (by simp)) htag.isTagText, Bool.or_assoc,
      Written.startsTag]
  | closed tag attributes =>
    obtain ⟨htag, hattributes⟩ := hw
    have hslash := hasInfix_text_append word (show '<' ∉ ['/', '>'] by simp) rest
    simp only [Written.write, Written.tagsIn, List.cons_append, List.append_assoc,
      List.nil_append, List.any_cons, List.any_nil, Bool.or_false] at hslash ⊢
    rw [hasInfix_opening_append hword htag.isTagText hattributes (by simp), hslash]

/-- A word behind an opening bracket is the beginning of a tag. -/
theorem hasInfix_writeAll_append {word : List Char} (hne : word ≠ [])
    (hword : ∀ c ∈ [' ', '/', '>'], c ∉ word) {ws : List Written}
    (hws : Written.AllMadeOf IsElementTag ('<' ∉ ·) ws) (rest : List Char) :
    hasInfix ('<' :: word) ((Written.writeAll ws ++ rest).map Char.toLower) =
      (Written.startsTag word ws || hasInfix ('<' :: word) (rest.map Char.toLower)) := by
  cases ws with
  | nil => rfl
  | cons w ws =>
    rw [Written.writeAll, List.append_assoc, hasInfix_write_append hne hword hws.1,
      hasInfix_writeAll_append hne hword hws.2, ← Bool.or_assoc, Written.startsTag,
      Written.startsTag, Written.tags, List.any_append]

end

/-- A template is taken to write its own wrappers if one of its tags starts like one. -/
theorem writesWrappers_eq {ws : List Written}
    (hws : Written.AllMadeOf IsElementTag ('<' ∉ ·) ws) :
    writesWrappers (Written.writeAll ws) =
      (Written.startsTag "html".toList ws || Written.startsTag "body".toList ws) := by
  have hhtml := hasInfix_writeAll_append (show "html".toList ≠ [] by decide) (by decide) hws []
  have hbody := hasInfix_writeAll_append (show "body".toList ≠ [] by decide) (by decide) hws []
  have hmark : "<html".toList = '<' :: "html".toList ∧ "<body".toList = '<' :: "body".toList :=
    ⟨rfl, rfl⟩
  have hnone : hasInfix ('<' :: "html".toList) [] = false ∧
      hasInfix ('<' :: "body".toList) [] = false := by
    decide
  rw [List.append_nil, List.map_nil] at hhtml hbody
  unfold writesWrappers
  dsimp only
  rw [hmark.1, hmark.2, hhtml, hbody, hnone.1, hnone.2, Bool.or_false, Bool.or_false]

/-- A word that no tag starts with. -/
theorem Written.startsTag_eq_false {word : List Char} {ws : List Written}
    (h : ∀ tag ∈ tags ws, ¬ word <+: tag.map Char.toLower) : startsTag word ws = false := by
  rw [startsTag, List.any_eq_false]
  intro tag htag
  rw [List.isPrefixOf_iff_prefix]
  exact h tag htag

/-- A written template does not write its own wrappers. -/
theorem writesWrappers_writeAll {ws : List Written} (hws : Written.AllWellFormed ws) :
    writesWrappers (Written.writeAll ws) = false := by
  have htags : ∀ tag ∈ Written.tags ws, IsTag tag := fun _ htag => hws.madeOf.of_mem_tags htag
  rw [writesWrappers_eq hws.prepared,
    Written.startsTag_eq_false fun tag htag => (htags tag htag).not_html,
    Written.startsTag_eq_false fun tag htag => (htags tag htag).not_body]
  rfl

/-! ## Characters of a prepared template -/

/-- A character that occurs in no part of a template. -/
def IsForeignChar (c : Char) : Prop :=
  isTextChar c = false ∧ isTagChar c = false ∧ WrittenAttribute.isHarmless c = false ∧
    WrittenAttribute.isValueChar c = false ∧ c ∉ ['<', '/', '>', ' ', '=', '"']

instance (c : Char) : Decidable (IsForeignChar c) :=
  inferInstanceAs (Decidable (_ ∧ _))

theorem isForeignChar_return : IsForeignChar '\r' := by
  decide_cbv

/-- A prepared start tag holds no foreign character. -/
theorem not_mem_opening {c : Char} (hc : IsForeignChar c) {tag : List Char}
    {attributes : List WrittenAttribute} (htag : IsTagText tag)
    (hattributes : WellFormedAttributes attributes) :
    c ∉ Spelling.prepared.opening tag attributes := by
  obtain ⟨-, htagChar, hname, hvalue, hmark⟩ := hc
  intro hmem
  rcases List.mem_append.1 hmem with hmem | hmem
  · exact htag.isTagText_neutralName.not_mem htagChar hmem
  · refine not_mem_writeAttributes (isSpelled_preparedAttributes htag hattributes) hname
      hvalue ?_ hmem
    simp only [List.mem_cons, List.not_mem_nil, or_false, not_or] at hmark ⊢
    exact hmark.2.2.2

/-- A prepared end tag holds no foreign character. -/
theorem not_mem_ending {c : Char} (hc : IsForeignChar c) {tag : List Char}
    (htag : IsTagText tag) : c ∉ Spelling.prepared.ending tag :=
  htag.isTagText_neutralName.not_mem hc.2.1

mutual

/-- A prepared node holds no foreign character. -/
theorem not_mem_spell {c : Char} (hc : IsForeignChar c) {w : Written} (hw : w.WellFormed) :
    c ∉ w.spell .prepared := by
  have hmark := hc.2.2.2.2
  simp only [List.mem_cons, List.not_mem_nil, or_false, not_or] at hmark
  cases w with
  | text cs =>
    rw [Written.spell]
    exact IsWrittenText.not_mem hw hc.1
  | element tag attributes children =>
    obtain ⟨htag, hattributes, hchildren⟩ := hw
    have hopening := not_mem_opening hc htag.isElementTag.isTagText hattributes
    have hending := not_mem_ending hc htag.isElementTag.isTagText
    have hinner := not_mem_spellAll hc hchildren
    simp [Written.spell, hmark, hopening, hending, hinner]
  | closed tag attributes =>
    obtain ⟨htag, hattributes⟩ := hw
    have hopening := not_mem_opening hc htag.isElementTag.isTagText hattributes
    have hending := not_mem_ending hc htag.isElementTag.isTagText
    simp [Written.spell, hmark, hopening, hending]

/-- Prepared text holds no character that occurs in no part of it. -/
theorem not_mem_spellAll {c : Char} (hc : IsForeignChar c) {ws : List Written}
    (hws : Written.AllWellFormed ws) : c ∉ Written.spellAll .prepared ws := by
  cases ws with
  | nil => simp [Written.spellAll]
  | cons w ws =>
    obtain ⟨hw, -, hws⟩ := hws
    rw [Written.spellAll, List.mem_append, not_or]
    exact ⟨not_mem_spell hc hw, not_mem_spellAll hc hws⟩

end

/-- Text without returns keeps its line ends. -/
theorem normalizeNewlines_append_of_not_mem {cs : List Char} (h : '\r' ∉ cs) (rest : List Char) :
    Markup.normalizeNewlines (cs ++ rest) = cs ++ Markup.normalizeNewlines rest := by
  induction cs with
  | nil => rfl
  | cons c cs ih =>
    simp only [List.mem_cons, not_or] at h
    rw [List.cons_append, Markup.normalizeNewlines]
    · rw [ih h.2, List.cons_append]
    · rintro rest rfl
      exact fun _ => h.1 rfl
    · rintro rfl
      exact h.1 rfl

/-- A text without returns keeps its line ends. -/
theorem normalizeNewlines_of_not_mem {cs : List Char} (h : '\r' ∉ cs) :
    Markup.normalizeNewlines cs = cs := by
  have happ := normalizeNewlines_append_of_not_mem h []
  rwa [List.append_nil, Markup.normalizeNewlines, List.append_nil] at happ

theorem dropByteOrderMark_cons {c : Char} (h : c ≠ '\uFEFF') (cs : List Char) :
    Markup.dropByteOrderMark (c :: cs) = c :: cs := by
  unfold Markup.dropByteOrderMark
  split
  · rename_i heq
    exact absurd (List.cons.inj heq).1 h
  · rfl

/-- Prepared text starts with a tag or with a text, which is no byte order mark. -/
theorem dropByteOrderMark_spellAll {ws : List Written} (hws : Written.AllWellFormed ws) :
    Markup.dropByteOrderMark (Written.spellAll .prepared ws) = Written.spellAll .prepared ws := by
  cases ws with
  | nil => rfl
  | cons w ws =>
    obtain ⟨hw, -, -⟩ := hws
    cases w with
    | text cs =>
      have hwritten : IsWrittenText cs := hw
      cases cs with
      | nil =>
        obtain ⟨c, hc, -⟩ := hwritten.starts
        simp at hc
      | cons c cs =>
        refine dropByteOrderMark_cons ?_ _
        rintro rfl
        exact hwritten.not_mem (show isTextChar '\uFEFF' = false by decide) (by simp)
    | element tag attributes children => exact dropByteOrderMark_cons (by decide) _
    | closed tag attributes => exact dropByteOrderMark_cons (by decide) _

/-! ## The first token -/

/-- A text that does not start with NUL starts with a text token. -/
theorem textTokens_eq_cons {c : Char} (h : c ≠ '\x00') (cs : List Char) :
    ∃ ds tokens, Token.textTokens (c :: cs) = .text (c :: ds) :: tokens := by
  have hnul : (c == '\x00') = false := beq_eq_false_iff_ne.2 h
  simp only [Token.textTokens, hnul, Bool.false_eq_true, if_false]
  unfold Token.consText
  split
  · split
    · exact ⟨_, _, rfl⟩
    · exact ⟨_, _, rfl⟩
  · exact ⟨_, _, rfl⟩

/-- A prepared template begins like a fragment.  Unless it begins with a template it opens the
body. -/
theorem exists_startsWith {ws : List Written} (hws : Written.AllWellFormed ws) :
    ∃ token, Markup.Builder.StartsWith (Written.spellAll .prepared ws) token ∧
      Markup.Builder.BeginsFragment token ∧
      ((ws.head?.map Written.isTemplate).getD false = false → Markup.Builder.OpensBody token) := by
  cases ws with
  | nil => exact ⟨.eof, Or.inl ⟨rfl, rfl⟩, Or.inl trivial, fun _ => trivial⟩
  | cons w ws =>
    obtain ⟨hw, hnext, hws⟩ := hws
    -- An element begins with the same token whether it has content or not.
    have htag : ∀ {tag : List Char} {attributes : List WrittenAttribute}, IsElementTag tag →
        WellFormedAttributes attributes → ∀ rest,
          ∃ token, Markup.Builder.StartsWith
              ('<' :: (Spelling.prepared.opening tag attributes ++ '>' :: rest)) token ∧
            Markup.Builder.BeginsFragment token ∧
            ((tag == "template".toList) = false → Markup.Builder.OpensBody token) := by
      intro tag attributes htag hattributes rest
      have hread := next_opening htag.isTagText hattributes rest
      refine ⟨_, Or.inr ⟨by simp, [], rest, hread⟩, ?_⟩
      rcases htag.template_or_plain with htemplate | hplain
      · have hlabel : preparedLabel tag = "template" := by rw [htemplate, preparedLabel_template]
        exact ⟨Or.inr ⟨_, rfl, hlabel⟩, fun hne => absurd htemplate (beq_eq_false_iff_ne.1 hne)⟩
      · have hopens : Markup.Builder.OpensBody (.startTag (preparedTag tag attributes)) :=
          Markup.Builder.opensBody_of_isPlainLabel hplain
        exact ⟨Or.inl hopens, fun _ => hopens⟩
    cases w with
    | text cs =>
      have hwritten : IsWrittenText cs := hw
      have hstop : Stops Token.isPlain (Written.spellAll .prepared ws ++ []) :=
        stops_spellAll (hnext rfl) fun _ => stops_nil _
      rw [List.append_nil] at hstop
      have hread := next_written_text hwritten hstop
      obtain ⟨c, hc, hblank⟩ := hwritten.starts
      cases cs with
      | nil => simp at hc
      | cons d cs =>
        rw [List.head?_cons, Option.mem_some_iff] at hc
        subst hc
        have hnul : d ≠ '\x00' := by
          rintro rfl
          exact hwritten.not_mem (show isTextChar '\x00' = false by decide) (by simp)
        obtain ⟨ds, tokens, htokens⟩ := textTokens_eq_cons hnul cs
        have hopens : Markup.Builder.OpensBody (.text (d :: ds)) := by
          have hascii : isAsciiBlank d = false := by
            by_contra hascii
            simp only [Bool.not_eq_false] at hascii
            rw [isBlank_of_isAsciiBlank hascii] at hblank
            exact absurd hblank (by decide)
          simp [Markup.Builder.OpensBody, hascii]
        rw [htokens] at hread
        exact ⟨_, Or.inr ⟨by simp [Written.spellAll, Written.spell], tokens, _, hread⟩,
          Or.inl hopens, fun _ => hopens⟩
    | element tag attributes children =>
      have hread := htag hw.1.isElementTag hw.2.1 (Written.spellAll .prepared children ++
        '<' :: '/' :: (Spelling.prepared.ending tag ++ ['>']) ++ Written.spellAll .prepared ws)
      simpa [Written.spellAll, Written.spell, Written.isTemplate] using hread
    | closed tag attributes =>
      have hread := htag hw.1.isElementTag hw.2
        ('<' :: '/' :: (Spelling.prepared.ending tag ++ ['>']) ++ Written.spellAll .prepared ws)
      simpa [Written.spellAll, Written.spell, Written.isTemplate] using hread

/-! ## Whole templates -/

/-- Forests are spelled one behind the other. -/
theorem spellAll_append (s : Spelling) (first second : List Written) :
    Written.spellAll s (first ++ second) = Written.spellAll s first ++ Written.spellAll s second := by
  induction first with
  | nil => rfl
  | cons w first ih => simp [Written.spellAll, ih]

/-- Forests that are written behind each other stand behind each other. -/
theorem forest_append (first second : List Written) :
    Written.forest (first ++ second) = Written.forest first ++ Written.forest second := by
  induction first with
  | nil => rfl
  | cons w first ih => simp [Written.forest, ih]

/-- Parts of a well-formed forest are well-formed. -/
theorem allWellFormed_of_append {first second : List Written}
    (h : Written.AllWellFormed (first ++ second)) :
    Written.AllWellFormed first ∧ Written.AllWellFormed second := by
  induction first with
  | nil => exact ⟨trivial, h⟩
  | cons w first ih =>
    obtain ⟨hw, hnext, hrest⟩ := h
    obtain ⟨hfirst, hsecond⟩ := ih hrest
    refine ⟨⟨hw, fun htext => ?_, hfirst⟩, hsecond⟩
    cases first with
    | nil => rfl
    | cons w' first => exact hnext htext

/-- A document with the implied wrappers stands for the content of its head and its body. -/
theorem ofDocument_wrapped (b : Builder) (head body : List Markup.Node) :
    Node.ofDocument false (plug [Markup.Builder.Ready.impliedBody b Markup.Builder.impliedHead head,
      Markup.Builder.impliedRoot] body) =
      Node.ofDocument false head ++ Node.ofDocument false body := by
  have hlabels : Node.isWrapper "html" = true ∧ Node.isWrapper "head" = true ∧
      Node.isWrapper "body" = true := by
    decide
  have htemplate : ("html" == "template") = false ∧ ("head" == "template") = false ∧
      ("body" == "template") = false := by
    decide
  simp [plug, Markup.Builder.Ready.impliedBody, Markup.Builder.impliedHead,
    Markup.Builder.impliedRoot, Frame.node, Frame.isTemplate, Node.ofDocument, Node.ofNode, hlabels,
    htemplate]

/-- A forest has templates at its front, perhaps none, and another node behind them. -/
theorem exists_leading_templates (ws : List Written) :
    ∃ leading others, ws = leading ++ others ∧ (∀ w ∈ leading, w.isTemplate = true) ∧
      (others.head?.map Written.isTemplate).getD false = false := by
  refine ⟨ws.takeWhile Written.isTemplate, ws.dropWhile Written.isTemplate,
    List.takeWhile_append_dropWhile.symm, fun w hw => ?_, ?_⟩
  · exact List.all_eq_true.1 List.all_takeWhile w hw
  · cases hd : ws.dropWhile Written.isTemplate with
    | nil => rfl
    | cons w rest =>
      have hne := List.head_dropWhile_not Written.isTemplate (l := ws) (by simp [hd])
      simpa [hd] using hne

/-- No text stands at the end of templates. -/
theorem getLast?_isText_of_templates {leading : List Written}
    (h : ∀ w ∈ leading, w.isTemplate = true) :
    (leading.getLast?.map Written.isText).getD false = false := by
  cases hl : leading.getLast? with
  | none => rfl
  | some w =>
    have htemplate := h w (List.mem_of_getLast? hl)
    cases w with
    | text cs => simp [Written.isTemplate] at htemplate
    | element tag attributes children => rfl
    | closed tag attributes => rfl

/-- The document of a prepared template stands for the forest that was meant.  Templates at the
beginning stand in the head, everything from the first other node on in the body. -/
theorem ofDocument_build {ws : List Written} (hws : Written.AllWellFormed ws) :
    Node.ofDocument false (Builder.build {} (Written.spellAll .prepared ws)).document =
      Written.forest ws := by
  obtain ⟨token, hstarts, hbegins, -⟩ := exists_startsWith hws
  obtain ⟨leading, others, rfl, htemplates, hopens⟩ := exists_leading_templates ws
  obtain ⟨hfirst, hsecond⟩ := allWellFormed_of_append hws
  obtain ⟨token', hstarts', -, hopens'⟩ := exists_startsWith hsecond
  have hlast : (leading.getLast?.map Written.isText).getD false = true →
      Stops Token.isPlain (Written.spellAll .prepared others) := by
    rw [getLast?_isText_of_templates htemplates]
    exact fun hfalse => absurd hfalse (by decide)
  -- The templates at the beginning are read inside the head.
  obtain ⟨b₁, nodes₁, hadds₁⟩ := build_spellAll hfirst Markup.Builder.ready_headState
    (fun _ => htemplates) (fun _ => rfl) hlast
  have hready₁ : Ready b₁ Markup.Builder.impliedHead [Markup.Builder.impliedRoot] nodes₁ := by
    simpa using hadds₁.ready
  have hmode₁ : b₁.mode = .inHead := hadds₁.mode_iff.2 rfl
  have hmodes₁ : b₁.templateModes = [] := List.isEmpty_iff.1 hadds₁.kept.modesEmpty
  -- The first other node opens the body, and all nodes that follow stand there.
  have hready₂ := hready₁.ready_enterBody
  have hmode₂ : (Markup.Builder.Ready.enterBody b₁).mode ≠ .inHead := by
    simp [Markup.Builder.Ready.enterBody]
  have hnil : (others.getLast?.map Written.isText).getD false = true → Stops Token.isPlain [] :=
    fun _ => stops_nil _
  obtain ⟨b₃, nodes₂, hadds₂⟩ := build_spellAll hsecond hready₂ (fun hhead => absurd hhead hmode₂)
    (fun _ => rfl) hnil
  have hready₃ : Ready b₃ (Markup.Builder.Ready.impliedBody b₁ Markup.Builder.impliedHead nodes₁)
      [Markup.Builder.impliedRoot] nodes₂ := by
    simpa using hadds₂.ready
  have hmode₃ : b₃.mode = .inBody :=
    hready₃.mode_eq_inBody_of_ne (show "body" ≠ "template" by decide)
      (show "body" ≠ "head" by decide)
  have hmodes₃ : b₃.templateModes = [] := by
    have hempty := hadds₂.kept.modesEmpty
    rw [show (Markup.Builder.Ready.enterBody b₁).templateModes = [] from hmodes₁] at hempty
    exact List.isEmpty_iff.1 hempty
  have hbuild := hadds₂.build_eq
  rw [List.append_nil] at hbuild
  rw [Markup.Builder.build_headState hstarts hbegins, spellAll_append, hadds₁.build_eq,
    hready₁.build_enterBody hmode₁ hmodes₁ hstarts' (hopens' hopens), hbuild,
    hready₃.build_nil_document hmode₃ hmodes₃, ofDocument_wrapped, hadds₁.ofDocument_eq,
    hadds₂.ofDocument_eq, ← forest_append]

/-- A written template is read as the forest that was meant: the same elements with their names and
attributes as they were spelled, the same texts, and nothing else. -/
theorem parse_writeAll (ws : List Written) (hws : Written.AllWellFormed ws) :
    parse (String.ofList (Written.writeAll ws)) = Written.forest ws := by
  have hreturn : '\r' ∉ Written.spellAll .prepared ws :=
    not_mem_spellAll isForeignChar_return hws
  unfold parse
  rw [String.toList_ofList, writesWrappers_writeAll hws, prepare_writeAll hws.prepared,
    Markup.Document.parse, dropByteOrderMark_spellAll hws, normalizeNewlines_of_not_mem hreturn]
  exact ofDocument_build hws

/-- A template at the beginning, a selection that holds a component, and a component around texts and
a self-closed element. -/
theorem parse_writeAll_mixed :
    let ws : List Written :=
      [.element "template".toList [.bare "#header".toList] [.text "a > b".toList],
        .element "select".toList [.quoted "v-model".toList "x/y".toList]
          [.closed "v-option".toList [.quoted ":itemKey".toList "it's".toList]],
        .element "VBtn".toList []
          [.text "ok".toList, .closed "div".toList [], .text "!".toList]]
    Written.AllWellFormed ws ∧ parse (String.ofList (Written.writeAll ws)) = Written.forest ws := by
  intro ws
  have hws : Written.AllWellFormed ws := by decide +kernel
  exact ⟨hws, parse_writeAll ws hws⟩

/-- An attribute with the name of a marker in another letter case is taken for the marker: its value
becomes the name of the element. -/
theorem parse_capital_marker :
    let a : WrittenAttribute := .quoted "Data-usage-orig-name".toList ['x']
    let w : Written := .element "div".toList [a] []
    IsTag "div".toList ∧ a.IsSpelled ∧ a.name ≠ nameMarker.toList ∧ a.name ≠ caseMarker.toList ∧
      parse (String.ofList (Written.writeAll [w])) ≠ Written.forest [w] := by
  intro a w
  refine ⟨by decide_cbv, ⟨⟨'D', rfl, by decide⟩, by decide +kernel, by decide⟩,
    by decide_cbv, by decide +kernel, ?_⟩
  have hwalk : Node.walk (fun _ => false) 0 (parse (String.ofList (Written.writeAll [w]))) ≠
      Node.walk (fun _ => false) 0 (Written.forest [w]) := by
    decide +kernel
  intro heq
  exact hwalk (congrArg (Node.walk (fun _ => false) 0) heq)

end TemplateImports.Template
