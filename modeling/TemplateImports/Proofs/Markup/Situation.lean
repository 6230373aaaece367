import TemplateImports.Markup.Construction.Modes
import TemplateImports.Proofs.Markup.BodyGrowth

/-!
# The situation of a construction

The part of a state that says how the next token is looked at: the mode, the modes to return to, how
text is cut, and the head.  Closing, inserting and remembering elements leaves the situation as it
is; only templates, tables and elements whose content is text change it.

Main results:

- Structure `Situation` is that part of a state.
- Definition `Situation.afterStart` says what a start tag of ordinary content makes of a situation.
- Theorem `situation_startBody`, theorem `exists_endBody` and theorem `situation_flushTableText`
  follow the situation through ordinary content and through collected text.
-/

namespace TemplateImports.Markup

open Text

/-- How the next token is looked at. -/
structure Situation where
  mode : InsertionMode
  returnMode : InsertionMode
  templateModes : List InsertionMode
  content : ContentMode
  head : Option OpenElement

/-- The situation of a state. -/
def Builder.situation (b : Builder) : Situation :=
  ⟨b.mode, b.returnMode, b.templateModes, b.content, b.head⟩

/-! ## Start tags -/

/-- How the content of an element is cut whose content is text. -/
def rawContents : List (String × ContentMode) :=
  [("title", .rcdata "title"), ("textarea", .rcdata "textarea"), ("style", .rawtext "style"),
   ("xmp", .rawtext "xmp"), ("iframe", .rawtext "iframe"), ("noembed", .rawtext "noembed"),
   ("noframes", .rawtext "noframes"), ("noscript", .rawtext "noscript"), ("script", .script)]

/-- Labels of elements that decide about the content around them. -/
def disruptiveLabels : List String :=
  ["html", "head", "body", "frameset", "frame", "col", "colgroup", "select", "plaintext", "svg",
   "math"]

namespace Situation

/-- The situation inside an element whose content is text. -/
def reading (s : Situation) (content : ContentMode) : Situation :=
  { s with mode := .text, returnMode := s.mode, content }

/-- The situation inside a template. -/
def inside (s : Situation) : Situation :=
  { s with mode := .inTemplate, templateModes := .inTemplate :: s.templateModes }

/-- The situation behind a start tag of ordinary content. -/
def afterStart (s : Situation) (label : String) : Situation :=
  match rawContents.lookup label with
  | some content => s.reading content
  | none =>
    if label = "table" then { s with mode := .inTable }
    else if label = "template" then s.inside
    else s

end Situation

namespace Builder

variable {b : Builder}

/-! ## Elements -/

@[simp] theorem situation_pop : b.pop.situation = b.situation := rfl

@[simp] theorem situation_popThrough (test : ElementName → Bool) :
    (b.popThrough test).situation = b.situation := rfl

@[simp] theorem situation_popInside (test : ElementName → Bool) :
    (b.popInside test).situation = b.situation := rfl

@[simp] theorem situation_popThroughLabel (label : String) :
    (b.popThroughLabel label).situation = b.situation := rfl

@[simp] theorem situation_closeImplied (labels : List String) :
    (b.closeImplied labels).situation = b.situation := rfl

@[simp] theorem situation_closeImpliedExcept (label : String) :
    (b.closeImpliedExcept label).situation = b.situation := rfl

@[simp] theorem situation_dropOpen (id : Nat) : (b.dropOpen id).situation = b.situation := rfl

@[simp] theorem situation_closeParagraph : b.closeParagraph.situation = b.situation := rfl

@[simp] theorem situation_insertText (cs : List Char) :
    (b.insertText cs).situation = b.situation := rfl

@[simp] theorem situation_insertComment (value : String) :
    (b.insertComment value).situation = b.situation := rfl

@[simp] theorem situation_insertElement (name : ElementName) (attributes : List Attribute) :
    (b.insertElement name attributes).situation = b.situation := rfl

@[simp] theorem situation_insertTag (tag : Tag) : (b.insertTag tag).situation = b.situation := rfl

@[simp] theorem situation_insertLabel (label : String) :
    (b.insertLabel label).situation = b.situation := rfl

@[simp] theorem situation_insertVoid (tag : Tag) : (b.insertVoid tag).situation = b.situation := rfl

/-- An element for raw text starts its reading. -/
@[simp] theorem situation_insertTextElement (tag : Tag) (content : ContentMode) :
    (b.insertTextElement tag content).situation = b.situation.reading content := rfl

/-- A template starts a situation of its own. -/
@[simp] theorem situation_openTemplate (tag : Tag) :
    (b.openTemplate tag).situation = b.situation.inside := rfl

@[simp] theorem situation_forbidFrameset : b.forbidFrameset.situation = b.situation := rfl

@[simp] theorem situation_forget (id : Nat) : (b.forget id).situation = b.situation := rfl

@[simp] theorem situation_pushMarker : b.pushMarker.situation = b.situation := rfl

@[simp] theorem situation_clearToMarker : b.clearToMarker.situation = b.situation := rfl

/-- What only changes other parts of a state may be done or not. -/
theorem situation_ite {c : Prop} [Decidable c] {b' b'' : Builder}
    (h' : b'.situation = b.situation) (h'' : b''.situation = b.situation) :
    (if c then b' else b'').situation = b.situation := by
  split
  · exact h'
  · exact h''

@[simp] theorem situation_closeParagraphInScope :
    b.closeParagraphInScope.situation = b.situation :=
  situation_ite rfl rfl

/-- Closing a block leaves the situation as it is. -/
@[simp] theorem situation_closeBlock (label : String) :
    (b.closeBlock label).situation = b.situation :=
  situation_ite rfl rfl

/-! ## Remembered elements -/

/-- Opening remembered elements again leaves the situation as it is. -/
@[simp] theorem situation_reopen (entries : List Formatting) :
    (b.reopen entries).situation = b.situation := by
  induction entries generalizing b with
  | nil => rfl
  | cons entry entries ih =>
    cases entry with
    | marker => exact ih
    | element e => exact ih

@[simp] theorem situation_reconstruct : b.reconstruct.situation = b.situation :=
  situation_reopen _

/-- Remembering a formatting element leaves the situation as it is. -/
@[simp] theorem situation_insertFormatting (tag : Tag) :
    (b.insertFormatting tag).situation = b.situation := by
  unfold insertFormatting
  have hforget : ∀ equal : List OpenElement,
      (if 3 ≤ equal.length then (equal.getLast?.map fun f => b.forget f.id).getD b
        else b).situation = b.situation := by
    intro equal
    refine situation_ite ?_ rfl
    cases equal.getLast? with
    | none => rfl
    | some f => rfl
  exact hforget _

/-- An end tag without rules of its own leaves the situation as it is. -/
@[simp] theorem situation_endOrdinary (label : String) :
    (b.endOrdinary label).situation = b.situation := by
  unfold endOrdinary
  split
  · exact situation_ite rfl rfl
  · rfl

/-- The loop over the elements in between leaves the situation as it is. -/
theorem situation_rebuildBetween (r : Rebuilding) (count : Nat) (es : List OpenElement) :
    (rebuildBetween r count es).builder.situation = r.builder.situation := by
  induction es generalizing r count with
  | nil => rfl
  | cons e es ih =>
    unfold rebuildBetween
    split
    · exact ih _ _
    · split
      · exact ih _ _
      · exact ih _ _

/-- Rebuilding a formatting element leaves the situation as it is. -/
@[simp] theorem situation_rebuild (e block : OpenElement) (inner between outer : List OpenElement) :
    (b.rebuild e block inner between outer).situation = b.situation := by
  unfold rebuild
  dsimp only
  split
  · exact situation_rebuildBetween _ _ _
  · exact situation_rebuildBetween _ _ _

/-- Closing a formatting element leaves the situation as it is, however often it is rebuilt. -/
theorem situation_endFormattingLoop (label : String) (n : Nat) :
    (endFormattingLoop label n b).situation = b.situation := by
  induction n generalizing b with
  | zero => rfl
  | succ n ih =>
    unfold endFormattingLoop
    split
    · exact situation_endOrdinary label
    · dsimp only
      split
      · rfl
      · refine situation_ite rfl ?_
        split
        · rfl
        · exact ih.trans (situation_rebuild _ _ _ _ _)

/-- The end tag of a formatting element leaves the situation as it is. -/
@[simp] theorem situation_endFormatting (label : String) :
    (b.endFormatting label).situation = b.situation := by
  unfold endFormatting
  split
  · exact situation_ite rfl (situation_endFormattingLoop label 8)
  · rfl

/-- Closing an open anchor leaves the situation as it is. -/
@[simp] theorem situation_closeAnchor : b.closeAnchor.situation = b.situation := by
  unfold closeAnchor
  split
  · exact situation_endFormatting "a"
  · rfl

/-! ## Ordinary content -/

/-- Opening an item of a list leaves the situation as it is. -/
@[simp] theorem situation_openItem (tag : Tag) (labels : List String) :
    (b.openItem tag labels).situation = b.situation := by
  unfold openItem
  dsimp only
  cases endedItem? labels b.forbidFrameset.stack with
  | none => simp
  | some label => simp

/-- Closing a form leaves the situation as it is. -/
@[simp] theorem situation_closeForm : b.closeForm.situation = b.situation := by
  unfold closeForm
  refine situation_ite (situation_closeBlock "form") ?_
  split
  · rfl
  · exact situation_ite rfl rfl

/-- Labels whose start tags change the situation. -/
def shiftingLabels : List String :=
  rawContents.map (·.1) ++ ["table", "template"]

/-- Rules that start tags of these labels follow. -/
def shiftingRules : List StartRule :=
  [.headContent, .textarea, .example, .frame, .rawtext, .table]

/-- Only the start tags of shifting labels change the situation. -/
theorem afterStart_of_not_mem {label : String} (h : label ∉ shiftingLabels) (s : Situation) :
    s.afterStart label = s := by
  simp only [shiftingLabels, List.mem_append, List.mem_cons, List.not_mem_nil, or_false,
    not_or] at h
  have hlookup : rawContents.lookup label = none := by
    rw [List.lookup_eq_none_iff]
    intro entry hentry
    rw [bne_iff_ne]
    rintro rfl
    exact h.1 (List.mem_map_of_mem hentry)
  rw [Situation.afterStart, hlookup]
  simp [h.2]

/-- Only start tags with shifting rules change the situation. -/
theorem afterStart_of_rule {label : String} (h : startRule label ∉ shiftingRules)
    (s : Situation) : s.afterStart label = s := by
  have htable : ∀ label ∈ shiftingLabels, startRule label ∈ shiftingRules := by decide
  exact afterStart_of_not_mem (fun hmem => h (htable label hmem)) s

/-- Whether a label has what the labels that follow a rule have in common. -/
def admits (r : StartRule) (label : String) : Bool :=
  match r with
  | .headContent => decide (label ∈ headLabels)
  | .textarea => decide (rawContents.lookup label = some (.rcdata label))
  | .example => decide (rawContents.lookup label = some (.rawtext label))
  | .frame => decide (rawContents.lookup label = some (.rawtext label))
  | .rawtext => decide (rawContents.lookup label = some (.rawtext label))
  | .table => decide (label = "table")
  | .root => decide (label ∈ disruptiveLabels)
  | .body => decide (label ∈ disruptiveLabels)
  | .frameset => decide (label ∈ disruptiveLabels)
  | .plaintext => decide (label ∈ disruptiveLabels)
  | .select => decide (label ∈ disruptiveLabels)
  | .math => decide (label ∈ disruptiveLabels)
  | .graphics => decide (label ∈ disruptiveLabels)
  | _ => true

/-- The rule of a start tag admits its label. -/
theorem admits_startRule (label : String) : admits (startRule label) label = true := by
  have htable : ∀ entry ∈ startRules, admits entry.2 entry.1 = true := by decide
  by_cases h : startRule label = .ordinary
  · rw [h]
    rfl
  · exact htable _ (mem_startRules h)

/-- Content of the head changes the situation as its start tag does. -/
theorem situation_headElement {tag : Tag} (h : tag.name ∈ headLabels) :
    (b.headElement tag).situation = b.situation.afterStart tag.name := by
  unfold headElement
  split
  · rename_i hname
    rw [hname]
    rfl
  · rename_i hname
    rw [hname]
    rfl
  · rename_i hname
    rw [hname]
    rfl
  · rename_i hname
    rw [hname]
    rfl
  · rename_i hname
    rw [hname]
    rfl
  · rename_i htitle hnoframes hstyle hscript htemplate
    rw [afterStart_of_not_mem]
    · exact situation_insertVoid tag
    · have htable : ∀ label ∈ headLabels, label ∈ shiftingLabels →
          label ∈ ["title", "noframes", "style", "script", "template"] := by decide
      intro hmem
      have hshift := htable tag.name h hmem
      simp only [List.mem_cons, List.not_mem_nil, or_false] at hshift
      exact hshift.elim htitle fun h => h.elim hnoframes fun h => h.elim hstyle fun h =>
        h.elim hscript htemplate

/-- A start tag of ordinary content changes the situation as its label says. -/
theorem situation_startBody {tag : Tag} (h : tag.name ∉ disruptiveLabels) :
    (b.startBody tag).situation = b.situation.afterStart tag.name := by
  have hadmits : ∀ {r : StartRule}, startRule tag.name = r → admits r tag.name = true :=
    fun hr => hr ▸ admits_startRule tag.name
  have hsame : ∀ {r : StartRule} {b' : Builder}, startRule tag.name = r →
      r ∉ shiftingRules → b'.situation = b.situation →
        b'.situation = b.situation.afterStart tag.name := by
    intro r b' hrule hnot hb'
    rw [afterStart_of_rule (by rw [hrule]; exact hnot), hb']
  have hraw : ∀ {b' : Builder} {content : ContentMode}, b'.situation = b.situation →
      rawContents.lookup tag.name = some content →
        (b'.insertTextElement tag content).situation = b.situation.afterStart tag.name := by
    intro b' content hb' hlookup
    rw [Situation.afterStart, hlookup, situation_insertTextElement, hb']
  -- Only the rules for raw text, templates and tables change the situation.  The first cases are
  -- ruled out by the label.
  unfold Builder.startBody
  cases hcase : startRule tag.name with
  | root => exact absurd (of_decide_eq_true (hadmits hcase)) h
  | body => exact absurd (of_decide_eq_true (hadmits hcase)) h
  | frameset => exact absurd (of_decide_eq_true (hadmits hcase)) h
  | plaintext => exact absurd (of_decide_eq_true (hadmits hcase)) h
  | select => exact absurd (of_decide_eq_true (hadmits hcase)) h
  | math => exact absurd (of_decide_eq_true (hadmits hcase)) h
  | graphics => exact absurd (of_decide_eq_true (hadmits hcase)) h
  | headContent =>
    exact situation_headElement (of_decide_eq_true (hadmits hcase))
  | textarea =>
    exact hraw rfl (of_decide_eq_true (hadmits hcase))
  | «example» =>
    exact hraw (by simp) (of_decide_eq_true (hadmits hcase))
  | frame =>
    exact hraw rfl (of_decide_eq_true (hadmits hcase))
  | rawtext =>
    exact hraw rfl (of_decide_eq_true (hadmits hcase))
  | table =>
    have hname : tag.name = "table" := of_decide_eq_true (hadmits hcase)
    have hb' : (if b.quirky then b else b.closeParagraphInScope).situation = b.situation :=
      situation_ite rfl (by simp)
    have htable : b.situation.afterStart "table" = { b.situation with mode := .inTable } := rfl
    rw [hname, htable]
    exact congrArg (fun s : Situation => { s with mode := .inTable }) hb'
  | form =>
    refine hsame hcase (by decide) (situation_ite (by simp) (situation_ite rfl ?_))
    exact situation_closeParagraphInScope
  | preformatted => exact hsame hcase (by decide) situation_closeParagraphInScope
  | block => exact hsame hcase (by decide) (by simp)
  | heading =>
    refine hsame hcase (by decide) ?_
    rw [situation_insertTag, ← situation_closeParagraphInScope (b := b)]
    exact situation_ite rfl rfl
  | listItem => exact hsame hcase (by decide) (by simp)
  | definition => exact hsame hcase (by decide) (by simp)
  | button =>
    refine hsame hcase (by decide) ?_
    rw [situation_forbidFrameset, situation_insertTag, situation_reconstruct]
    exact situation_ite rfl rfl
  | anchor => exact hsame hcase (by decide) (by simp)
  | formatting => exact hsame hcase (by decide) (by simp)
  | unbroken =>
    refine hsame hcase (by decide) ?_
    rw [situation_insertFormatting]
    exact (situation_ite (by simp) rfl).trans situation_reconstruct
  | marked => exact hsame hcase (by decide) (by simp)
  | void => exact hsame hcase (by decide) (by simp)
  | input => exact hsame hcase (by decide) (situation_ite (by simp) (by simp))
  | resource => exact hsame hcase (by decide) (by simp)
  | rule => exact hsame hcase (by decide) (by simp)
  | image => exact hsame hcase (by decide) (by simp)
  | choice =>
    refine hsame hcase (by decide) ?_
    rw [situation_insertTag, situation_reconstruct]
    exact situation_ite rfl rfl
  | rubyBase =>
    refine hsame hcase (by decide) ?_
    rw [situation_insertTag]
    exact situation_ite rfl rfl
  | rubyText =>
    refine hsame hcase (by decide) ?_
    rw [situation_insertTag]
    exact situation_ite rfl rfl
  | ignored => exact hsame hcase (by decide) rfl
  | ordinary => exact hsame hcase (by decide) (by simp)

/-- A label with a rule of its own for end tags is in the table. -/
theorem mem_endRules {label : String} (h : endRule label ≠ .ordinary) :
    (label, endRule label) ∈ endRules := by
  unfold endRule at h ⊢
  cases hlookup : endRules.lookup label with
  | none => exact absurd (by rw [hlookup]; rfl) h
  | some r =>
    obtain ⟨before, after, heq, -⟩ := List.lookup_eq_some_iff.1 hlookup
    rw [heq]
    exact List.mem_append_right _ List.mem_cons_self

/-- Whether a label has what the labels that follow a rule for end tags have in common. -/
def admitsEnd (r : EndRule) (label : String) : Bool :=
  match r with
  | .template => decide (label = "template")
  | .body => decide (label ∈ disruptiveLabels)
  | .root => decide (label ∈ disruptiveLabels)
  | _ => true

/-- The rule of an end tag admits its label. -/
theorem admitsEnd_endRule (label : String) : admitsEnd (endRule label) label = true := by
  have htable : ∀ entry ∈ endRules, admitsEnd entry.2 entry.1 = true := by decide
  by_cases h : endRule label = .ordinary
  · rw [h]
    rfl
  · exact htable _ (mem_endRules h)

/-- An end tag of ordinary content leaves the situation as it is, unless it closes a template. -/
theorem exists_endBody {tag : Tag} (h : tag.name ∉ disruptiveLabels) :
    ∃ b', b.endBody tag = .done b' ∧ (b' = b.closeTemplate ∨ b'.situation = b.situation) := by
  have hadmits : ∀ {r : EndRule}, endRule tag.name = r → admitsEnd r tag.name = true :=
    fun hr => hr ▸ admitsEnd_endRule tag.name
  unfold Builder.endBody
  cases hcase : endRule tag.name with
  | template => exact ⟨_, rfl, Or.inl rfl⟩
  | body => exact absurd (of_decide_eq_true (hadmits hcase)) h
  | root => exact absurd (of_decide_eq_true (hadmits hcase)) h
  | block => exact ⟨_, rfl, Or.inr (situation_closeBlock tag.name)⟩
  | form => exact ⟨_, rfl, Or.inr situation_closeForm⟩
  | paragraph => exact ⟨_, rfl, Or.inr (situation_ite rfl rfl)⟩
  | item => exact ⟨_, rfl, Or.inr (situation_ite rfl rfl)⟩
  | heading => exact ⟨_, rfl, Or.inr (situation_ite rfl rfl)⟩
  | formatting => exact ⟨_, rfl, Or.inr (situation_endFormatting tag.name)⟩
  | marked => exact ⟨_, rfl, Or.inr (situation_ite rfl rfl)⟩
  | lineBreak => exact ⟨_, rfl, Or.inr (by simp)⟩
  | ordinary => exact ⟨_, rfl, Or.inr (situation_endOrdinary tag.name)⟩

/-! ## Text -/

/-- Text in ordinary content is handled at once, and the situation stays. -/
theorem exists_inBody_text (cs : List Char) :
    ∃ b', b.inBody (.text cs) = .done b' ∧ b'.situation = b.situation := by
  refine ⟨_, rfl, ?_⟩
  rw [situation_insertText, ← situation_reconstruct (b := b)]
  exact situation_ite rfl rfl

/-- Text before a table leaves the situation as it is. -/
theorem situation_fosterText (texts : List (List Char)) :
    (b.fosterText texts).situation = b.situation := by
  induction texts generalizing b with
  | nil => rfl
  | cons cs texts ih =>
    obtain ⟨b', hstep, hb'⟩ := exists_inBody_text (b := { b with fosters := true }) cs
    unfold fosterText inBodyFostered
    rw [hstep]
    exact ih.trans hb'

/-- Text in pieces leaves the situation as it is. -/
theorem situation_foldl_insertText (texts : List (List Char)) :
    (texts.foldl insertText b).situation = b.situation := by
  induction texts generalizing b with
  | nil => rfl
  | cons cs texts ih => exact ih

/-- Collected text leaves the situation as it is when it is inserted. -/
theorem situation_flushTableText : b.flushTableText.situation = b.situation := by
  unfold flushTableText
  dsimp only
  split
  · exact situation_foldl_insertText _
  · exact situation_fosterText _

end Builder

end TemplateImports.Markup
