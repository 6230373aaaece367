import TemplateImports.Markup.Construction
import TemplateImports.Proofs.Markup.Coherence

/-!
# Documents are tidy

Every token keeps a state coherent, whatever the mode it is handled in and however often it is
looked at.  So in a document only templates have contents, whatever text it is constructed from.

Main results:

- Theorem `Coherent.inBody` handles a token of ordinary content; theorem `Coherent.step` handles a
  token in any mode.
- Theorem `Coherent.build` handles a text.
- Theorem `tidy_parse` says that every document is tidy.
-/

namespace TemplateImports.Markup

open Node Text

/-- The state that a step leads to has a property. -/
def Step.Leads (P : Builder → Prop) : Step → Prop
  | .done b => P b
  | .again b => P b

@[simp] theorem Step.leads_done {P : Builder → Prop} {b : Builder} : (Step.done b).Leads P ↔ P b :=
  Iff.rfl

@[simp] theorem Step.leads_again {P : Builder → Prop} {b : Builder} :
    (Step.again b).Leads P ↔ P b :=
  Iff.rfl

/-- A choice of steps leads where the chosen one does. -/
@[simp] theorem Step.leads_ite {P : Builder → Prop} {c : Prop} [Decidable c] {s s' : Step} :
    (if c then s else s').Leads P ↔ if c then s.Leads P else s'.Leads P := by
  split
  · rfl
  · rfl

namespace Builder

variable {b : Builder}

/-- A choice of states is coherent if the chosen one is. -/
@[simp] theorem coherent_ite {c : Prop} [Decidable c] {b' : Builder} :
    (if c then b else b').Coherent ↔ if c then b.Coherent else b'.Coherent := by
  split
  · rfl
  · rfl

namespace Coherent

/-- Handling the token again in another mode leaves the state as coherent as it is. -/
@[simp] theorem againIn_iff {mode : InsertionMode} :
    (b.againIn mode).Leads Coherent ↔ b.Coherent :=
  Iff.rfl

/-! ## Content of the head -/

/-- A template is opened in a coherent state. -/
@[simp] theorem openTemplate (h : b.Coherent) (tag : Tag) : (b.openTemplate tag).Coherent :=
  h.insertTag tag

/-- A template is closed with all that is open inside it. -/
@[simp] theorem closeTemplate (h : b.Coherent) : b.closeTemplate.Coherent := by
  simp [h, Builder.closeTemplate]

/-- Content of the head keeps the state coherent. -/
@[simp] theorem headElement (h : b.Coherent) (tag : Tag) : (b.headElement tag).Coherent := by
  unfold Builder.headElement
  split
  all_goals simp [h]

/-! ## Start tags -/

/-- An item of a list is opened behind the items that it ends. -/
@[simp] theorem openItem (h : b.Coherent) (tag : Tag) (labels : List String) :
    (b.openItem tag labels).Coherent := by
  unfold Builder.openItem
  dsimp only
  split
  · rename_i label _
    have hclosed : (b.forbidFrameset.closeImpliedExcept label).Coherent :=
      closeImpliedExcept (b := b.forbidFrameset) h label
    exact ((hclosed.popThroughLabel label).closeParagraphInScope).insertTag tag
  · exact (closeParagraphInScope (b := b.forbidFrameset) h).insertTag tag

/-- An open anchor is closed before the next one. -/
@[simp] theorem closeAnchor (h : b.Coherent) : b.closeAnchor.Coherent := by
  unfold Builder.closeAnchor
  split
  · simp [h]
  · exact h

/-- Each start tag in ordinary content keeps the state coherent. -/
@[simp] theorem startBody (h : b.Coherent) (tag : Tag) : (b.startBody tag).Coherent := by
  have hparagraph := h.closeParagraphInScope
  have hanchor := h.closeAnchor
  unfold Builder.startBody
  cases startRule tag.name with
  | body =>
    dsimp only
    split
    · simp [h]
    · exact h
  | frameset =>
    dsimp only
    split
    · rename_i body _
      split
      · have hremoved : Builder.Coherent { b with
            document := Node.remove body.id b.document
            stack := b.stack.drop (b.stack.length - 1) } :=
          h.removed body.id (List.drop_subset _ _)
        exact hremoved.insertTag tag
      · exact h
    · exact h
  | heading =>
    refine insertTag ?_ tag
    simp [hparagraph]
  | button =>
    refine (reconstruct ?_).insertTag tag
    simp [h]
  | unbroken =>
    refine insertFormatting ?_ tag
    simp [h.reconstruct, h.reconstruct.endFormatting]
  | choice =>
    refine (reconstruct ?_).insertTag tag
    simp [h]
  | _ => simp [h, hparagraph, hanchor]

/-! ## End tags -/

/-- A block is closed with all that is open inside it. -/
@[simp] theorem closeBlock (h : b.Coherent) (label : String) : (b.closeBlock label).Coherent := by
  simp [h, Builder.closeBlock]

/-- The current form is closed where it is in scope. -/
@[simp] theorem closeForm (h : b.Coherent) : b.closeForm.Coherent := by
  unfold Builder.closeForm
  split
  · exact h.closeBlock "form"
  · split
    · exact h
    · simp [h]

/-- Each end tag in ordinary content keeps the state coherent. -/
@[simp] theorem endBody (h : b.Coherent) (tag : Tag) : (b.endBody tag).Leads Coherent := by
  unfold Builder.endBody
  split
  all_goals simp [h]

/-- A template that the text ends in is closed. -/
@[simp] theorem endTemplateText (h : b.Coherent) : b.endTemplateText.Leads Coherent := by
  simp [h, Builder.endTemplateText]

/-! ## Tokens of ordinary content -/

/-- Each token in ordinary content keeps the state coherent. -/
@[simp] theorem inBody (h : b.Coherent) (token : Token) : (b.inBody token).Leads Coherent := by
  unfold Builder.inBody
  cases token with
  | _ => simp [h]

/-- Content that a table refuses keeps the state coherent. -/
@[simp] theorem inBodyFostered (h : b.Coherent) (token : Token) :
    (b.inBodyFostered token).Leads Coherent := by
  have hstep := inBody (b := { b with fosters := true }) h token
  unfold Builder.inBodyFostered
  split
  · rename_i b' heq
    rw [heq] at hstep
    exact hstep
  · rename_i b' heq
    rw [heq] at hstep
    exact hstep

/-! ## Before the body -/

/-- The first token leaves the state coherent. -/
@[simp] theorem initial (h : b.Coherent) (token : Token) : (b.initial token).Leads Coherent := by
  unfold Builder.initial
  split
  all_goals simp [h]

/-- The root element is inserted into a coherent state. -/
@[simp] theorem beforeHtml (h : b.Coherent) (token : Token) :
    (b.beforeHtml token).Leads Coherent := by
  unfold Builder.beforeHtml
  cases token with
  | _ => simp [h]

/-- The head is opened in a coherent state. -/
@[simp] theorem beforeHead (h : b.Coherent) (token : Token) :
    (b.beforeHead token).Leads Coherent := by
  unfold Builder.beforeHead
  cases token with
  | _ => simp [h]

/-- Each token in the head keeps the state coherent. -/
@[simp] theorem inHead (h : b.Coherent) (token : Token) : (b.inHead token).Leads Coherent := by
  unfold Builder.inHead
  cases token with
  | _ => simp [h]

/-- The head may be opened again. -/
theorem openHead (h : b.Coherent) {head : OpenElement} (hhead : b.head = some head) :
    Builder.Coherent { b with stack := head :: b.stack } := by
  obtain ⟨nameOf, h⟩ := h
  exact ⟨nameOf, h.withStack (List.forall_mem_cons.2 ⟨h.headKept head hhead, h.opened⟩)⟩

/-- The body is opened in a coherent state. -/
@[simp] theorem afterHead (h : b.Coherent) (token : Token) :
    (b.afterHead token).Leads Coherent := by
  unfold Builder.afterHead
  cases token with
  | startTag tag =>
    cases hhead : b.head with
    | none => simp [h]
    | some head =>
      have hopened := (h.openHead hhead).headElement tag
      simp only [hhead] at hopened ⊢
      simp [h, hopened]
  | _ => simp [h]

/-! ## Text and tables -/

/-- Raw text keeps the state coherent. -/
@[simp] theorem inText (h : b.Coherent) (token : Token) : (b.inText token).Leads Coherent := by
  unfold Builder.inText
  cases token with
  | _ => simp [h]

/-- Text in a table is collected, and nothing is inserted yet. -/
@[simp] theorem inTableCharacters (h : b.Coherent) (token : Token) :
    (inTable.characters b token).Leads Coherent := by
  simp [h, inTable.characters]

/-- A part of a table is opened behind what it closes. -/
@[simp] theorem inTableBodyPart (h : b.Coherent) (tag : Tag) :
    (inTable.body b tag).Leads Coherent := by
  simp [h, inTable.body]

/-- Each token in a table keeps the state coherent. -/
@[simp] theorem inTable (h : b.Coherent) (token : Token) : (b.inTable token).Leads Coherent := by
  unfold Builder.inTable
  cases token with
  | startTag tag =>
    dsimp only
    split
    all_goals simp [h]
  | _ => simp [h]

/-- Collected texts are inserted one after the other. -/
theorem foldl_insertText (h : b.Coherent) (texts : List (List Char)) :
    (texts.foldl Builder.insertText b).Coherent := by
  induction texts generalizing b with
  | nil => exact h
  | cons cs texts ih => exact ih (h.insertText cs)

/-- Collected texts that a table refuses are inserted before it. -/
theorem fosterText (h : b.Coherent) (texts : List (List Char)) :
    (b.fosterText texts).Coherent := by
  induction texts generalizing b with
  | nil => exact h
  | cons cs texts ih =>
    have hstep := h.inBodyFostered (.text cs)
    unfold Builder.fosterText
    split
    · rename_i b' heq
      rw [heq] at hstep
      exact ih hstep
    · rename_i b' heq
      rw [heq] at hstep
      exact ih hstep

/-- The collected text of a table is inserted, in the table or before it. -/
@[simp] theorem flushTableText (h : b.Coherent) : b.flushTableText.Coherent := by
  have hcleared : Builder.Coherent { b with tableText := [] } := h
  unfold Builder.flushTableText
  dsimp only
  split
  · exact hcleared.foldl_insertText _
  · exact hcleared.fosterText _

/-- Text in a table is collected until another token comes. -/
@[simp] theorem inTableText (h : b.Coherent) (token : Token) :
    (b.inTableText token).Leads Coherent := by
  unfold Builder.inTableText
  cases token with
  | _ => simp [h]

/-- Each token in a caption keeps the state coherent. -/
@[simp] theorem inCaption (h : b.Coherent) (token : Token) :
    (b.inCaption token).Leads Coherent := by
  unfold Builder.inCaption
  cases token with
  | _ => simp [h]

/-- Each token among columns keeps the state coherent. -/
@[simp] theorem inColumnGroup (h : b.Coherent) (token : Token) :
    (b.inColumnGroup token).Leads Coherent := by
  unfold Builder.inColumnGroup
  cases token with
  | _ => simp [h]

/-- Each token among rows keeps the state coherent. -/
@[simp] theorem inTableBody (h : b.Coherent) (token : Token) :
    (b.inTableBody token).Leads Coherent := by
  unfold Builder.inTableBody
  cases token with
  | _ => simp [h]

/-- Each token in a row keeps the state coherent. -/
@[simp] theorem inRow (h : b.Coherent) (token : Token) : (b.inRow token).Leads Coherent := by
  unfold Builder.inRow
  cases token with
  | _ => simp [h]

/-- Each token in a cell keeps the state coherent. -/
@[simp] theorem inCell (h : b.Coherent) (token : Token) : (b.inCell token).Leads Coherent := by
  unfold Builder.inCell
  cases token with
  | _ => simp [h]

/-! ## Selections and templates -/

/-- Each token in a selection keeps the state coherent. -/
@[simp] theorem inSelect (h : b.Coherent) (token : Token) : (b.inSelect token).Leads Coherent := by
  unfold Builder.inSelect
  cases token with
  | startTag tag =>
    have hoption : (if b.currentIs "option" then b.pop else b).Coherent := by simp [h]
    have hgroup : (if (if b.currentIs "option" then b.pop else b).currentIs "optgroup" then
        (if b.currentIs "option" then b.pop else b).pop
      else (if b.currentIs "option" then b.pop else b)).Coherent := by simp [hoption]
    dsimp only
    split
    all_goals simp [h, hoption, hgroup, inSelect.close, inSelect.leave]
  | endTag tag =>
    dsimp only
    split
    all_goals simp [h, inSelect.close]
  | _ => simp [h]

/-- Each token in a selection within a table keeps the state coherent. -/
@[simp] theorem inSelectInTable (h : b.Coherent) (token : Token) :
    (b.inSelectInTable token).Leads Coherent := by
  unfold Builder.inSelectInTable
  cases token with
  | _ => simp [h]

/-- Each token in a template keeps the state coherent. -/
@[simp] theorem inTemplate (h : b.Coherent) (token : Token) :
    (b.inTemplate token).Leads Coherent := by
  unfold Builder.inTemplate
  cases token with
  | _ => simp [h, templateIn]

/-! ## Frames and the end -/

@[simp] theorem afterBody (h : b.Coherent) (token : Token) :
    (b.afterBody token).Leads Coherent := by
  unfold Builder.afterBody
  cases token with
  | _ => simp [h]

@[simp] theorem inFrameset (h : b.Coherent) (token : Token) :
    (b.inFrameset token).Leads Coherent := by
  unfold Builder.inFrameset
  cases token with
  | startTag tag =>
    dsimp only
    split
    all_goals simp [h]
  | _ => simp [h]

@[simp] theorem afterFrameset (h : b.Coherent) (token : Token) :
    (b.afterFrameset token).Leads Coherent := by
  unfold Builder.afterFrameset
  cases token with
  | _ => simp [h]

@[simp] theorem afterAfterBody (h : b.Coherent) (token : Token) :
    (b.afterAfterBody token).Leads Coherent := by
  unfold Builder.afterAfterBody
  cases token with
  | _ => simp [h]

@[simp] theorem afterAfterFrameset (h : b.Coherent) (token : Token) :
    (b.afterAfterFrameset token).Leads Coherent := by
  unfold Builder.afterAfterFrameset
  cases token with
  | _ => simp [h]

/-! ## Any mode -/

/-- In every mode, a token of the markup leads to a coherent state. -/
@[simp] theorem stepOrdinary (h : b.Coherent) (token : Token) :
    (b.stepOrdinary token).Leads Coherent := by
  unfold Builder.stepOrdinary
  cases b.mode with
  | _ => simp [h]

/-- In foreign content an end tag only closes elements. -/
theorem subset_of_endForeign {label : String} {innermost : Bool} {stack stack' : List OpenElement}
    (h : endForeign label innermost stack = .closes stack') : stack' ⊆ stack := by
  fun_induction endForeign label innermost stack with
  | case1 => cases h
  | case2 => cases h
  | case3 => cases h
  | case4 =>
    cases h
    exact List.subset_cons_self _ _
  | case5 _ _ _ _ _ _ ih => exact List.Subset.trans (ih h) (List.subset_cons_self _ _)

/-- A token in foreign content leads to a coherent state. -/
@[simp] theorem stepForeign (h : b.Coherent) (token : Token) :
    (b.stepForeign token).Leads Coherent := by
  unfold Builder.stepForeign
  cases token with
  | startTag tag => simp [h, leaveForeign]
  | endTag tag =>
    dsimp only
    split
    · rename_i stack heq
      exact h.withStack (subset_of_endForeign heq)
    · exact h.stepOrdinary _
    · exact h
  | _ => simp [h]

/-- One step leads to a coherent state, whatever the token. -/
theorem step (h : b.Coherent) (token : Token) : (b.step token).Leads Coherent := by
  simp [h, Builder.step]

/-! ## A text -/

/-- A token is handled again and again, and the state stays coherent. -/
theorem process (h : b.Coherent) (n : Nat) (token : Token) :
    (Builder.process n b token).Coherent := by
  induction n generalizing b with
  | zero => exact h
  | succ n ih =>
    have hstep := h.step token
    unfold Builder.process
    split
    · rename_i b' heq
      rw [heq] at hstep
      exact hstep
    · rename_i b' heq
      rw [heq] at hstep
      exact ih hstep

/-- Every token keeps a state coherent. -/
theorem accept (h : b.Coherent) (token : Token) : (b.accept token).Coherent := by
  have hread : Builder.Coherent { b with skipsNewline := false } := h
  unfold Builder.accept
  cases token with
  | doctype d =>
    dsimp only
    split
    · exact hread.append rfl trivial
    · exact hread
  | text cs =>
    dsimp only
    split
    · split
      · exact hread
      · exact hread.process _ _
    · split
      · exact hread
      · exact hread.process _ _
  | _ => exact hread.process _ _

/-- A list of tokens leads to a coherent state. -/
theorem foldl_accept (h : b.Coherent) (tokens : List Token) :
    (tokens.foldl Builder.accept b).Coherent := by
  induction tokens generalizing b with
  | nil => exact h
  | cons token tokens ih => exact ih (h.accept token)

/-- A text keeps a state coherent. -/
theorem build (h : b.Coherent) (text : List Char) : (b.build text).Coherent := by
  induction b, text using Builder.build.induct with
  | case1 b =>
    rw [build_nil]
    exact h.accept .eof
  | case2 b cs hne lexed ih =>
    rw [Builder.build, dif_neg hne]
    exact ih (h.foldl_accept _)

end Coherent

/-- The first state is coherent. -/
theorem coherent_start : Builder.Coherent {} :=
  ⟨fun _ => .html "html", by simp [elements], by simp, by simp, trivial⟩

end Builder

/-- In a document only templates have contents, whatever text it is constructed from. -/
theorem tidy_parse (text : List Char) : Tidy (Document.parse text) := by
  obtain ⟨nameOf, h⟩ := Builder.coherent_start.build (normalizeNewlines (dropByteOrderMark text))
  exact h.tidy

end TemplateImports.Markup
