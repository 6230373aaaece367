import TemplateImports.Proofs.Markup.Settled

/-!
# Every part of a document keeps its elements

Each insertion mode of settled states handles a token as a settled state does: the head and what
follows it, tables with their captions, bodies, rows and cells, collected text, and the beginning of
a template.  What a mode does not take itself goes on to a later mode, and what a table refuses is
put before it.

Main results:

- Theorems `Settled.inHead`, `Settled.afterHead`, `Settled.inTable`, `Settled.inTableText`,
  `Settled.inCaption`, `Settled.inTableBody`, `Settled.inRow`, `Settled.inCell` and
  `Settled.inTemplate` handle one token in each mode.
- Theorem `Settled.step` handles one token in any settled state.
-/

namespace TemplateImports.Markup

open Node Text

/-! ## Labels -/

theorem beq_eq_false_of_not_mem {label other : String} {labels : List String} (h : label ∉ labels)
    (hother : other ∈ labels) : (label == other) = false := by
  rw [beq_eq_false_iff_ne]
  rintro rfl
  exact h hother

/-- The start tags of table parts are quiet. -/
theorem Token.isQuiet_of_contains {tag : Tag} {labels : List String}
    (h : labels.contains tag.name = true) (hmild : tag.name ∉ disruptiveLabels)
    (hlabels : ∀ label ∈ labels, label ∈ disruptiveLabels ++ contextualLabels) :
    Token.IsQuiet (.startTag tag) := by
  rw [List.contains_eq_mem, decide_eq_true_eq] at h
  rcases List.mem_append.1 (hlabels tag.name h) with hmem | hmem
  · exact absurd hmem hmild
  · exact Token.isQuiet_startTag hmem

/-- The element of a start tag has its name, unless a rule says otherwise. -/
theorem kind_eq_of_rule {tag : Tag} (h : startRule tag.name ∉ [StartRule.image, .math, .graphics]) :
    tag.kind = (.html tag.name, tag.attributes) := by
  unfold Tag.kind
  split
  · rename_i hrule
    exact absurd (by rw [hrule]; decide) h
  · rename_i hrule
    exact absurd (by rw [hrule]; decide) h
  · rename_i hrule
    exact absurd (by rw [hrule]; decide) h
  · rfl

namespace Builder

/-- A state in which an element is open once more. -/
def within (b : Builder) (e : OpenElement) : Builder :=
  { b with stack := e :: b.stack }

namespace Sound

variable {b : Builder}

/-! ## Elements of a head that is closed -/

/-- The place within a closed head is in the document. -/
theorem isIn_placeWithin (h : b.Sound) {e : OpenElement} (he : e ∈ elements b.document) :
    (b.within e).place.IsIn b.document := by
  show ((b.within e).placeFor e).IsIn b.document
  unfold placeFor
  split
  · refine h.isIn_fosterPlace fun f hf => ?_
    rcases List.mem_cons.1 hf with rfl | hf
    · exact he
    · exact h.opened f hf
  · exact h.isIn_placeInside he

/-- An element that goes into a closed head adds its kind. -/
theorem insertTagWithin (h : b.Sound) {e : OpenElement} (he : e ∈ elements b.document)
    (tag : Tag) :
    Grows b (((b.within e).insertTag tag).dropOpen e.id) [(.html tag.name, tag.attributes)] := by
  have hne : (b.nextId != e.id) = true :=
    bne_iff_ne.2 (Nat.ne_of_gt (h.fresh _ (mem_ids_of_mem he)))
  have hgrows := h.extendOpen (h.extends_leaf (h.isIn_placeWithin he) (.html tag.name) tag.attributes)
    (List.filter_sublist (p := fun f : OpenElement => f.id != e.id))
  have hstack : ((⟨b.nextId, .html tag.name, tag.attributes⟩ : OpenElement) :: e :: b.stack).filter
      (·.id != e.id) = ⟨b.nextId, .html tag.name, tag.attributes⟩ ::
        b.stack.filter (·.id != e.id) := by
    simp [hne]
  rw [← hstack] at hgrows
  exact hgrows

/-- A void element that goes into a closed head adds its kind. -/
theorem insertVoidWithin (h : b.Sound) {e : OpenElement} (he : e ∈ elements b.document)
    (tag : Tag) :
    Grows b (((b.within e).insertVoid tag).dropOpen e.id) [(.html tag.name, tag.attributes)] := by
  have hgrows := h.extendLeaf
    (h.extends_leaf (h.isIn_placeWithin he) (.html tag.name) tag.attributes)
  have hclose := hgrows.andKeeps fun h' =>
    h'.close (List.filter_sublist (p := fun f : OpenElement => f.id != e.id))
  have hstack : (e :: b.stack).filter (·.id != e.id) = b.stack.filter (·.id != e.id) := by simp
  rw [← hstack] at hclose
  exact hclose

/-- What belongs into a head may be inserted into the head after it has been closed. -/
theorem headElementWithin (h : b.Sound) {e : OpenElement} (he : e ∈ elements b.document)
    (tag : Tag) :
    Grows b (((b.within e).headElement tag).dropOpen e.id) [(.html tag.name, tag.attributes)] := by
  unfold Builder.headElement
  split
  · exact h.insertTagWithin he tag
  · exact h.insertTagWithin he tag
  · exact h.insertTagWithin he tag
  · exact h.insertTagWithin he tag
  · exact (h.insertTagWithin he tag).andKeeps fun h' => h'.pushMarker
  · exact h.insertVoidWithin he tag

/-! ## Collected text -/

/-- Text in pieces adds no kind. -/
theorem foldl_insertText (h : b.Sound) (texts : List (List Char)) :
    Grows b (texts.foldl Builder.insertText b) [] := by
  induction texts generalizing b with
  | nil => exact .refl h
  | cons cs texts ih => exact (h.insertText cs).andThen fun h' => ih h'

/-- Text before a table adds no kind. -/
theorem fosterText (h : b.Sound) (texts : List (List Char)) : Grows b (b.fosterText texts) [] := by
  induction texts generalizing b with
  | nil => exact .refl h
  | cons cs texts ih =>
    have hgrows : Grows b (b.inBodyFostered (.text cs)).state [] := h.inBodyFostered rfl
    unfold Builder.fosterText
    split
    · rename_i b' hstep
      rw [hstep] at hgrows
      exact hgrows.andThen fun h' => ih h'
    · rename_i b' hstep
      rw [hstep] at hgrows
      exact hgrows.andThen fun h' => ih h'

/-- The collected text of a table adds no kind. -/
theorem flushTableText (h : b.Sound) : Grows b b.flushTableText [] := by
  have hcleared : Builder.Sound { b with tableText := [] } := h
  unfold Builder.flushTableText
  dsimp only
  split
  · exact hcleared.foldl_insertText _
  · exact hcleared.fosterText _

end Sound

namespace Settled

variable {b : Builder} {token : Token}

/-! ## The head -/

theorem mem_settledModes {mode : InsertionMode} (h : b.mode = mode) (hmode : mode ∈ settledModes) :
    b.mode ∈ settledModes := by
  rwa [h]

/-- A tag that disrupts nothing makes a plain element of the markup. -/
theorem isPlainKind_html {tag : Tag} (h : tag.name ∉ disruptiveLabels) :
    ∀ k ∈ [((.html tag.name, tag.attributes) : Kind)], IsPlainKind k := by
  intro k hk
  rw [List.mem_singleton.1 hk]
  refine ⟨rfl, fun hmem => h ?_⟩
  have hsub : ∀ label ∈ ["select", "frameset", "colgroup"], label ∈ disruptiveLabels := by decide
  exact hsub tag.name hmem

/-- A start tag whose element is the ordinary one of its name. -/
theorem handled_tag (h : b.Settled) {b' : Builder} {tag : Tag}
    (hgrows : Grows b b' [(.html tag.name, tag.attributes)]) (htag : tag.name ∉ disruptiveLabels)
    (hrule : startRule tag.name ∉ [StartRule.image, .math, .graphics])
    (hfollows : b'.situation.Follows (.startTag tag)) : Handled b (.startTag tag) (.done b') := by
  refine h.handled_done hgrows (isPlainKind_html htag) hfollows fun k hk => ?_
  by_cases hcontext : tag.name ∈ contextualLabels
  · simp [Token.promises, hcontext] at hk
  · rwa [Token.promises_startTag hcontext, kind_eq_of_rule hrule] at hk

/-- Content of the head is handled in every settled mode. -/
theorem headElement (h : b.Settled) (hmode : b.mode ∈ settledModes) {tag : Tag}
    (hlabel : tag.name ∈ headLabels) (htag : tag.name ∉ disruptiveLabels) :
    Handled b (.startTag tag) (.done (b.headElement tag)) := by
  have hrules : ∀ label ∈ headLabels,
      startRule label ∉ [StartRule.image, .math, .graphics] := by decide
  refine h.handled_tag (h.sound.headElement tag) htag (hrules tag.name hlabel) ?_
  rw [situation_headElement hlabel]
  exact h.2.follows_afterStart hmode tag

/-- Content of a closed head is handled. -/
theorem headElementWithin (h : b.Settled) (hmode : b.mode ∈ settledModes) {tag : Tag}
    (hlabel : tag.name ∈ headLabels) (htag : tag.name ∉ disruptiveLabels) {e : OpenElement}
    (he : e ∈ elements b.document) :
    Handled b (.startTag tag) (.done (((b.within e).headElement tag).dropOpen e.id)) := by
  have hrules : ∀ label ∈ headLabels,
      startRule label ∉ [StartRule.image, .math, .graphics] := by decide
  refine h.handled_tag (h.sound.headElementWithin he tag) htag (hrules tag.name hlabel) ?_
  rw [situation_dropOpen, situation_headElement hlabel]
  exact h.2.follows_afterStart hmode tag

/-- Inside the head. -/
theorem inHead (h : b.Settled) (hmode : b.mode = .inHead) (htoken : token.IsMild) :
    Handled b token (b.inHead token) := by
  have hsettled := mem_settledModes hmode (by decide)
  have hotherwise : Handled b token (b.pop.againIn .afterHead) :=
    h.handled_onward h.sound.pop (by simp) rfl (by decide) fun _ => by rw [hmode]; decide
  unfold Builder.inHead
  cases token with
  | startTag tag =>
    have htag : tag.name ∉ disruptiveLabels := htoken
    have hhtml := beq_eq_false_of_not_mem htag (show "html" ∈ disruptiveLabels by decide)
    have hhead := beq_eq_false_of_not_mem htag (show "head" ∈ disruptiveLabels by decide)
    simp only [hhtml, hhead, Bool.false_eq_true, if_false]
    split
    · rename_i hlabel
      by_cases hnoscript : (tag.name == "noscript") = true
      · rw [if_pos hnoscript]
        have hname : tag.name = "noscript" := by simpa using hnoscript
        refine h.handled_tag (h.sound.insertTextElement tag _) htag (by rw [hname]; decide) ?_
        have hreading : b.situation.reading (.rawtext tag.name) =
            b.situation.afterStart tag.name := by
          rw [hname]
          rfl
        rw [situation_insertTextElement, hreading]
        exact h.2.follows_afterStart hsettled tag
      · rw [if_neg hnoscript]
        simp only [hnoscript, Bool.or_false, List.contains_eq_mem, decide_eq_true_eq] at hlabel
        exact h.headElement hsettled hlabel htag
    · exact hotherwise
  | endTag tag =>
    have htag : tag.name ∉ disruptiveLabels := htoken
    have hhead := beq_eq_false_of_not_mem htag (show "head" ∈ disruptiveLabels by decide)
    simp only [hhead, Bool.false_eq_true, if_false]
    split
    · exact h.closeTemplate tag
    · split
      · exact hotherwise
      · exact h.handled_nothing (Token.isQuiet_endTag tag)
  | text cs =>
    dsimp only
    split
    · exact h.handled_same (Token.isQuiet_text cs) (h.sound.insertText cs) (by simp) rfl
    · exact hotherwise
  | eof => exact hotherwise
  | doctype declaration => exact htoken.elim
  | comment value => exact htoken.elim
  | nul => exact htoken.elim

/-- Between the head and the body. -/
theorem afterHead (h : b.Settled) (hmode : b.mode = .afterHead) (htoken : token.IsMild) :
    Handled b token (b.afterHead token) := by
  have hsettled := mem_settledModes hmode (by decide)
  have hotherwise : Handled b token ((b.insertLabel "body").againIn .inBody) := by
    refine h.handled_onward (h.sound.insertLabel "body") ?_ rfl (by decide)
      fun _ => by rw [hmode]; decide
    intro k hk
    rw [List.mem_singleton.1 hk]
    exact ⟨rfl, by decide⟩
  unfold Builder.afterHead
  cases token with
  | startTag tag =>
    have htag : tag.name ∉ disruptiveLabels := htoken
    have hhtml := beq_eq_false_of_not_mem htag (show "html" ∈ disruptiveLabels by decide)
    have hbody := beq_eq_false_of_not_mem htag (show "body" ∈ disruptiveLabels by decide)
    have hframeset := beq_eq_false_of_not_mem htag (show "frameset" ∈ disruptiveLabels by decide)
    have hhead := beq_eq_false_of_not_mem htag (show "head" ∈ disruptiveLabels by decide)
    simp only [hhtml, hbody, hframeset, hhead, Bool.false_eq_true, if_false]
    split
    · rename_i hlabel
      rw [List.contains_eq_mem, decide_eq_true_eq] at hlabel
      split
      · rename_i head hknown
        exact h.headElementWithin hsettled hlabel htag (h.sound.headKept head hknown)
      · rename_i hknown
        have hheaded : b.head.isSome = true := h.2.headed
        rw [hknown] at hheaded
        exact Bool.noConfusion hheaded
    · exact hotherwise
  | endTag tag =>
    dsimp only
    split
    · exact h.closeTemplate tag
    · split
      · exact hotherwise
      · exact h.handled_nothing (Token.isQuiet_endTag tag)
  | text cs =>
    dsimp only
    split
    · exact h.handled_same (Token.isQuiet_text cs) (h.sound.insertText cs) (by simp) rfl
    · exact hotherwise
  | eof => exact hotherwise
  | doctype declaration => exact htoken.elim
  | comment value => exact htoken.elim
  | nul => exact htoken.elim

/-! ## Tables -/

/-- The modes that collect the text of a table are settled ones. -/
theorem mem_settledModes_of_collecting {mode : InsertionMode} (h : mode ∈ collectingModes) :
    mode ∈ settledModes :=
  (show ∀ mode ∈ collectingModes, mode ∈ settledModes by decide) mode h

/-- What a table does with text: it collects the text or refuses it. -/
theorem characters (h : b.Settled) (hmode : b.mode ∈ collectingModes) (cs : List Char) :
    Handled b (.text cs) (inTable.characters b (.text cs)) := by
  unfold inTable.characters
  split
  · have hgrows : Grows b { b with returnMode := b.mode, mode := .inTableText } [] := .refl h.sound
    refine h.handled_again hgrows (by simp) ?_ fun hne => absurd rfl hne
    exact ⟨h.2.content, Or.inr ⟨rfl, hmode⟩, h.2.templates, h.2.headed⟩
  · exact h.inBodyFostered (mem_settledModes_of_collecting hmode) trivial

/-- Supplied elements are plain, except for selections, frames and column groups. -/
theorem isPlainKind_suppliedKind {label : String}
    (h : label ∉ ["select", "frameset", "colgroup"]) :
    ∀ k ∈ [suppliedKind label], IsPlainKind k := by
  intro k hk
  rw [List.mem_singleton.1 hk]
  exact ⟨rfl, h⟩

/-- A part of a table is opened. -/
theorem openPart (h : b.Settled) {b' : Builder} {tag : Tag} {mode : InsertionMode}
    (hgrows : Grows b b' []) (hsituation : b'.situation = b.situation)
    (htag : tag.name ∉ disruptiveLabels) (hcontext : tag.name ∈ contextualLabels)
    (hmode : mode ∈ settledModes) :
    Handled b (.startTag tag) (.done { b'.insertTag tag with mode }) :=
  h.handled_entering (Token.isQuiet_startTag hcontext)
    (hgrows.andThen fun h' => h'.insertTag tag) (isPlainKind_html htag) hsituation hmode

/-- A part of a table that is missing is supplied. -/
theorem supplyPart (h : b.Settled) {b' : Builder} {label : String} {mode : InsertionMode}
    (hquiet : token.IsQuiet) (hgrows : Grows b b' []) (hsituation : b'.situation = b.situation)
    (hlabel : label ∉ ["select", "frameset", "colgroup"]) (hmode : mode ∈ settledModes) :
    Handled b token ((b'.insertLabel label).againIn mode) :=
  h.handled_onward (hgrows.andThen fun h' => h'.insertLabel label)
    (isPlainKind_suppliedKind hlabel) hsituation hmode fun hne => absurd hquiet.promises hne

/-- The situation is settled again behind a table. -/
theorem settled_closeTable (h : b.Settled) :
    (b.popThroughLabel "table").resetMode.situation.Settled :=
  h.resetMode ((List.drop_sublist 1 _).trans (List.dropWhile_sublist _)).subset
    (List.Subset.refl _)

/-- Closing a table adds no kind. -/
theorem grows_closeTable (h : b.Settled) : Grows b (b.popThroughLabel "table").resetMode [] :=
  h.sound.popThroughLabel "table"

/-- A start tag inside a table. -/
theorem inTable_startTag (h : b.Settled) (hmode : b.mode ∈ settledModes) {tag : Tag}
    (htag : tag.name ∉ disruptiveLabels) :
    Handled b (.startTag tag) (b.inTable (.startTag tag)) := by
  have hclear := h.sound.popInside tableScope
  -- Parts of the table are opened, missing ones are supplied first, and content that does not
  -- belong in a table is fostered.
  unfold Builder.inTable
  dsimp only
  split
  · rename_i hname
    exact h.openPart (hclear.andThen fun h' => h'.pushMarker) rfl htag (by rw [hname]; decide)
      (by decide)
  · rename_i hname
    exact absurd (by rw [hname]; decide) htag
  · rename_i hname
    exact absurd (by rw [hname]; decide) htag
  · rename_i hname
    exact h.openPart hclear rfl htag (by rw [hname]; decide) (by decide)
  · rename_i hname
    exact h.openPart hclear rfl htag (by rw [hname]; decide) (by decide)
  · rename_i hname
    exact h.openPart hclear rfl htag (by rw [hname]; decide) (by decide)
  · rename_i hname
    exact h.supplyPart (Token.isQuiet_startTag (by rw [hname]; decide)) hclear rfl (by decide)
      (by decide)
  · rename_i hname
    exact h.supplyPart (Token.isQuiet_startTag (by rw [hname]; decide)) hclear rfl (by decide)
      (by decide)
  · rename_i hname
    exact h.supplyPart (Token.isQuiet_startTag (by rw [hname]; decide)) hclear rfl (by decide)
      (by decide)
  · rename_i hname
    have hquiet := Token.isQuiet_startTag (show tag.name ∈ contextualLabels by rw [hname]; decide)
    split
    · exact h.handled_again h.grows_closeTable (by simp) h.settled_closeTable
        fun hne => absurd hquiet.promises hne
    · exact h.handled_nothing hquiet
  · rename_i hname
    exact h.headElement hmode (by rw [hname]; decide) htag
  · rename_i hname
    exact h.headElement hmode (by rw [hname]; decide) htag
  · rename_i hname
    exact h.headElement hmode (by rw [hname]; decide) htag
  · rename_i hname
    split
    · have hsame : b.situation.afterStart tag.name = b.situation :=
        afterStart_of_not_mem (by rw [hname]; decide) b.situation
      refine h.handled_tag (h.sound.insertVoid tag) htag (by rw [hname]; decide) ?_
      rw [situation_insertVoid, ← hsame]
      exact h.2.follows_afterStart hmode tag
    · exact h.inBodyFostered hmode htag
  · rename_i hname
    have hquiet := Token.isQuiet_startTag (show tag.name ∈ contextualLabels by rw [hname]; decide)
    split
    · exact h.handled_nothing hquiet
    · have hgrows : Grows b { b.insertVoid tag with form := some b.nextId } _ :=
        h.sound.insertVoid tag
      exact h.handled_same hquiet hgrows (isPlainKind_html htag) rfl
  · exact h.inBodyFostered hmode htag

/-- An end tag inside a table. -/
theorem inTable_endTag (h : b.Settled) (hmode : b.mode ∈ settledModes) {tag : Tag}
    (htag : tag.name ∉ disruptiveLabels) : Handled b (.endTag tag) (b.inTable (.endTag tag)) := by
  have hquiet := Token.isQuiet_endTag tag
  unfold Builder.inTable
  dsimp only
  split
  · split
    · exact h.handled_quiet hquiet h.grows_closeTable (by simp) h.settled_closeTable
    · exact h.handled_nothing hquiet
  · split
    · exact h.closeTemplate tag
    · split
      · exact h.handled_nothing hquiet
      · exact h.inBodyFostered hmode htag

/-- Inside a table. -/
theorem inTable (h : b.Settled) (hmode : b.mode ∈ collectingModes) (htoken : token.IsMild) :
    Handled b token (b.inTable token) := by
  have hsettled := mem_settledModes_of_collecting hmode
  cases token with
  | startTag tag => exact h.inTable_startTag hsettled htoken
  | endTag tag => exact h.inTable_endTag hsettled htoken
  | text cs => exact h.characters hmode cs
  | eof => exact h.inBody hsettled trivial
  | doctype declaration => exact htoken.elim
  | comment value => exact htoken.elim
  | nul => exact htoken.elim

/-- While a table collects text. -/
theorem inTableText (h : b.Settled) (hmode : b.mode = .inTableText) (htoken : token.IsMild) :
    Handled b token (b.inTableText token) := by
  have hreturn : b.returnMode ∈ collectingModes := by
    rcases h.2.mode with hsettled | ⟨-, hreturn⟩
    · rw [show b.situation.mode = b.mode from rfl, hmode] at hsettled
      exact absurd hsettled (by decide)
    · exact hreturn
  have hflush : Handled b token (b.flushTableText.againIn b.flushTableText.returnMode) := by
    have hsame : b.flushTableText.returnMode = b.returnMode :=
      congrArg Situation.returnMode situation_flushTableText
    rw [hsame]
    refine h.handled_onward h.sound.flushTableText (by simp) situation_flushTableText
      (mem_settledModes_of_collecting hreturn) fun _ => ?_
    rw [hmode, (show ∀ mode ∈ collectingModes, rank mode = 0 by decide) _ hreturn]
    decide
  unfold Builder.inTableText
  cases token with
  | text cs =>
    have hgrows : Grows b { b with tableText := cs :: b.tableText } [] := .refl h.sound
    exact h.handled_same (Token.isQuiet_text cs) hgrows (by simp) rfl
  | startTag tag => exact hflush
  | endTag tag => exact hflush
  | eof => exact hflush
  | doctype declaration => exact htoken.elim
  | comment value => exact htoken.elim
  | nul => exact htoken.elim

/-! ## Parts of tables -/

/-- Inside a caption. -/
theorem inCaption (h : b.Settled) (hmode : b.mode = .inCaption) (htoken : token.IsMild) :
    Handled b token (b.inCaption token) := by
  have hsettled := mem_settledModes hmode (by decide)
  have hclosed := ((h.sound.closeImplied impliedEnds).andThen fun h' =>
    h'.popThroughLabel "caption").andThen fun h' => h'.clearToMarker
  have hleave : token.IsQuiet → Handled b token
      ((((b.closeImplied impliedEnds).popThroughLabel "caption").clearToMarker).againIn .inTable) :=
    fun hquiet => h.handled_onward hclosed (by simp) rfl (by decide)
      fun hne => absurd hquiet.promises hne
  unfold Builder.inCaption
  cases token with
  | startTag tag =>
    dsimp only
    split
    · rename_i hpart
      have hquiet := Token.isQuiet_of_contains hpart htoken (by decide)
      split
      · exact hleave hquiet
      · exact h.handled_nothing hquiet
    · exact h.inBody hsettled htoken
  | endTag tag =>
    have hquiet := Token.isQuiet_endTag tag
    dsimp only
    split
    · split
      · exact h.handled_entering hquiet hclosed (by simp) rfl (by decide)
      · exact h.handled_nothing hquiet
    · split
      · split
        · exact hleave hquiet
        · exact h.handled_nothing hquiet
      · split
        · exact h.handled_nothing hquiet
        · exact h.inBody hsettled htoken
  | text cs => exact h.inBody hsettled trivial
  | eof => exact h.inBody hsettled trivial
  | doctype declaration => exact htoken.elim
  | comment value => exact htoken.elim
  | nul => exact htoken.elim

/-- Inside a body of table rows. -/
theorem inTableBody (h : b.Settled) (hmode : b.mode = .inTableBody) (htoken : token.IsMild) :
    Handled b token (b.inTableBody token) := by
  have hcollects : b.mode ∈ collectingModes := by rw [hmode]; decide
  have hclear := h.sound.popInside tableBodyContext
  have hclosed := hclear.andThen fun h' => h'.pop
  have hleave : token.IsQuiet → Handled b token
      (if inScope tableScope (·.name.isOneOf ["table", "tbody", "tfoot"]) b.stack then
        (b.popInside tableBodyContext).pop.againIn .inTable
      else .done b) := by
    intro hquiet
    split
    · exact h.handled_onward hclosed (by simp) rfl (by decide)
        fun hne => absurd hquiet.promises hne
    · exact h.handled_nothing hquiet
  unfold Builder.inTableBody
  cases token with
  | startTag tag =>
    have htag : tag.name ∉ disruptiveLabels := htoken
    dsimp only
    split
    · rename_i hrow
      rw [beq_iff_eq] at hrow
      exact h.openPart hclear rfl htag (by rw [hrow]; decide) (by decide)
    · split
      · rename_i hcell
        exact h.supplyPart (Token.isQuiet_of_contains hcell htag (by decide)) hclear rfl (by decide)
          (by decide)
      · split
        · rename_i hpart
          exact hleave (Token.isQuiet_of_contains hpart htag (by decide))
        · exact h.inTable hcollects htoken
  | endTag tag =>
    have hquiet := Token.isQuiet_endTag tag
    dsimp only
    split
    · split
      · exact h.handled_entering hquiet hclosed (by simp) rfl (by decide)
      · exact h.handled_nothing hquiet
    · split
      · exact hleave hquiet
      · split
        · exact h.handled_nothing hquiet
        · exact h.inTable hcollects htoken
  | text cs => exact h.inTable hcollects trivial
  | eof => exact h.inTable hcollects trivial
  | doctype declaration => exact htoken.elim
  | comment value => exact htoken.elim
  | nul => exact htoken.elim

/-- Inside a row of a table. -/
theorem inRow (h : b.Settled) (hmode : b.mode = .inRow) (htoken : token.IsMild) :
    Handled b token (b.inRow token) := by
  have hcollects : b.mode ∈ collectingModes := by rw [hmode]; decide
  have hclear := h.sound.popInside tableRowContext
  have hclosed := hclear.andThen fun h' => h'.pop
  have hleave : token.IsQuiet → Handled b token
      (if b.hasInScope tableScope "tr" then
        (b.popInside tableRowContext).pop.againIn .inTableBody else .done b) := by
    intro hquiet
    split
    · exact h.handled_onward hclosed (by simp) rfl (by decide)
        fun hne => absurd hquiet.promises hne
    · exact h.handled_nothing hquiet
  unfold Builder.inRow
  cases token with
  | startTag tag =>
    have htag : tag.name ∉ disruptiveLabels := htoken
    dsimp only
    split
    · rename_i hcell
      have hopened := (hclear.andThen fun h' => h'.insertTag tag).andKeeps fun h' => h'.pushMarker
      exact h.handled_entering (Token.isQuiet_of_contains hcell htag (by decide)) hopened
        (isPlainKind_html htag) rfl (by decide)
    · split
      · rename_i hpart
        exact hleave (Token.isQuiet_of_contains hpart htag (by decide))
      · exact h.inTable hcollects htoken
  | endTag tag =>
    have hquiet := Token.isQuiet_endTag tag
    dsimp only
    split
    · split
      · exact h.handled_entering hquiet hclosed (by simp) rfl (by decide)
      · exact h.handled_nothing hquiet
    · split
      · exact hleave hquiet
      · split
        · split
          · exact hleave hquiet
          · exact h.handled_nothing hquiet
        · split
          · exact h.handled_nothing hquiet
          · exact h.inTable hcollects htoken
  | text cs => exact h.inTable hcollects trivial
  | eof => exact h.inTable hcollects trivial
  | doctype declaration => exact htoken.elim
  | comment value => exact htoken.elim
  | nul => exact htoken.elim

/-- Inside a cell of a table. -/
theorem inCell (h : b.Settled) (hmode : b.mode = .inCell) (htoken : token.IsMild) :
    Handled b token (b.inCell token) := by
  have hsettled := mem_settledModes hmode (by decide)
  have hclosed : ∀ test : ElementName → Bool,
      Grows b (((b.closeImplied impliedEnds).popThrough test).clearToMarker) [] := fun test =>
    ((h.sound.closeImplied impliedEnds).andThen fun h' => h'.popThrough test).andThen
      fun h' => h'.clearToMarker
  have hleave : token.IsQuiet → Handled b token
      ((((b.closeImplied impliedEnds).popThrough (·.isOneOf ["td", "th"])).clearToMarker).againIn
        .inRow) :=
    fun hquiet => h.handled_onward (hclosed _) (by simp) rfl (by decide)
      fun hne => absurd hquiet.promises hne
  unfold Builder.inCell
  cases token with
  | startTag tag =>
    dsimp only
    split
    · rename_i hpart
      have hquiet := Token.isQuiet_of_contains hpart htoken (by decide)
      split
      · exact hleave hquiet
      · exact h.handled_nothing hquiet
    · exact h.inBody hsettled htoken
  | endTag tag =>
    have hquiet := Token.isQuiet_endTag tag
    dsimp only
    split
    · split
      · exact h.handled_entering hquiet (hclosed _) (by simp) rfl (by decide)
      · exact h.handled_nothing hquiet
    · split
      · exact h.handled_nothing hquiet
      · split
        · split
          · exact hleave hquiet
          · exact h.handled_nothing hquiet
        · exact h.inBody hsettled htoken
  | text cs => exact h.inBody hsettled trivial
  | eof => exact h.inBody hsettled trivial
  | doctype declaration => exact htoken.elim
  | comment value => exact htoken.elim
  | nul => exact htoken.elim

/-! ## Templates -/

/-- The content of a template goes on in another mode. -/
theorem templateIn (h : b.Settled) {mode : InsertionMode} (hmode : mode ∈ contentModes)
    (hlater : token.promises ≠ [] → rank mode < rank b.mode) :
    Handled b token (b.templateIn mode) := by
  have hgrows : Grows b
      { b with templateModes := mode :: b.templateModes.drop 1, mode } [] := .refl h.sound
  refine h.handled_again hgrows (by simp) ?_ hlater
  have hsub : ∀ mode ∈ contentModes, mode ∈ settledModes := by decide
  refine ⟨h.2.content, Or.inl (hsub mode hmode), fun other hother => ?_, h.2.headed⟩
  rcases List.mem_cons.1 hother with rfl | hother
  · exact hmode
  · exact h.2.templates other ((List.drop_sublist 1 _).subset hother)

/-- At the beginning of a template. -/
theorem inTemplate (h : b.Settled) (hmode : b.mode = .inTemplate) (htoken : token.IsMild) :
    Handled b token (b.inTemplate token) := by
  have hsettled := mem_settledModes hmode (by decide)
  unfold Builder.inTemplate
  cases token with
  | startTag tag =>
    have htag : tag.name ∉ disruptiveLabels := htoken
    have hcol := beq_eq_false_of_not_mem htag (show "col" ∈ disruptiveLabels by decide)
    simp only [hcol, Bool.false_eq_true, if_false]
    split
    · rename_i hlabel
      rw [List.contains_eq_mem, decide_eq_true_eq] at hlabel
      exact h.headElement hsettled hlabel htag
    · split
      · rename_i hpart
        have hquiet := Token.isQuiet_of_contains hpart htag (by decide)
        exact h.templateIn (by decide) fun hne => absurd hquiet.promises hne
      · split
        · rename_i hrow
          rw [beq_iff_eq] at hrow
          have hquiet := Token.isQuiet_startTag (show tag.name ∈ contextualLabels by rw [hrow]; decide)
          exact h.templateIn (by decide) fun hne => absurd hquiet.promises hne
        · split
          · rename_i hcell
            have hquiet := Token.isQuiet_of_contains hcell htag (by decide)
            exact h.templateIn (by decide) fun hne => absurd hquiet.promises hne
          · exact h.templateIn (by decide) fun _ => by rw [hmode]; decide
  | endTag tag =>
    dsimp only
    split
    · exact h.closeTemplate tag
    · exact h.handled_nothing (Token.isQuiet_endTag tag)
  | text cs => exact h.inBody hsettled trivial
  | eof => exact h.endTemplateText
  | doctype declaration => exact htoken.elim
  | comment value => exact htoken.elim
  | nul => exact htoken.elim

/-! ## All parts -/

/-- In every settled state a token is handled as a settled state does. -/
theorem step (h : b.Settled) (htoken : token.IsMild) : Handled b token (b.step token) := by
  unfold Builder.step
  rw [h.1.isForeign_eq_false, if_neg (by decide)]
  unfold Builder.stepOrdinary
  rcases h.2.mode with hmode | ⟨hmode, -⟩
  · rw [show b.situation.mode = b.mode from rfl] at hmode
    simp only [settledModes, List.mem_cons, List.not_mem_nil, or_false] at hmode
    rcases hmode with hmode | hmode | hmode | hmode | hmode | hmode | hmode | hmode | hmode
    · rw [hmode]
      exact h.inHead hmode htoken
    · rw [hmode]
      exact h.afterHead hmode htoken
    · rw [hmode]
      exact h.inBody (mem_settledModes hmode (by decide)) htoken
    · rw [hmode]
      exact h.inTable (by rw [hmode]; decide) htoken
    · rw [hmode]
      exact h.inCaption hmode htoken
    · rw [hmode]
      exact h.inTableBody hmode htoken
    · rw [hmode]
      exact h.inRow hmode htoken
    · rw [hmode]
      exact h.inCell hmode htoken
    · rw [hmode]
      exact h.inTemplate hmode htoken
  · rw [show b.mode = .inTableText from hmode]
    exact h.inTableText hmode htoken

end Settled

end Builder

end TemplateImports.Markup
