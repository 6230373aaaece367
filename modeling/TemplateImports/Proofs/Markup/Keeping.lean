import TemplateImports.Proofs.Markup.DocumentStart
import TemplateImports.Proofs.Markup.ModeSteps
import TemplateImports.Proofs.Markup.TagScan

/-!
# Reading keeps the elements of tags

A text that is made of tags and of plain text between them is read piece by piece.  From one settled
state to the next every element stays, and each start tag leaves behind what it promises.  The text
inside an element whose content is text ends at the end tag of that element.

Main results:

- Theorem `Settled.accept` says what a token makes of a settled state.
- Theorems `Settled.build_text`, `Settled.build_startTag` and `Settled.build_endTag` read one piece
  of ordinary content.
- Theorems `Reading.build_raw` and `Reading.build_rawEnd` read the text of an element and its end
  tag.
-/

namespace TemplateImports.Markup

open Node Text

/-- A token that promises nothing is quiet. -/
theorem Token.isQuiet_of_promises {token : Token} (h : token.promises = []) : token.IsQuiet := by
  refine ⟨h, ?_⟩
  rintro tag rfl
  by_cases hcontext : tag.name ∈ contextualLabels
  · exact (Token.isQuiet_startTag hcontext).not_raw tag rfl
  · rw [Token.promises_startTag hcontext] at h
    exact absurd h (by simp)

namespace Builder

/-! ## Tokens -/

namespace Settled

variable {b : Builder} {token : Token}

theorem process (h : b.Settled) (htoken : token.IsMild) {n : Nat}
    (hn : token.promises ≠ [] → rank b.mode < n) : UsedUp b token (Builder.process n b token) := by
  induction n generalizing b with
  | zero =>
    have hnone : token.promises = [] := by
      by_contra hne
      exact Nat.not_lt_zero _ (hn hne)
    have hquiet := Token.isQuiet_of_promises hnone
    exact ⟨h.1, fun _ hk => hk, (Situation.follows_iff hquiet).2 h.2, by simp [hnone]⟩
  | succ n ih =>
    have hhandled := h.step htoken
    rw [Builder.process]
    cases hstep : b.step token with
    | done b' =>
      rw [hstep] at hhandled
      cases hhandled with
      | done used => exact used
    | again b' =>
      rw [hstep] at hhandled
      cases hhandled with
      | again settled kept later =>
        have hused := ih settled fun hne =>
          Nat.lt_of_lt_of_le (later hne) (Nat.lt_succ_iff.1 (hn hne))
        exact ⟨hused.steady, fun k hk => hused.kept k (kept k hk), hused.follows, hused.made⟩

/-- A token is used up in every settled state. -/
theorem accept (h : b.Settled) (htoken : token.IsMild) : UsedUp b token (b.accept token) := by
  have hready : Builder.Settled { b with skipsNewline := false } := h
  have hlooks : rank b.mode < Builder.looks { b with skipsNewline := false } := by
    have hrank : ∀ mode, rank mode ≤ 2 := by
      intro mode
      cases mode <;> decide
    have hle := hrank b.mode
    unfold Builder.looks
    omega
  have hprocess : ∀ {token : Token}, token.IsMild →
      UsedUp b token (Builder.process (Builder.looks { b with skipsNewline := false })
        { b with skipsNewline := false } token) := by
    intro token htoken
    have hused := hready.process htoken fun _ => hlooks
    exact ⟨hused.steady, hused.kept, hused.follows, hused.made⟩
  unfold Builder.accept
  cases token with
  | text cs =>
    dsimp only
    generalize (if (b.skipsNewline && cs.head? == some '\n') = true then cs.drop 1 else cs) = cs'
    split
    · exact ⟨h.1, fun _ hk => hk, h.2, by simp [Token.promises]⟩
    · have hused := hprocess (show Token.IsMild (.text cs') from trivial)
      exact ⟨hused.steady, hused.kept, hused.follows, by simp [Token.promises]⟩
  | startTag tag => exact hprocess htoken
  | endTag tag => exact hprocess htoken
  | eof => exact hprocess htoken
  | doctype declaration => exact htoken.elim
  | comment value => exact htoken.elim
  | nul => exact htoken.elim

end Settled

/-! ## Beginning of a document -/

/-- A state before the root of a document that does not write it. -/
inductive Early : Builder → Prop where
  | initial : Early {}
  | root : Early rootState

/-- The document of a head with nothing in it. -/
theorem document_headState : headState.document =
    [.element 0 (.html "html") [] [.element 1 (.html "head") [] [] []] []] := rfl

theorem sound_headState : headState.Sound where
  distinct := by decide
  fresh := by decide
  rooted := by decide
  rootOnTop := by
    intro top hmem
    rw [document_headState] at hmem
    simp only [under, underIn, ids, idsIn, List.append_nil] at hmem
    split at hmem
    · simp at hmem
    · split at hmem <;> simp at hmem
  opened := by decide
  stackDistinct := by decide
  ordered := by decide
  remembered := by simp [headState]
  headKept := by decide
  tidy := by
    rw [document_headState]
    exact ⟨⟨Or.inl rfl, ⟨⟨Or.inl rfl, trivial, trivial⟩, trivial⟩, trivial⟩, trivial⟩

/-- The state with an open head is settled. -/
theorem settled_headState : headState.Settled := by
  refine ⟨⟨sound_headState, ?_⟩, rfl, Or.inl (by decide), by simp [situation, headState], rfl⟩
  unfold IsPlainKind
  decide

/-- A state between two tags. -/
def Between (b : Builder) : Prop :=
  Early b ∨ b.Settled

/-- From one state between two tags to another, with all elements. -/
structure Leads (b b' : Builder) : Prop where
  between : b'.Between
  kept : ∀ k ∈ kinds b.document, k ∈ kinds b'.document

theorem Leads.refl {b : Builder} (h : b.Between) : Leads b b :=
  ⟨h, fun _ hk => hk⟩

theorem Leads.trans {b b' b'' : Builder} (h : Leads b b') (h' : Leads b' b'') : Leads b b'' :=
  ⟨h'.between, fun k hk => h'.kept k (h.kept k hk)⟩

/-- A quiet token leads from one state between two tags to another. -/
theorem UsedUp.leads {b b' : Builder} {token : Token} (h : UsedUp b token b')
    (hquiet : token.IsQuiet) : Leads b b' :=
  ⟨Or.inr ⟨h.steady, (Situation.follows_iff hquiet).1 h.follows⟩, h.kept⟩

namespace Early

variable {b : Builder} {token : Token}

theorem kinds_document (h : Early b) : kinds b.document = [] := by
  cases h <;> rfl

/-- A token that leads to the head is used up there. -/
theorem accept_of_opensDocument (h : Early b) (htoken : token.IsMild)
    (hopens : OpensDocument token) : UsedUp b token (b.accept token) := by
  have hprocess : ∀ n, 3 ≤ n → UsedUp b token (Builder.process n headState token) := by
    intro n hn
    have hused := settled_headState.process htoken fun _ => Nat.lt_of_lt_of_le (by decide) hn
    exact ⟨hused.steady, by simp [h.kinds_document], hused.follows, hused.made⟩
  have haccept : ∃ n, 3 ≤ n ∧ b.accept token = Builder.process n headState token := by
    have hlooks : ∃ n, 3 ≤ n ∧
        Builder.process b.looks b token = Builder.process n headState token := by
      cases h with
      | initial => exact ⟨61, by decide, process_initial hopens 61⟩
      | root => exact ⟨62, by decide, process_rootState hopens 62⟩
    obtain ⟨n, hn, heq⟩ := hlooks
    refine ⟨n, hn, ?_⟩
    rw [← heq]
    cases token with
    | text cs =>
      have hblank : cs.all isAsciiBlank = false := hopens
      have hempty : cs.isEmpty = false := by
        cases cs with
        | nil => simp at hblank
        | cons c cs => rfl
      cases h with
      | initial => simp [Builder.accept, hempty]
      | root => simp [Builder.accept, rootState, hempty]
    | startTag tag => cases h <;> rfl
    | endTag tag => cases h <;> rfl
    | eof => cases h <;> rfl
    | doctype declaration => exact htoken.elim
    | comment value => exact htoken.elim
    | nul => exact htoken.elim
  obtain ⟨n, hn, heq⟩ := haccept
  rw [heq]
  exact hprocess n hn

/-- Blanks do not count before the root. -/
theorem accept_blanks (h : Early b) {cs : List Char} (hblank : cs.all isAsciiBlank = true) :
    b.accept (.text cs) = b := by
  have hstep : b.step (.text cs) = .done b := by
    cases h with
    | initial => simp [step, isForeign, stepOrdinary, Builder.initial, hblank]
    | root => simp [step, isForeign, stepOrdinary, beforeHtml, hblank, rootState]
  have hskip : b.skipsNewline = false := by cases h <;> rfl
  by_cases hne : cs = []
  · subst hne
    cases h <;> rfl
  · exact accept_of_consumes hskip hne (by decide) (consumes_of_done hstep)

/-- An end tag that is not heeded before the root leads there. -/
theorem accept_endTag (h : Early b) {tag : Tag} (hearly : isEarlyEnd tag = false) :
    b.accept (.endTag tag) = rootState := by
  have hroot : rootState.step (.endTag tag) = .done rootState := by
    simp [step, isForeign, stepOrdinary, beforeHtml, hearly, rootState]
  cases h with
  | initial =>
    have hstep : Builder.step {} (.endTag tag) = .again rootState := rfl
    exact accept_of_consumes rfl trivial (by decide)
      (consumes_of_again hstep (consumes_of_done hroot))
  | root => exact accept_of_consumes rfl trivial (by decide) (consumes_of_done hroot)

/-- A token that does not lead to the head leaves the beginning of the document. -/
theorem accept_of_not_opensDocument (h : Early b) (htoken : token.IsMild)
    (hopens : ¬ OpensDocument token) : token.IsQuiet ∧ Early (b.accept token) := by
  cases token with
  | text cs =>
    have hblank : cs.all isAsciiBlank = true := by simpa [OpensDocument] using hopens
    exact ⟨Token.isQuiet_text cs, (h.accept_blanks hblank).symm ▸ h⟩
  | endTag tag =>
    have hearly : isEarlyEnd tag = false := by simpa [OpensDocument] using hopens
    exact ⟨Token.isQuiet_endTag tag, (h.accept_endTag hearly).symm ▸ .root⟩
  | startTag tag =>
    refine absurd ⟨?_, ?_⟩ hopens
    · exact beq_eq_false_of_not_mem htoken (show "html" ∈ disruptiveLabels by decide)
    · exact beq_eq_false_of_not_mem htoken (show "head" ∈ disruptiveLabels by decide)
  | eof => exact absurd trivial hopens
  | doctype declaration => exact htoken.elim
  | comment value => exact htoken.elim
  | nul => exact htoken.elim

end Early

/-! ## Pieces of a template -/

namespace Between

variable {b : Builder} {token : Token}

/-- A token is used up, or it has no effect before the head. -/
theorem accept (h : b.Between) (htoken : token.IsMild) :
    UsedUp b token (b.accept token) ∨ (token.IsQuiet ∧ Leads b (b.accept token)) := by
  rcases h with h | h
  · by_cases hopens : OpensDocument token
    · exact Or.inl (h.accept_of_opensDocument htoken hopens)
    · obtain ⟨hquiet, hearly⟩ := h.accept_of_not_opensDocument htoken hopens
      exact Or.inr ⟨hquiet, Or.inl hearly, by simp [h.kinds_document]⟩
  · exact Or.inl (h.accept htoken)

theorem accept_quiet (h : b.Between) (htoken : token.IsMild) (hquiet : token.IsQuiet) :
    Leads b (b.accept token) := by
  rcases h.accept htoken with hused | ⟨-, hleads⟩
  · exact hused.leads hquiet
  · exact hleads

theorem foldl_accept_texts (h : b.Between) (runs : List (List Char)) :
    Leads b ((runs.map Token.text).foldl Builder.accept b) := by
  induction runs generalizing b with
  | nil => exact .refl h
  | cons run runs ih =>
    have hleads := h.accept_quiet (show Token.IsMild (.text run) from trivial)
      (Token.isQuiet_text run)
    exact hleads.trans (ih hleads.between)

theorem content_eq (h : b.Between) : b.content = .data := by
  rcases h with h | h
  · cases h <;> rfl
  · exact h.2.content

theorem admitsLiteral_eq_false (h : b.Between) : b.admitsLiteral = false := by
  rcases h with h | h
  · cases h <;> rfl
  · exact h.1.admitsLiteral_eq_false

theorem build_eq (h : b.Between) {cs rest : List Char} {tokens : List Token} (hne : cs ≠ [])
    (hnext : Token.next .data false cs = (tokens, rest)) :
    b.build cs = (tokens.foldl Builder.accept b).build rest :=
  build_of_next h.content_eq h.admitsLiteral_eq_false hne hnext

/-- A text is read up to the next tag. -/
theorem build_text (h : b.Between) {cs rest : List Char} (hnul : '\x00' ∉ cs)
    (hplain : ∀ c ∈ cs, Token.isPlain c = true) (hrest : Stops Token.isPlain rest) :
    ∃ b', Leads b b' ∧ b.build (cs ++ rest) = b'.build rest := by
  by_cases hne : cs = []
  · exact ⟨b, .refl h, by rw [hne, List.nil_append]⟩
  · obtain ⟨runs, htokens, -, -⟩ := Token.textTokens_eq_map hnul
    have hnext := Token.next_text hne hplain hrest
    rw [htokens] at hnext
    exact ⟨_, h.foldl_accept_texts runs, h.build_eq (by simp [hne]) hnext⟩

/-- An end tag is read up to its closing bracket. -/
theorem build_endTag (h : b.Between) {name : List Char} (hname : Token.IsTagName name)
    (rest : List Char) (hmild : String.ofList (name.map Char.toLower) ∉ disruptiveLabels) :
    ∃ b', Leads b b' ∧ b.build ('<' :: '/' :: (name ++ '>' :: rest)) = b'.build rest := by
  have htoken : Token.IsMild (.endTag ⟨String.ofList (name.map Char.toLower), [], false⟩) := hmild
  exact ⟨_, h.accept_quiet htoken (Token.isQuiet_endTag _),
    h.build_eq (by simp) (Token.next_endTag hname rest)⟩

/-- A start tag is read up to its closing bracket. -/
theorem build_startTag (h : b.Between) {name text rest : List Char} {attributes : List Attribute}
    (hname : Token.IsTagName name) (htext : Stops Token.isTagNameChar text)
    (hscan : Token.scanAttributes [] text = some (attributes, false, rest))
    (hmild : String.ofList (name.map Char.toLower) ∉ disruptiveLabels) :
    ∃ b', UsedUp b (.startTag ⟨String.ofList (name.map Char.toLower), attributes, false⟩) b' ∧
      b.build ('<' :: (name ++ text)) = b'.build rest := by
  have htoken : Token.IsMild
      (.startTag ⟨String.ofList (name.map Char.toLower), attributes, false⟩) := hmild
  refine ⟨_, ?_, h.build_eq (by simp) (Token.next_startTag hname htext hscan)⟩
  rcases h with h | h
  · refine h.accept_of_opensDocument htoken ⟨?_, ?_⟩
    · exact beq_eq_false_of_not_mem hmild (show "html" ∈ disruptiveLabels by decide)
    · exact beq_eq_false_of_not_mem hmild (show "head" ∈ disruptiveLabels by decide)
  · exact h.accept htoken

/-- The end of a text loses no element. -/
theorem build_nil (h : b.Between) :
    ∀ k ∈ kinds b.document, k ∈ kinds (b.build []).document := by
  rw [Builder.build_nil]
  exact (h.accept_quiet (show Token.IsMild .eof from trivial) Token.isQuiet_eof).kept

end Between

/-! ## Text up to an end tag -/

/-- A state inside an element whose content is text. -/
structure Reading (b : Builder) (content : ContentMode) : Prop where
  steady : b.Steady
  reads : b.situation.Reads content

/-- The start tag of an element whose content is text opens that element. -/
theorem UsedUp.reading {b b' : Builder} {tag : Tag} (h : UsedUp b (.startTag tag) b')
    {content : ContentMode} (hlookup : rawContents.lookup tag.name = some content) :
    Reading b' content := by
  refine ⟨h.steady, ?_⟩
  have hfollows := h.follows
  unfold Situation.Follows at hfollows
  dsimp only at hfollows
  rwa [hlookup] at hfollows

/-- Any other start tag leads to ordinary content. -/
theorem UsedUp.settled {b b' : Builder} {tag : Tag} (h : UsedUp b (.startTag tag) b')
    (hlookup : rawContents.lookup tag.name = none) : b'.Settled := by
  refine ⟨h.steady, ?_⟩
  have hfollows := h.follows
  unfold Situation.Follows at hfollows
  dsimp only at hfollows
  rwa [hlookup] at hfollows

namespace Reading

variable {b : Builder} {content : ContentMode}

theorem step_eq (h : Reading b content) (token : Token) : b.step token = b.inText token := by
  have hmode : b.mode = .text := h.reads.mode
  unfold Builder.step
  rw [h.steady.isForeign_eq_false, if_neg (by decide)]
  unfold Builder.stepOrdinary
  rw [hmode]

/-- Text is put into the element. -/
theorem accept_text (h : Reading b content) (cs : List Char) :
    Reading (b.accept (.text cs)) content ∧
      ∀ k ∈ kinds b.document, k ∈ kinds (b.accept (.text cs)).document := by
  have hready : Reading { b with skipsNewline := false } content := ⟨h.steady, h.reads⟩
  unfold Builder.accept
  dsimp only
  generalize (if (b.skipsNewline && cs.head? == some '\n') = true then cs.drop 1 else cs) = cs'
  split
  · exact ⟨hready, fun _ hk => hk⟩
  · have hstep := hready.step_eq (.text cs')
    have hgrows := hready.steady.1.insertText cs'
    have hlooks : Builder.looks { b with skipsNewline := false } =
        (63 + 4 * b.stack.length) + 1 := by
      unfold Builder.looks
      dsimp only
      omega
    rw [hlooks, process, hstep]
    exact ⟨⟨hready.steady.of_grows hgrows (by simp), hready.reads⟩,
      fun k hk => hgrows.mem_iff.2 (Or.inl hk)⟩

/-- An end tag closes the element. -/
theorem accept_endTag (h : Reading b content) (tag : Tag) :
    Leads b (b.accept (.endTag tag)) := by
  have hready : Reading { b with skipsNewline := false } content := ⟨h.steady, h.reads⟩
  have hstep := hready.step_eq (.endTag tag)
  have hgrows := hready.steady.1.pop
  have haccept : b.accept (.endTag tag) =
      { Builder.pop { b with skipsNewline := false } with
        content := .data, mode := b.returnMode } := by
    have hlooks : Builder.looks { b with skipsNewline := false } =
        (63 + 4 * b.stack.length) + 1 := by
      unfold Builder.looks
      dsimp only
      omega
    unfold Builder.accept
    dsimp only
    rw [hlooks, process, hstep]
    rfl
  rw [haccept]
  exact ⟨Or.inr ⟨hready.steady.of_grows hgrows (by simp), h.reads.settled⟩,
    fun k hk => hgrows.mem_iff.2 (Or.inl hk)⟩

/-- The text of an element is read up to its end tag, or up to the end of everything. -/
theorem build_raw (h : Reading b content) {label : String} {cs rest : List Char}
    (hcontent : Token.endLabel? content = some label) (hcs : Token.IsRawText label cs)
    (hrest : Token.EndsRawText label rest) :
    ∃ b', Reading b' content ∧ (∀ k ∈ kinds b.document, k ∈ kinds b'.document) ∧
      b.build (cs ++ rest) = b'.build rest := by
  by_cases hne : cs = []
  · exact ⟨b, h, fun _ hk => hk, by rw [hne, List.nil_append]⟩
  · obtain ⟨hreading, hkept⟩ := h.accept_text cs
    refine ⟨_, hreading, hkept, ?_⟩
    have hnext := Token.next_rawText hcontent hne hcs hrest b.admitsLiteral
    cases cs with
    | nil => exact absurd rfl hne
    | cons c cs =>
      rw [List.cons_append, build_cons, ← List.cons_append,
        show b.content = content from h.reads.content_eq, hnext]
      rfl

/-- The end tag of the element leads back to where the element was opened. -/
theorem build_rawEnd (h : Reading b content) {label : String} {name : List Char}
    (hcontent : Token.endLabel? content = some label) (hname : Token.IsTagName name)
    (hlabel : name.map Char.toLower = label.toList) (rest : List Char) :
    ∃ b', Leads b b' ∧ b.build ('<' :: '/' :: (name ++ '>' :: rest)) = b'.build rest := by
  have hnext := Token.next_rawEnd hcontent hname hlabel b.admitsLiteral rest
  refine ⟨b.accept (.endTag ⟨String.ofList (name.map Char.toLower), [], false⟩),
    h.accept_endTag _, ?_⟩
  rw [build_cons, show b.content = content from h.reads.content_eq, hnext]
  rfl

/-- An element may still be open at the end of a text. -/
theorem build_nil (h : Reading b content) :
    ∀ k ∈ kinds b.document, k ∈ kinds (b.build []).document := by
  have hready : Reading { b with skipsNewline := false } content := ⟨h.steady, h.reads⟩
  have hstep := hready.step_eq .eof
  have hgrows := hready.steady.1.pop
  have hsettled : Builder.Settled
      { Builder.pop { b with skipsNewline := false } with
        content := .data, mode := b.returnMode } :=
    ⟨hready.steady.of_grows hgrows (by simp), h.reads.settled⟩
  have hlooks : Builder.looks { b with skipsNewline := false } = (63 + 4 * b.stack.length) + 1 := by
    unfold Builder.looks
    dsimp only
    omega
  have haccept : b.accept .eof = Builder.process (63 + 4 * b.stack.length)
      { Builder.pop { b with skipsNewline := false } with
        content := .data, mode := b.returnMode } .eof := by
    unfold Builder.accept
    dsimp only
    rw [hlooks, process, hstep]
    rfl
  intro k hk
  rw [Builder.build_nil, haccept]
  have hmild : Token.IsMild .eof := trivial
  exact (hsettled.process hmild fun hne => absurd rfl hne).kept k
    (hgrows.mem_iff.2 (Or.inl hk))

end Reading

end Builder

end TemplateImports.Markup
