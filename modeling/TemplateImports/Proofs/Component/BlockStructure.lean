import TemplateImports.Proofs.Component.TemplateContent

/-!
# The block structure of a component

A component that is written as gaps, comments and blocks is cut into just these blocks, whatever
text follows.  The induction is on the items of the component.

Main results:

- Theorem `blocks_writeItems_append` says that items are cut off one by one.
- Theorem `ofBlocks_eq_gather` describes the component of a list of blocks.
- Theorem `parse_writeItems_append` says what component a written text followed by any text is.
-/

namespace TemplateImports.Component

open Text

/-! ## Items -/

theorem blocks_cons_of_ne {c : Char} (h : c ≠ '<') (cs : List Char) :
    blocks (c :: cs) = blocks cs := by
  rw [blocks]
  simp [h]

/-- Text without brackets holds no block. -/
theorem blocks_text_append {cs : List Char} (h : '<' ∉ cs) (rest : List Char) :
    blocks (cs ++ rest) = blocks rest := by
  induction cs with
  | nil => rfl
  | cons c cs ih =>
    simp only [List.mem_cons, not_or] at h
    rw [List.cons_append, blocks_cons_of_ne (Ne.symm h.1), ih h.2]

/-- A comment holds no block. -/
theorem blocks_comment_append {body : List Char} (h : IsCommentBody body) (rest : List Char) :
    blocks (writeComment body ++ rest) = blocks rest := by
  have happ : writeComment body ++ rest =
      '<' :: '!' :: '-' :: '-' :: (body ++ ("-->".toList ++ rest)) := by
    simp [writeComment]
  have hmark : "!--".toList.isPrefixOf ('!' :: '-' :: '-' :: (body ++ ("-->".toList ++ rest))) =
      true :=
    List.isPrefixOf_iff_prefix.2 (List.prefix_append ['!', '-', '-'] _)
  rw [happ, blocks, if_pos (by decide), if_pos hmark, List.drop_one, List.tail_cons,
    afterTopComment_dashes h]

theorem comment_not_prefix_of_isTag {tag : List Char} (htag : IsTag tag) (rest : List Char) :
    ¬ "!--".toList.isPrefixOf (tag ++ rest) = true := by
  intro hp
  obtain ⟨c, hc, halpha⟩ := htag.starts
  cases tag with
  | nil => simp at hc
  | cons d tag =>
    simp only [List.head?_cons, Option.mem_def, Option.some.injEq] at hc
    subst hc
    have hmark : "!--".toList = ['!', '-', '-'] := rfl
    rw [hmark, List.isPrefixOf_iff_prefix, List.cons_append, List.cons_prefix_cons] at hp
    rw [← hp.1] at halpha
    exact absurd halpha (by decide)

/-- A self-closed tag is a block without content. -/
theorem blocks_closed {tag attributes : List Char} (htag : IsTag tag)
    (hblank : ∀ c ∈ attributes.head?, isBlank c = true) (hfree : '>' ∉ attributes)
    (hclosed : isSelfClosed attributes = true) (rest : List Char) :
    blocks ('<' :: (tag ++ attributes ++ '>' :: rest)) =
      makeBlock tag attributes [] :: blocks rest := by
  have hopening := opening?_append htag hblank hfree rest
  have hmark : ¬ "!--".toList.isPrefixOf (tag ++ attributes ++ '>' :: rest) = true := by
    rw [List.append_assoc]
    exact comment_not_prefix_of_isTag htag _
  rw [blocks, if_pos (by decide), if_neg hmark]
  split
  · rename_i heq
    rw [hopening] at heq
    simp at heq
  · rename_i heq
    rw [hopening] at heq
    simp only [Option.some.injEq] at heq
    subst heq
    rw [if_pos hclosed]

/-- A tag that is not self-closed opens a block that goes on to the end of its content. -/
theorem blocks_opened {tag attributes content after rest : List Char} (htag : IsTag tag)
    (hblank : ∀ c ∈ attributes.head?, isBlank c = true) (hfree : '>' ∉ attributes)
    (hclosed : isSelfClosed attributes = false)
    (hcontent : cutContent tag after = some (content, rest)) :
    blocks ('<' :: (tag ++ attributes ++ '>' :: after)) =
      makeBlock tag attributes content :: blocks rest := by
  have hopening := opening?_append htag hblank hfree after
  have hmark : ¬ "!--".toList.isPrefixOf (tag ++ attributes ++ '>' :: after) = true := by
    rw [List.append_assoc]
    exact comment_not_prefix_of_isTag htag _
  rw [blocks, if_pos (by decide), if_neg hmark]
  split
  · rename_i heq
    rw [hopening] at heq
    simp at heq
  · rename_i heq
    rw [hopening] at heq
    simp only [Option.some.injEq] at heq
    subst heq
    rw [if_neg (by simp [hclosed])]
    split
    · rename_i heq
      dsimp only at heq
      rw [hcontent] at heq
      simp only [Option.some.injEq, Prod.mk.injEq] at heq
      rw [heq.1, heq.2]
    · rename_i heq
      dsimp only at heq
      rw [hcontent] at heq
      simp at heq

/-- A tag whose block has no end hides all blocks behind it. -/
theorem blocks_unclosed {tag attributes after : List Char} (htag : IsTag tag)
    (hblank : ∀ c ∈ attributes.head?, isBlank c = true) (hfree : '>' ∉ attributes)
    (hclosed : isSelfClosed attributes = false) (hcontent : cutContent tag after = none) :
    blocks ('<' :: (tag ++ attributes ++ '>' :: after)) = [] := by
  have hopening := opening?_append htag hblank hfree after
  have hmark : ¬ "!--".toList.isPrefixOf (tag ++ attributes ++ '>' :: after) = true := by
    rw [List.append_assoc]
    exact comment_not_prefix_of_isTag htag _
  rw [blocks, if_pos (by decide), if_neg hmark]
  split
  · rename_i heq
    rw [hopening] at heq
    simp at heq
  · rename_i heq
    rw [hopening] at heq
    simp only [Option.some.injEq] at heq
    subst heq
    rw [if_neg (by simp [hclosed])]
    split
    · rename_i heq
      dsimp only at heq
      rw [hcontent] at heq
      simp at heq
    · rfl

/-- A block with an end tag is cut off behind that tag. -/
theorem blocks_writeBlock_append {tag content : List Char} {attributes : List WrittenAttribute}
    (htag : IsTag tag) (hattributes : WellFormedAttributes attributes) (rest : List Char)
    (hcontent : cutContent tag (content ++ ('<' :: '/' :: tag ++ '>' :: rest)) =
      some (content, rest)) :
    blocks (writeBlock tag attributes content ++ rest) =
      ⟨String.ofList tag, String.ofList content, attributes.map WrittenAttribute.entry⟩ ::
        blocks rest := by
  have happ : writeBlock tag attributes content ++ rest =
      '<' :: (tag ++ writeAttributes attributes ++
        '>' :: (content ++ ('<' :: '/' :: tag ++ '>' :: rest))) := by
    simp [writeBlock]
  have hread : readAttributes (writeAttributes attributes) =
      attributes.map WrittenAttribute.entry := by
    simpa using readAttributes_writeAttributes hattributes (show ∀ c ∈ [], _ by simp)
  rw [happ, blocks_opened htag (isBlank_head_writeAttributes attributes)
    (close_not_mem_writeAttributes hattributes.each)
    (isSelfClosed_writeAttributes hattributes.each) hcontent, makeBlock, hread]

theorem isTag_templateTag : IsTag templateTag :=
  ⟨⟨'t', rfl, by decide⟩, by decide⟩

theorem cutContent_template {pieces : List Piece} (h : Piece.AllWellFormed pieces)
    (rest : List Char) :
    cutContent templateTag
        (Piece.writeAll pieces ++ ('<' :: '/' :: templateTag ++ '>' :: rest)) =
      some (Piece.writeAll pieces, rest) := by
  have hcomment : afterComment? ('<' :: ('/' :: templateTag ++ '>' :: rest)) = none :=
    afterComment?_bracket_of_ne (by decide) _
  have hclosing : cutTemplate 0 ('<' :: ('/' :: templateTag ++ '>' :: rest)) = some ([], rest) :=
    cutTemplate_of_nestedTag? hcomment (nestedTag?_closing rest)
  have hcut := cutTemplate_writeAll_append h 0 ('<' :: ('/' :: templateTag ++ '>' :: rest))
  rw [hclosing] at hcut
  unfold cutContent
  rw [if_pos (by decide)]
  simpa [passOver] using hcut

theorem cutContent_plain {tag content : List Char} (htag : IsTag tag) (hne : tag ≠ templateTag)
    (h : ¬ '<' :: '/' :: tag <:+: content) (rest : List Char) :
    cutContent tag (content ++ ('<' :: '/' :: tag ++ '>' :: rest)) = some (content, rest) := by
  have hfree (c : Char) (hc : isWrittenTagChar c = false) (hslash : c ≠ '/') : c ∉ '/' :: tag := by
    intro hmem
    rcases List.mem_cons.1 hmem with rfl | hmem
    · exact hslash rfl
    · rw [htag.chars c hmem] at hc
      exact absurd hc (by decide)
  have hfirst := occursFirst_of_not_infix (hfree '<' (by decide) (by decide)) h ('>' :: rest)
  have hne' : ¬ (tag == "template".toList) = true := fun heq => hne (beq_iff_eq.1 heq)
  unfold cutContent
  rw [if_neg hne']
  exact cutPlain_of_occursFirst hfirst (hfree '>' (by decide) (by decide))

/-- A written item is cut off as the block that it stands for, whatever follows. -/
theorem blocks_write_append {item : Item} (h : item.WellFormed) (rest : List Char) :
    blocks (item.write ++ rest) = item.block?.toList ++ blocks rest := by
  cases item with
  | gap cs => exact blocks_text_append h rest
  | comment body => exact blocks_comment_append h rest
  | template attributes content =>
    exact blocks_writeBlock_append isTag_templateTag h.1 rest (cutContent_template h.2 rest)
  | plain tag attributes content =>
    obtain ⟨htag, hne, hattributes, hcontent⟩ := h
    exact blocks_writeBlock_append htag hattributes rest (cutContent_plain htag hne hcontent rest)
  | closed tag attributes blanks =>
    obtain ⟨htag, hattributes, hblanks, hgap⟩ := h
    have happ : (Item.closed tag attributes blanks).write ++ rest =
        '<' :: (tag ++ (writeAttributes attributes ++ (blanks ++ ['/'])) ++ '>' :: rest) := by
      simp [Item.write]
    have hhead : ∀ c ∈ (writeAttributes attributes ++ (blanks ++ ['/'])).head?,
        isBlank c = true := by
      intro c hc
      cases attributes with
      | nil =>
        cases blanks with
        | nil => exact absurd rfl (hgap rfl)
        | cons b blanks =>
          have hcb : b = c := by simpa [writeAttributes] using hc
          exact hcb ▸ hblanks b (by simp)
      | cons a attributes =>
        apply isBlank_head_writeAttributes (a :: attributes) c
        cases a <;> simpa [writeAttributes, WrittenAttribute.write] using hc
    have hbracket : '>' ∉ writeAttributes attributes ++ (blanks ++ ['/']) := by
      have hblank : '>' ∉ blanks := fun hmem => absurd (hblanks '>' hmem) (by decide)
      simp [close_not_mem_writeAttributes hattributes.each, hblank]
    have hclosed : isSelfClosed (writeAttributes attributes ++ (blanks ++ ['/'])) = true := by
      rw [← List.append_assoc, isSelfClosed_concat (by decide)]
      decide
    have htail : ∀ c ∈ blanks ++ ['/'], isAttributeChar c = false ∧ c ≠ '=' := by
      intro c hc
      rcases List.mem_append.1 hc with hc | hc
      · have hb := hblanks c hc
        refine ⟨isAttributeChar_of_isBlank hb, ?_⟩
        rintro rfl
        exact absurd hb (by decide)
      · rw [List.mem_singleton.1 hc]
        decide
    rw [happ, blocks_closed htag hhead hbracket hclosed, makeBlock,
      readAttributes_writeAttributes hattributes htail]
    rfl

/-- Written items are cut off one by one, whatever follows. -/
theorem blocks_writeItems_append {items : List Item} (h : ∀ item ∈ items, item.WellFormed)
    (rest : List Char) :
    blocks (writeItems items ++ rest) = writtenBlocks items ++ blocks rest := by
  induction items with
  | nil => rfl
  | cons item items ih =>
    have hih := ih fun i hi => h i (List.mem_cons_of_mem item hi)
    have happ : writeItems (item :: items) ++ rest = item.write ++ (writeItems items ++ rest) := by
      simp [writeItems]
    rw [happ, blocks_write_append (h item (by simp)), hih, ← List.append_assoc]
    congr 1
    cases hblock : item.block? <;> simp [writtenBlocks, hblock]

/-! ## Components -/

/-- A block that holds a script of the setup kind. -/
def isSetupScript (block : Block) : Bool :=
  block.tag == "script" && (block.attributes.lookup "setup").isSome

/-- A block that holds a script of the ordinary kind. -/
def isOrdinaryScript (block : Block) : Bool :=
  block.tag == "script" && !(block.attributes.lookup "setup").isSome

/-- The component of a list of blocks: the first template, the last script of each kind, and all
other blocks in order. -/
def gather (bs : List Block) : Component where
  template := bs.find? (·.tag == "template")
  script := (bs.filter isOrdinaryScript).getLast?
  scriptSetup := (bs.filter isSetupScript).getLast?
  styles := bs.filter (·.tag == "style")
  customBlocks := bs.filter fun block => !(["template", "script", "style"].contains block.tag)

/-- The component of the blocks of one component followed by those of another one. -/
def followedBy (first second : Component) : Component where
  template := first.template.or second.template
  script := second.script.or first.script
  scriptSetup := second.scriptSetup.or first.scriptSetup
  styles := first.styles ++ second.styles
  customBlocks := first.customBlocks ++ second.customBlocks

theorem gather_append (first second : List Block) :
    gather (first ++ second) = (gather first).followedBy (gather second) := by
  simp [gather, followedBy, List.find?_append, List.getLast?_append]

/-- Adding a block is adding the component of that block. -/
theorem addBlock_eq_followedBy (component : Component) (block : Block) :
    component.addBlock block = component.followedBy (gather [block]) := by
  unfold addBlock
  split
  · rename_i htag
    simp [followedBy, gather, isSetupScript, isOrdinaryScript, htag]
  · rename_i htag
    split <;> rename_i hsetup <;>
      simp [followedBy, gather, isSetupScript, isOrdinaryScript, htag, hsetup]
  · rename_i htag
    simp [followedBy, gather, isSetupScript, isOrdinaryScript, htag]
  · rename_i htemplate hscript hstyle
    have h₁ : block.tag ≠ "template" := htemplate
    have h₂ : block.tag ≠ "script" := hscript
    have h₃ : block.tag ≠ "style" := hstyle
    simp [followedBy, gather, isSetupScript, isOrdinaryScript, h₁, h₂, h₃]

/-- The component of a list of blocks does not depend on adding them one by one. -/
theorem ofBlocks_eq_gather (bs : List Block) : ofBlocks bs = gather bs := by
  suffices h : ∀ seen, bs.foldl addBlock (gather seen) = gather (seen ++ bs) from h []
  induction bs with
  | nil => simp
  | cons block bs ih =>
    intro seen
    rw [List.foldl_cons, addBlock_eq_followedBy, ← gather_append, ih]
    simp

/-- A component that starts with written items holds exactly the blocks of these items, followed by
the blocks of the text behind them. -/
theorem parse_writeItems_append (items : List Item) (h : ∀ item ∈ items, item.WellFormed)
    (rest : String) :
    blocks (writeItems items ++ rest.toList) = writtenBlocks items ++ blocks rest.toList ∧
      Component.parse (String.ofList (writeItems items) ++ rest) =
        (gather (writtenBlocks items)).followedBy (Component.parse rest) := by
  have hblocks := blocks_writeItems_append h rest.toList
  refine ⟨hblocks, ?_⟩
  unfold Component.parse
  rw [String.toList_append, String.toList_ofList, hblocks, ofBlocks_eq_gather,
    ofBlocks_eq_gather, gather_append]

/-- Gaps, comments, a nested template that is not closed by the one in a comment, two more blocks,
and a template behind them that is never closed. -/
theorem parse_writeItems_append_nested :
    let items : List Item :=
      [.gap ['\n'], .comment " c ".toList,
        .template [.bare "functional".toList]
          [.text ['a'], .nested " #f".toList
            [.comment "</template>".toList, .closed " x".toList], .other true ['p']],
        .plain "script".toList [.valued "lang".toList "ts".toList] "x </a".toList,
        .closed "docs".toList [] [' ']]
    (∀ item ∈ items, item.WellFormed) ∧
      Component.parse (String.ofList (writeItems items) ++ "<template>lost") =
        (gather (writtenBlocks items)).followedBy (Component.parse "<template>lost") := by
  intro items
  have h : ∀ item ∈ items, item.WellFormed := by decide +kernel
  exact ⟨h, (parse_writeItems_append items h "<template>lost").2⟩

end TemplateImports.Component
