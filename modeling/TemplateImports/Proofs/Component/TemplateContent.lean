import TemplateImports.Proofs.Component.AttributeText
import TemplateImports.Proofs.Text.Occurrence

/-!
# Reading the content of a block

Plain content ends at the first end tag of the block; the content of a template ends at the end tag
that matches its opening one.

The induction for a template is on its pieces, for every depth at once: reading written pieces adds
their text to whatever the rest of the content is, and leaves the depth as it was.

Main results:

- Theorem `cutPlain_of_occursFirst` cuts plain content off.
- Theorem `cutTemplate_writeAll_append` says that pieces pass into the content of a template.
-/

namespace TemplateImports.Component

open Text

/-! ## Comments -/

/-- What follows the first occurrence of a mark is what is behind it. -/
theorem afterMark?_of_occursFirst {mark before rest : List Char}
    (h : OccursFirst mark before (mark ++ rest)) (hne : mark ≠ []) :
    afterMark? mark (before ++ (mark ++ rest)) = some rest := by
  induction before with
  | nil =>
    cases mark with
    | nil => exact absurd rfl hne
    | cons c mark =>
      have hp : (c :: mark).isPrefixOf (c :: mark ++ rest) = true :=
        List.isPrefixOf_iff_prefix.2 (List.prefix_append _ _)
      simp only [List.nil_append, List.cons_append] at hp ⊢
      rw [afterMark?, if_pos hp]
      simp
  | cons c before ih =>
    have hc := occursFirst_cons_iff.1 h
    have hp : ¬ mark.isPrefixOf (c :: (before ++ (mark ++ rest))) = true :=
      fun hp => hc.1 (List.isPrefixOf_iff_prefix.1 hp)
    rw [List.cons_append, afterMark?, if_neg hp]
    exact ih hc.2

/-- The end mark of a comment does not start inside a body without it. -/
theorem occursFirst_commentEnd {body : List Char} (h : ¬ "-->".toList <:+: body)
    (rest : List Char) : OccursFirst "-->".toList body ("-->".toList ++ rest) := by
  induction body with
  | nil => exact occursFirst_nil (List.prefix_append _ _)
  | cons c body ih =>
    rw [List.infix_cons_iff, not_or] at h
    refine occursFirst_cons_iff.2 ⟨?_, ih h.2⟩
    -- A mark that starts here ends in the body, or has a dash in the place of its bracket.
    intro hp
    apply h.1
    match body with
    | [] => simp [List.cons_prefix_cons] at hp
    | [d] => simp [List.cons_prefix_cons] at hp
    | d :: e :: body =>
      have hmark : "-->".toList = ['-', '-', '>'] := rfl
      rw [hmark] at hp ⊢
      simpa [List.cons_prefix_cons] using hp

/-- A written comment is passed over. -/
theorem afterComment?_writeComment {body : List Char} (h : IsCommentBody body)
    (rest : List Char) : afterComment? (writeComment body ++ rest) = some rest := by
  have happ : writeComment body ++ rest = "<!--".toList ++ (body ++ ("-->".toList ++ rest)) := by
    simp only [writeComment, List.append_assoc]
  have hp : "<!--".toList.isPrefixOf (writeComment body ++ rest) = true := by
    rw [happ]
    exact List.isPrefixOf_iff_prefix.2 (List.prefix_append _ _)
  rw [afterComment?, if_pos hp, happ]
  exact afterMark?_of_occursFirst (occursFirst_commentEnd h.open_ended rest) (by decide)

/-- At the top level the search for the end mark starts at the dashes of the opening mark. -/
theorem afterTopComment_dashes {body : List Char} (h : IsCommentBody body) (rest : List Char) :
    afterTopComment ('-' :: '-' :: (body ++ ("-->".toList ++ rest))) = rest := by
  have hbody := occursFirst_commentEnd h.open_ended rest
  have hmark : "-->".toList = ['-', '-', '>'] := rfl
  have hone : OccursFirst "-->".toList ('-' :: body) ("-->".toList ++ rest) := by
    refine occursFirst_cons_iff.2 ⟨?_, hbody⟩
    intro hp
    rw [hmark, List.cons_prefix_cons] at hp
    cases body with
    | nil => simp [List.cons_prefix_cons] at hp
    | cons c body =>
      apply h.not_dash_closed
      cases body with
      | nil => simp [List.cons_prefix_cons] at hp
      | cons d body => simpa [List.cons_prefix_cons] using hp.2
  have htwo : OccursFirst "-->".toList ('-' :: '-' :: body) ("-->".toList ++ rest) := by
    refine occursFirst_cons_iff.2 ⟨?_, hone⟩
    intro hp
    rw [hmark] at hp
    cases body with
    | nil => simp [List.cons_prefix_cons] at hp
    | cons c body =>
      apply h.not_closed
      simpa [List.cons_prefix_cons] using hp
  have hfound := afterMark?_of_occursFirst htwo (by decide)
  simp only [List.cons_append] at hfound
  unfold afterTopComment
  rw [hfound]
  rfl

/-! ## Plain content -/

/-- Plain content ends at the first closing tag. -/
theorem cutPlain_of_occursFirst {mark content rest : List Char}
    (h : OccursFirst ('<' :: mark) content ('<' :: mark ++ '>' :: rest)) (hfree : '>' ∉ mark) :
    cutPlain ('<' :: mark) (content ++ ('<' :: mark ++ '>' :: rest)) = some (content, rest) := by
  induction content with
  | nil =>
    have hp : ('<' :: mark).isPrefixOf ('<' :: (mark ++ '>' :: rest)) = true :=
      List.isPrefixOf_iff_prefix.2 (List.prefix_append ('<' :: mark) _)
    have hrun : ∀ c ∈ mark, (c != '>') = true := by
      intro c hc
      simp only [bne_iff_ne, ne_eq]
      rintro rfl
      exact hfree hc
    have hstop : Stops (· != '>') ('>' :: rest) := stops_cons (by decide) rest
    have hdrop := dropWhile_append_stop hrun hstop
    rw [List.nil_append, List.cons_append, cutPlain, if_pos hp, hdrop]
  | cons c content ih =>
    have hc := occursFirst_cons_iff.1 h
    have hp : ¬ ('<' :: mark).isPrefixOf (c :: (content ++ ('<' :: mark ++ '>' :: rest))) = true :=
      fun hp => hc.1 (List.isPrefixOf_iff_prefix.1 hp)
    rw [List.cons_append, cutPlain, if_neg hp, ih hc.2]
    rfl

/-! ## Template content -/

/-- What a search finds when it passes over some text first. -/
def passOver (cs : List Char) (found : Option (List Char × List Char)) :
    Option (List Char × List Char) :=
  found.map fun f => (cs ++ f.1, f.2)

/-- Two texts are passed over as one. -/
theorem passOver_passOver (first second : List Char) (found : Option (List Char × List Char)) :
    passOver first (passOver second found) = passOver (first ++ second) found := by
  cases found <;> simp [passOver]

theorem passOver_nil (found : Option (List Char × List Char)) : passOver [] found = found := by
  cases found <;> rfl

/-- What a cut has read is what it left out of the rest. -/
theorem prepend_append (cs rest : List Char) (found : Option (List Char × List Char)) :
    prepend (cs ++ rest) rest found = passOver cs found := by
  cases found <;> simp [prepend, passOver]

/-- A comment starts with a bracket. -/
theorem afterComment?_cons_of_ne {c : Char} (h : c ≠ '<') (cs : List Char) :
    afterComment? (c :: cs) = none := by
  have hp : ¬ "<!--".toList.isPrefixOf (c :: cs) = true := by
    intro hp
    have hmark : "<!--".toList = ['<', '!', '-', '-'] := rfl
    rw [hmark, List.isPrefixOf_iff_prefix, List.cons_prefix_cons] at hp
    exact h hp.1.symm
  rw [afterComment?, if_neg hp]

/-- A bracket before anything but an exclamation mark starts no comment. -/
theorem afterComment?_bracket_of_ne {c : Char} (h : c ≠ '!') (cs : List Char) :
    afterComment? ('<' :: c :: cs) = none := by
  have hp : ¬ "<!--".toList.isPrefixOf ('<' :: c :: cs) = true := by
    intro hp
    have hmark : "<!--".toList = ['<', '!', '-', '-'] := rfl
    rw [hmark, List.isPrefixOf_iff_prefix, List.cons_prefix_cons, List.cons_prefix_cons] at hp
    exact h hp.2.1.symm
  rw [afterComment?, if_neg hp]

/-- A comment is content, whatever stands in it. -/
theorem cutTemplate_of_comment {depth : Nat} {cs after : List Char}
    (h : afterComment? cs = some after) :
    cutTemplate depth cs = prepend cs after (cutTemplate depth after) := by
  cases cs with
  | nil => simp [afterComment?] at h
  | cons c cs =>
    rw [cutTemplate]
    split
    · rename_i heq
      rw [h] at heq
      simp only [Option.some.injEq] at heq
      rw [heq]
    · rename_i heq
      rw [h] at heq
      simp at heq

/-- A character that is no bracket is content. -/
theorem cutTemplate_cons_of_ne {depth : Nat} {c : Char} (h : c ≠ '<') (cs : List Char) :
    cutTemplate depth (c :: cs) = passOver [c] (cutTemplate depth cs) := by
  have hcomment := afterComment?_cons_of_ne h cs
  rw [cutTemplate]
  split
  · rename_i heq
    rw [hcomment] at heq
    simp at heq
  · rw [if_neg (by simpa using h)]
    exact prepend_append [c] cs _

/-- Text without brackets passes into the content. -/
theorem cutTemplate_text_append {depth : Nat} {cs : List Char} (h : '<' ∉ cs) (rest : List Char) :
    cutTemplate depth (cs ++ rest) = passOver cs (cutTemplate depth rest) := by
  induction cs with
  | nil => exact (passOver_nil _).symm
  | cons c cs ih =>
    simp only [List.mem_cons, not_or] at h
    rw [List.cons_append, cutTemplate_cons_of_ne (Ne.symm h.1), ih h.2, passOver_passOver]
    rfl

/-- A bracket that starts neither a comment nor a template tag is content. -/
theorem cutTemplate_of_nestedTag?_eq_none {depth : Nat} {cs : List Char}
    (hcomment : afterComment? ('<' :: cs) = none) (htag : nestedTag? cs = none) :
    cutTemplate depth ('<' :: cs) = passOver ['<'] (cutTemplate depth cs) := by
  rw [cutTemplate]
  split
  · rename_i heq
    rw [hcomment] at heq
    simp at heq
  · rw [if_pos (by decide)]
    split
    · rename_i heq
      rw [htag] at heq
      simp at heq
    · exact prepend_append ['<'] cs _

/-- A template tag is content unless it closes the template itself. -/
theorem cutTemplate_of_nestedTag? {depth : Nat} {cs : List Char} {tag : NestedTag}
    (hcomment : afterComment? ('<' :: cs) = none) (htag : nestedTag? cs = some tag) :
    cutTemplate depth ('<' :: cs) =
      if tag.closes then
        match depth with
        | 0 => some ([], tag.rest)
        | depth + 1 => prepend ('<' :: cs) tag.rest (cutTemplate depth tag.rest)
      else
        prepend ('<' :: cs) tag.rest
          (cutTemplate (if tag.selfClosed then depth else depth + 1) tag.rest) := by
  rw [cutTemplate]
  split
  · rename_i heq
    rw [hcomment] at heq
    simp at heq
  · rw [if_pos (by decide)]
    split
    · rename_i heq
      rw [htag] at heq
      simp only [Option.some.injEq] at heq
      subst heq
      cases depth <;> rfl
    · rename_i heq
      rw [htag] at heq
      simp at heq

/-! ## Template tags inside a template -/

theorem templateTag_eq : templateTag = ['t', 'e', 'm', 'p', 'l', 'a', 't', 'e'] := rfl

/-- A template tag is read from the text behind its name. -/
theorem nestedTag?_template (inside : List Char) :
    nestedTag? (templateTag ++ inside) =
      if (inside.head?.map isWord).getD false then none
      else
        match inside.dropWhile (· != '>') with
        | [] => none
        | _ :: rest => some ⟨false, isSelfClosed (inside.takeWhile (· != '>')), rest⟩ := by
  rfl

/-- An opening template tag is found with its attributes. -/
theorem nestedTag?_template_append {attributes rest : List Char}
    (hword : Stops isWord attributes) (hfree : '>' ∉ attributes) :
    nestedTag? (templateTag ++ (attributes ++ '>' :: rest)) =
      some ⟨false, isSelfClosed attributes, rest⟩ := by
  have hrun : ∀ c ∈ attributes, (c != '>') = true := by
    intro c hc
    simp only [bne_iff_ne, ne_eq]
    rintro rfl
    exact hfree hc
  have hstop : Stops (· != '>') ('>' :: rest) := stops_cons (by decide) rest
  have hhead : ((attributes ++ '>' :: rest).head?.map isWord).getD false = false := by
    cases attributes with
    | nil =>
      have hbracket : isWord '>' = false := by decide
      exact hbracket
    | cons c attributes => exact hword c rfl
  rw [nestedTag?_template, hhead, takeWhile_append_stop hrun hstop,
    dropWhile_append_stop hrun hstop]
  rfl

/-- A closing template tag is found. -/
theorem nestedTag?_closing (rest : List Char) :
    nestedTag? ('/' :: templateTag ++ '>' :: rest) = some ⟨true, false, rest⟩ := by
  rfl

/-- A tag whose name does not start with that of a template is no template tag. -/
theorem nestedTag?_other {closes : Bool} {inside rest : List Char}
    (hstarts : ∃ c ∈ inside.head?, c.isAlpha = true) (hname : ¬ templateTag <+: inside)
    (hfree : '>' ∉ inside) :
    nestedTag? ((if closes then ['/'] else []) ++ inside ++ '>' :: rest) = none := by
  have hp : ¬ templateTag.isPrefixOf (inside ++ '>' :: rest) = true := by
    intro hp
    exact hname (prefix_of_prefix_append_cons (by decide) inside rest
      (List.isPrefixOf_iff_prefix.1 hp))
  have hslash : ((inside ++ '>' :: rest).head? == some '/') = false := by
    obtain ⟨c, hc, halpha⟩ := hstarts
    cases inside with
    | nil => simp at hc
    | cons d inside =>
      simp only [List.head?_cons, Option.mem_def, Option.some.injEq] at hc
      subst hc
      have hd : d ≠ '/' := by
        rintro rfl
        exact absurd halpha (by decide)
      simpa using hd
  unfold templateTag at hp
  cases closes
  · simp only [nestedTag?, Bool.false_eq_true, if_false, List.nil_append, hslash]
    rw [if_neg hp]
  · simp only [nestedTag?, if_true, List.cons_append, List.nil_append, List.head?_cons,
      beq_self_eq_true, List.drop_one, List.tail_cons]
    rw [if_neg hp]

/-- A self-closed template passes into the content and opens nothing. -/
theorem cutTemplate_closed_append {depth : Nat} {attributes : List Char}
    (h : Piece.IsInside attributes) (rest : List Char) :
    cutTemplate depth ((Piece.closed attributes).write ++ rest) =
      passOver (Piece.closed attributes).write (cutTemplate depth rest) := by
  have happ : (Piece.closed attributes).write ++ rest =
      '<' :: (templateTag ++ ((attributes ++ ['/']) ++ '>' :: rest)) := by
    simp [Piece.write]
  have hcomment : afterComment? ('<' :: (templateTag ++ ((attributes ++ ['/']) ++ '>' :: rest))) =
      none := by
    rw [templateTag_eq]
    exact afterComment?_bracket_of_ne (by decide) _
  have hfree : '>' ∉ attributes ++ ['/'] := by simp [h.2]
  by_cases hword : Stops isWord (attributes ++ ['/'])
  · rw [happ, cutTemplate_of_nestedTag? hcomment (nestedTag?_template_append hword hfree),
      isSelfClosed_concat (by decide), ← happ]
    exact prepend_append _ rest _
  · -- The name goes on, so that this is text in the eyes of the search.
    have hnone : nestedTag? (templateTag ++ ((attributes ++ ['/']) ++ '>' :: rest)) = none := by
      rw [nestedTag?_template]
      cases attributes with
      | nil => exact absurd (stops_cons (by decide) []) hword
      | cons c attributes =>
        have hc : isWord c = true := by
          by_contra hc
          simp only [Bool.not_eq_true] at hc
          exact hword (stops_cons hc _)
        simp [hc]
    have htext : '<' ∉ templateTag ++ attributes ++ ['/', '>'] := by
      simp [templateTag_eq, h.1]
    have hsplit : templateTag ++ ((attributes ++ ['/']) ++ '>' :: rest) =
        (templateTag ++ attributes ++ ['/', '>']) ++ rest := by
      simp only [List.append_assoc, List.cons_append, List.nil_append]
    rw [happ, cutTemplate_of_nestedTag?_eq_none hcomment hnone, hsplit,
      cutTemplate_text_append htext, passOver_passOver]
    simp [Piece.write]

/-- A nested template passes into the content with everything inside it, if that does. -/
theorem cutTemplate_nested_append {depth : Nat} {attributes : List Char} {content : List Piece}
    (h : (Piece.nested attributes content).WellFormed)
    (hcontent : ∀ depth rest, cutTemplate depth (Piece.writeAll content ++ rest) =
      passOver (Piece.writeAll content) (cutTemplate depth rest)) (rest : List Char) :
    cutTemplate depth ((Piece.nested attributes content).write ++ rest) =
      passOver (Piece.nested attributes content).write (cutTemplate depth rest) := by
  obtain ⟨hinside, hblank, hopen, -⟩ := h
  have hword : Stops isWord attributes := fun c hc => isWord_of_isBlank (hblank c hc)
  have happ : (Piece.nested attributes content).write ++ rest =
      '<' :: (templateTag ++ (attributes ++ '>' :: (Piece.writeAll content ++
        '<' :: ('/' :: templateTag ++ '>' :: rest)))) := by
    simp [Piece.write]
  have hcomment : afterComment? ('<' :: (templateTag ++ (attributes ++ '>' ::
      (Piece.writeAll content ++ '<' :: ('/' :: templateTag ++ '>' :: rest))))) = none := by
    rw [templateTag_eq]
    exact afterComment?_bracket_of_ne (by decide) _
  have hcomment' : afterComment? ('<' :: ('/' :: templateTag ++ '>' :: rest)) = none :=
    afterComment?_bracket_of_ne (by decide) _
  rw [happ, cutTemplate_of_nestedTag? hcomment (nestedTag?_template_append hword hinside.2),
    hopen]
  simp only [Bool.false_eq_true, if_false]
  rw [hcontent, cutTemplate_of_nestedTag? hcomment' (nestedTag?_closing rest)]
  simp only [if_true]
  have hopening : '<' :: (templateTag ++ (attributes ++ '>' :: (Piece.writeAll content ++
        '<' :: ('/' :: templateTag ++ '>' :: rest)))) =
      ('<' :: templateTag ++ attributes ++ ['>']) ++ (Piece.writeAll content ++
        '<' :: ('/' :: templateTag ++ '>' :: rest)) := by simp
  have hclosing : '<' :: ('/' :: templateTag ++ '>' :: rest) =
      ('<' :: '/' :: templateTag ++ ['>']) ++ rest := by simp
  rw [hopening, prepend_append, hclosing, prepend_append, passOver_passOver, passOver_passOver]
  simp [Piece.write]

/-- A tag of another name starts no comment. -/
theorem afterComment?_other {closes : Bool} {inside : List Char}
    (h : ∃ c ∈ inside.head?, c.isAlpha = true) (rest : List Char) :
    afterComment? ('<' :: ((if closes then ['/'] else []) ++ inside ++ rest)) = none := by
  cases closes with
  | true => exact afterComment?_bracket_of_ne (by decide) _
  | false =>
    obtain ⟨c, hc, halpha⟩ := h
    cases inside with
    | nil => simp at hc
    | cons d inside =>
      simp only [List.head?_cons, Option.mem_def, Option.some.injEq] at hc
      subst hc
      refine afterComment?_bracket_of_ne ?_ _
      rintro rfl
      exact absurd halpha (by decide)

/-- A tag of another name passes into the content and opens nothing. -/
theorem cutTemplate_other_append {depth : Nat} {closes : Bool} {inside : List Char}
    (h : (Piece.other closes inside).WellFormed) (rest : List Char) :
    cutTemplate depth ((Piece.other closes inside).write ++ rest) =
      passOver (Piece.other closes inside).write (cutTemplate depth rest) := by
  obtain ⟨hinside, hstarts, hname⟩ := h
  have happ : (Piece.other closes inside).write ++ rest =
      '<' :: ((if closes then ['/'] else []) ++ inside ++ '>' :: rest) := by
    simp [Piece.write]
  have htext : '<' ∉ (if closes then ['/'] else []) ++ inside ++ ['>'] := by
    cases closes <;> simp [hinside.1]
  have hsplit : (if closes then ['/'] else []) ++ inside ++ '>' :: rest =
      ((if closes then ['/'] else []) ++ inside ++ ['>']) ++ rest := by simp
  rw [happ, cutTemplate_of_nestedTag?_eq_none (afterComment?_other hstarts _)
    (nestedTag?_other hstarts hname hinside.2), hsplit, cutTemplate_text_append htext,
    passOver_passOver]
  simp [Piece.write]

/-! ## Pieces -/

mutual

/-- A written piece passes into the content of a template, whatever the depth. -/
theorem cutTemplate_write_append {piece : Piece} (h : piece.WellFormed) (depth : Nat)
    (rest : List Char) :
    cutTemplate depth (piece.write ++ rest) = passOver piece.write (cutTemplate depth rest) := by
  cases piece with
  | text cs =>
    rw [Piece.write]
    exact cutTemplate_text_append h rest
  | comment body =>
    rw [Piece.write, cutTemplate_of_comment (afterComment?_writeComment h rest)]
    exact prepend_append _ rest _
  | nested attributes content =>
    exact cutTemplate_nested_append h (cutTemplate_writeAll_append h.2.2.2) rest
  | closed attributes => exact cutTemplate_closed_append h rest
  | other closes inside => exact cutTemplate_other_append h rest

/-- Written pieces pass into the content of a template one by one. -/
theorem cutTemplate_writeAll_append {pieces : List Piece} (h : Piece.AllWellFormed pieces)
    (depth : Nat) (rest : List Char) :
    cutTemplate depth (Piece.writeAll pieces ++ rest) =
      passOver (Piece.writeAll pieces) (cutTemplate depth rest) := by
  cases pieces with
  | nil =>
    rw [Piece.writeAll]
    exact (passOver_nil _).symm
  | cons piece pieces =>
    rw [Piece.writeAll, List.append_assoc, cutTemplate_write_append h.1,
      cutTemplate_writeAll_append h.2, passOver_passOver]

end

end TemplateImports.Component
