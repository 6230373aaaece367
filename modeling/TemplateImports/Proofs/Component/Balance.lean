import TemplateImports.Proofs.Component.BlockStructure

/-!
# Balanced templates

The content of a template may be any text in which the tags of nested templates are balanced and
comments are closed.  Whether a text is balanced is said here without the search for its end: tag by
tag, with the number of templates that are open in front of it.

The search takes a balanced text as it stands, whatever follows.  The induction is on the balance, for
every depth at once.  Conversely, a text that the search takes as it stands in front of every text
is balanced, so that no other texts can be contents.

Main results:

- Predicate `Balanced` says what the content of a template may be.
- Theorem `nestedTag?_eq_some_iff` says which texts are tags of templates.
- Theorem `cutTemplate_balanced_append` says that the search passes over balanced text.
- Theorem `balanced_iff` says that balanced texts are exactly those which the search takes as
  contents.
-/

namespace TemplateImports.Component

open Text

/-! ## Balance -/

/-- The slash of a closing tag. -/
def slash (closes : Bool) : List Char :=
  if closes then ['/'] else []

/-- The text inside a tag of a template, behind its name. -/
structure IsTagInside (inside : List Char) : Prop where
  stops : Stops isWord inside
  no_bracket : '>' ∉ inside

/-- A tag of a template, with the text behind it. -/
def writeTag (closes : Bool) (inside rest : List Char) : List Char :=
  slash closes ++ (templateTag ++ (inside ++ '>' :: rest))

/-- Text behind a bracket that starts like a tag of a template. -/
def StartsTag (cs : List Char) : Prop :=
  ∃ closes inside, cs = slash closes ++ (templateTag ++ inside) ∧ Stops isWord inside

/-- How many nested templates are open behind a tag; there is no such number behind the end tag of the
whole template. -/
def depthBehind (depth : Nat) (closes selfClosed : Bool) : Option Nat :=
  match closes, depth with
  | true, 0 => none
  | true, depth + 1 => some depth
  | false, depth => some (if selfClosed then depth else depth + 1)

/-- A text that closes the templates that are open in front of it and those that it opens itself, and in
which every comment is closed. -/
inductive Balanced : Nat → List Char → Prop where
  | nil : Balanced 0 []
  | text {depth : Nat} {c : Char} {cs : List Char} (hc : c ≠ '<') (h : Balanced depth cs) :
      Balanced depth (c :: cs)
  /-- A bracket that starts neither a comment nor a tag of a template. -/
  | bracket {depth : Nat} {cs : List Char} (hcomment : ¬ "!--".toList <+: cs)
      (htag : ¬ StartsTag cs) (h : Balanced depth cs) : Balanced depth ('<' :: cs)
  | comment {depth : Nat} {body cs : List Char} (hbody : ¬ "-->".toList <:+: body)
      (h : Balanced depth cs) : Balanced depth (writeComment body ++ cs)
  | tag {depth behind : Nat} {closes : Bool} {inside cs : List Char} (hinside : IsTagInside inside)
      (hdepth : depthBehind depth closes (isSelfClosed inside) = some behind)
      (h : Balanced behind cs) : Balanced depth ('<' :: writeTag closes inside cs)

/-- Text without brackets is balanced. -/
theorem balanced_of_no_bracket {cs : List Char} (h : '<' ∉ cs) : Balanced 0 cs := by
  induction cs with
  | nil => exact .nil
  | cons c cs ih =>
    simp only [List.mem_cons, not_or] at h
    exact .text (Ne.symm h.1) (ih h.2)

/-! ## Tags of templates -/

/-- Text without a character is a run of other characters. -/
theorem not_mem_run {d : Char} {cs : List Char} (h : d ∉ cs) : ∀ c ∈ cs, (c != d) = true := by
  intro c hc
  simp only [bne_iff_ne, ne_eq]
  rintro rfl
  exact h hc

/-- A class that does not take a character goes on to the same place in front of it. -/
theorem stops_append_cons_iff {p : Char → Bool} {c : Char} (hc : p c = false)
    {cs rest : List Char} : Stops p (cs ++ c :: rest) ↔ Stops p cs := by
  cases cs <;> simp [Stops, hc]

/-- A tag of a template is read from the text behind its name. -/
theorem nestedTag?_slash (closes : Bool) (inside : List Char) :
    nestedTag? (slash closes ++ (templateTag ++ inside)) =
      if (inside.head?.map isWord).getD false then none
      else
        match inside.dropWhile (· != '>') with
        | [] => none
        | _ :: rest => some ⟨closes, isSelfClosed (inside.takeWhile (· != '>')), rest⟩ := by
  cases closes <;> rfl

theorem stops_isWord_iff {inside : List Char} :
    Stops isWord inside ↔ (inside.head?.map isWord).getD false = false := by
  cases inside <;> simp [Stops]

/-- What is read as a tag of a template starts like one. -/
theorem exists_of_nestedTag?_ne_none {cs : List Char} (h : nestedTag? cs ≠ none) :
    ∃ closes inside, cs = slash closes ++ (templateTag ++ inside) := by
  by_contra hno
  have hprefix : ∀ closes rest, cs = slash closes ++ rest → ¬ templateTag <+: rest := by
    rintro closes rest rfl ⟨inside, rfl⟩
    exact hno ⟨closes, inside, rfl⟩
  rw [templateTag_eq] at hprefix
  apply h
  by_cases hslash : cs.head? = some '/'
  · obtain ⟨rest, rfl⟩ := List.head?_eq_some_iff.1 hslash
    simp [nestedTag?, hprefix true rest rfl]
  · simp [nestedTag?, hslash, hprefix false cs rfl]

/-- Tags of templates are read from the texts that are written like one. -/
theorem nestedTag?_eq_some_iff {cs : List Char} {tag : NestedTag} :
    nestedTag? cs = some tag ↔
      ∃ inside, cs = writeTag tag.closes inside tag.rest ∧
        IsTagInside inside ∧ isSelfClosed inside = tag.selfClosed := by
  constructor
  · intro h
    have hsome : nestedTag? cs ≠ none := by simp [h]
    obtain ⟨closes, behind, rfl⟩ := exists_of_nestedTag?_ne_none hsome
    rw [nestedTag?_slash] at h
    split at h
    · cases h
    · rename_i hword
      have hstops := stops_isWord_iff.2 (Bool.eq_false_iff.2 hword)
      split at h
      · cases h
      · rename_i c rest hrest
        cases h
        obtain ⟨inside, hbehind, hfree⟩ :
            ∃ inside, behind = inside ++ '>' :: rest ∧ '>' ∉ inside := by
          obtain rfl : c = '>' := by
            simpa [hrest] using List.head?_dropWhile_not (· != '>') behind
          refine ⟨behind.takeWhile (· != '>'), ?_, fun hmem => ?_⟩
          · rw [← hrest, List.takeWhile_append_dropWhile]
          · simpa using List.mem_takeWhile_imp hmem
        have hrun := not_mem_run hfree
        subst hbehind
        have hstop : Stops (· != '>') ('>' :: rest) := stops_cons (by decide) rest
        rw [takeWhile_append_stop hrun hstop]
        exact ⟨inside, rfl, ⟨(stops_append_cons_iff (by decide)).1 hstops, hfree⟩, rfl⟩
  · rintro ⟨inside, rfl, hinside, hclosed⟩
    have hrun := not_mem_run hinside.no_bracket
    have hstop : Stops (· != '>') ('>' :: tag.rest) := stops_cons (by decide) tag.rest
    have hstops : Stops isWord (inside ++ '>' :: tag.rest) :=
      (stops_append_cons_iff (by decide)).2 hinside.stops
    rw [writeTag, nestedTag?_slash, stops_isWord_iff.1 hstops, takeWhile_append_stop hrun hstop,
      dropWhile_append_stop hrun hstop, hclosed]
    rfl

/-- A bracket that starts no tag of a template starts none in front of another bracket. -/
theorem nestedTag?_append_eq_none {cs : List Char} (h : ¬ StartsTag cs) (rest : List Char) :
    nestedTag? (cs ++ '<' :: rest) = none := by
  by_contra hne
  obtain ⟨tag, htag⟩ := Option.ne_none_iff_exists'.1 hne
  obtain ⟨inside, hcs, hinside, -⟩ := nestedTag?_eq_some_iff.1 htag
  have hfree : '<' ∉ slash tag.closes ++ templateTag := by
    cases tag.closes <;> decide
  have hprefix : slash tag.closes ++ templateTag <+: cs := by
    refine prefix_of_prefix_append_cons hfree cs rest ⟨inside ++ '>' :: tag.rest, ?_⟩
    rw [hcs, writeTag, List.append_assoc]
  obtain ⟨tail, rfl⟩ := hprefix
  have htail : tail ++ '<' :: rest = inside ++ '>' :: tag.rest := by
    simpa [writeTag] using hcs
  have hstops : Stops isWord (tail ++ '<' :: rest) := by
    rw [htail]
    exact (stops_append_cons_iff (by decide)).2 hinside.stops
  exact h ⟨tag.closes, tail, List.append_assoc .., (stops_append_cons_iff (by decide)).1 hstops⟩

/-! ## The search, item by item -/

theorem afterComment?_writeTag (closes : Bool) (inside rest : List Char) :
    afterComment? ('<' :: writeTag closes inside rest) = none := by
  cases closes <;> exact afterComment?_bracket_of_ne (by decide) _

theorem afterComment?_eq_none {cs : List Char} (h : ¬ "!--".toList <+: cs) :
    afterComment? ('<' :: cs) = none := by
  have hp : ¬ "<!--".toList.isPrefixOf ('<' :: cs) = true := by
    intro hp
    have hmark : "<!--".toList = '<' :: "!--".toList := rfl
    rw [hmark, List.isPrefixOf_iff_prefix, List.cons_prefix_cons] at hp
    exact h hp.2
  rw [afterComment?, if_neg hp]

/-- The search passes over a comment. -/
theorem cutTemplate_comment_append {body : List Char} (h : ¬ "-->".toList <:+: body) (depth : Nat)
    (rest : List Char) :
    cutTemplate depth (writeComment body ++ rest) =
      passOver (writeComment body) (cutTemplate depth rest) := by
  have happ : writeComment body ++ rest = "<!--".toList ++ (body ++ ("-->".toList ++ rest)) := by
    simp only [writeComment, List.append_assoc]
  have hp : "<!--".toList.isPrefixOf (writeComment body ++ rest) = true := by
    rw [happ]
    exact List.isPrefixOf_iff_prefix.2 (List.prefix_append _ _)
  have hafter : afterComment? (writeComment body ++ rest) = some rest := by
    rw [afterComment?, if_pos hp, happ]
    exact afterMark?_of_occursFirst (occursFirst_commentEnd h rest) (by decide)
  rw [cutTemplate_of_comment hafter, prepend_append]

/-- The search passes over a tag of a template, unless it is the end tag of the whole template. -/
theorem cutTemplate_writeTag {inside : List Char} (h : IsTagInside inside) (depth : Nat)
    (closes : Bool) (rest : List Char) :
    cutTemplate depth ('<' :: writeTag closes inside rest) =
      match depthBehind depth closes (isSelfClosed inside) with
      | none => some ([], rest)
      | some behind => passOver ('<' :: writeTag closes inside []) (cutTemplate behind rest) := by
  have htag : nestedTag? (writeTag closes inside rest) =
      some ⟨closes, isSelfClosed inside, rest⟩ :=
    nestedTag?_eq_some_iff.2 ⟨inside, rfl, h, rfl⟩
  have hsplit : '<' :: writeTag closes inside rest =
      '<' :: writeTag closes inside [] ++ rest := by
    simp [writeTag]
  rw [cutTemplate_of_nestedTag? (afterComment?_writeTag closes inside rest) htag, hsplit]
  cases closes with
  | false => exact prepend_append _ rest _
  | true =>
    cases depth with
    | zero => rfl
    | succ depth => exact prepend_append _ rest _

/-- The search passes over balanced text in front of a bracket, and no nested template is open behind
it. -/
theorem cutTemplate_balanced_append {depth : Nat} {cs : List Char} (h : Balanced depth cs)
    (rest : List Char) :
    cutTemplate depth (cs ++ '<' :: rest) = passOver cs (cutTemplate 0 ('<' :: rest)) := by
  induction h with
  | nil => exact (passOver_nil _).symm
  | text hc _ ih =>
    rw [List.cons_append, cutTemplate_cons_of_ne hc, ih, passOver_passOver]
    rfl
  | @bracket depth cs hcomment htag _ ih =>
    have hnone : afterComment? ('<' :: (cs ++ '<' :: rest)) = none :=
      afterComment?_eq_none fun hp =>
        hcomment (prefix_of_prefix_append_cons (by decide) cs rest hp)
    rw [List.cons_append,
      cutTemplate_of_nestedTag?_eq_none hnone (nestedTag?_append_eq_none htag rest), ih,
      passOver_passOver]
    rfl
  | @comment depth body cs hbody _ ih =>
    rw [List.append_assoc, cutTemplate_comment_append hbody, ih, passOver_passOver]
  | @tag depth behind closes inside cs hinside hdepth _ ih =>
    have hsplit : '<' :: writeTag closes inside cs ++ '<' :: rest =
        '<' :: writeTag closes inside (cs ++ '<' :: rest) := by
      simp [writeTag]
    rw [hsplit, cutTemplate_writeTag hinside, hdepth]
    dsimp only
    rw [ih, passOver_passOver]
    congr 1
    simp [writeTag]

/-- The end tag of a template. -/
def endTag : List Char :=
  '<' :: writeTag true [] []

/-- Balanced text is cut off at the end tag behind it. -/
theorem cutTemplate_of_balanced {cs : List Char} (h : Balanced 0 cs) (rest : List Char) :
    cutTemplate 0 (cs ++ (endTag ++ rest)) = some (cs, rest) := by
  have hend : endTag ++ rest = '<' :: writeTag true [] rest := rfl
  have hinside : IsTagInside [] := ⟨stops_nil _, by simp⟩
  rw [hend, cutTemplate_balanced_append h, cutTemplate_writeTag hinside]
  simp [depthBehind, passOver]

/-! ## Only balanced text is a content -/

theorem passOver_eq_some_iff {front cs rest : List Char} {found : Option (List Char × List Char)} :
    passOver front found = some (front ++ cs, rest) ↔ found = some (cs, rest) := by
  cases found with
  | none => simp [passOver]
  | some f => simp [passOver, Prod.ext_iff]

/-- What a search finds is not shorter than what it passes over. -/
theorem length_le_of_passOver {front cs rest : List Char}
    {found : Option (List Char × List Char)} (h : passOver front found = some (cs, rest)) :
    front.length ≤ cs.length := by
  cases found with
  | none => simp [passOver] at h
  | some f =>
    simp only [passOver, Option.map_some, Option.some.injEq, Prod.mk.injEq] at h
    simp [← h.1]

/-- A part that occurs in a text occurs behind some text without it. -/
theorem exists_before_first {part cs : List Char} (hne : part ≠ []) (h : part <:+: cs) :
    ∃ before after, cs = before ++ (part ++ after) ∧ ¬ part <:+: before := by
  induction cs with
  | nil => exact absurd (List.infix_nil.1 h) hne
  | cons c cs ih =>
    by_cases hstart : part <+: c :: cs
    · obtain ⟨after, hafter⟩ := hstart
      exact ⟨[], after, hafter.symm, fun hnil => hne (List.infix_nil.1 hnil)⟩
    · rcases List.infix_cons_iff.1 h with hp | hrest
      · exact absurd hp hstart
      · obtain ⟨before, after, rfl, hfree⟩ := ih hrest
        refine ⟨c :: before, after, rfl, fun hin => ?_⟩
        rcases List.infix_cons_iff.1 hin with hp | hin
        · exact hstart (hp.trans (List.prefix_append (c :: before) _))
        · exact hfree hin

/-- A comment that is not closed in a text ends in some text behind the end tag, and the end tag is
part of it. -/
theorem cutTemplate_open_comment {body : List Char} (h : ¬ "-->".toList <:+: body) (depth : Nat) :
    cutTemplate depth ('<' :: ("!--".toList ++ body) ++ (endTag ++ "-->".toList)) = none := by
  have hfree : ¬ "-->".toList <:+: body ++ endTag := by
    intro hin
    rcases infix_of_infix_append_cons (c := '<') (by decide) body _ hin with hin | hin
    · exact h hin
    · exact absurd hin (by decide)
  have happ : '<' :: ("!--".toList ++ body) ++ (endTag ++ "-->".toList) =
      writeComment (body ++ endTag) ++ [] := by
    simp [writeComment]
  rw [happ, cutTemplate_comment_append hfree, cutTemplate]
  rfl

/-- A tag that is not closed in a text takes the end tag with it. -/
theorem cutTemplate_open_tag {inside : List Char} (h : IsTagInside inside) {depth : Nat}
    {closes : Bool} {content rest : List Char}
    (hcut : cutTemplate depth ('<' :: (slash closes ++ (templateTag ++ inside)) ++
      (endTag ++ rest)) = some (content, rest)) :
    content.length ≠ ('<' :: (slash closes ++ (templateTag ++ inside))).length := by
  have hinside : IsTagInside (inside ++ '<' :: '/' :: templateTag) :=
    ⟨(stops_append_cons_iff (by decide)).2 h.stops, by simp [h.no_bracket, templateTag_eq]⟩
  have happ : '<' :: (slash closes ++ (templateTag ++ inside)) ++ (endTag ++ rest) =
      '<' :: writeTag closes (inside ++ '<' :: '/' :: templateTag) rest := by
    simp [writeTag, endTag, slash]
  rw [happ, cutTemplate_writeTag hinside] at hcut
  split at hcut
  · cases hcut
    simp
  · have hlen := length_le_of_passOver hcut
    simp only [writeTag, List.length_cons, List.length_append] at hlen ⊢
    omega

/-- A text that the search takes as it stands, in front of an end tag and any text, is balanced. -/
theorem balanced_of_cutTemplate {depth : Nat} {cs : List Char}
    (h : ∀ rest, cutTemplate depth (cs ++ (endTag ++ rest)) = some (cs, rest)) :
    Balanced depth cs := by
  induction hlen : cs.length using Nat.strong_induction_on generalizing depth cs with
  | _ n ih =>
  -- What follows an item of the text is taken as it stands as well.
  have hnext : ∀ (front : List Char) {back : List Char} {behind : Nat}, cs = front ++ back →
      front ≠ [] →
      (∀ rest, cutTemplate depth (front ++ (back ++ (endTag ++ rest))) =
        passOver front (cutTemplate behind (back ++ (endTag ++ rest)))) → Balanced behind back := by
    rintro front back behind rfl hne hfront
    have hpos := List.length_pos_of_ne_nil hne
    refine ih back.length (by simp only [List.length_append] at hlen; omega) (fun rest => ?_) rfl
    have hall := h rest
    rwa [List.append_assoc, hfront rest, passOver_eq_some_iff] at hall
  cases cs with
  | nil =>
    have hnil := h []
    have hinside : IsTagInside [] := ⟨stops_nil _, by simp⟩
    have hend : [] ++ (endTag ++ []) = '<' :: writeTag true [] [] := rfl
    rw [hend, cutTemplate_writeTag hinside] at hnil
    cases depth with
    | zero => exact .nil
    | succ depth => simpa [depthBehind, writeTag] using length_le_of_passOver hnil
  | cons c cs =>
    by_cases hc : c = '<'
    · subst hc
      by_cases hcomment : "!--".toList <+: cs
      · obtain ⟨body, rfl⟩ := hcomment
        by_cases hclosed : "-->".toList <:+: body
        · obtain ⟨body, back, rfl, hfree⟩ := exists_before_first (by decide) hclosed
          have hwrite : '<' :: ("!--".toList ++ (body ++ ("-->".toList ++ back))) =
              writeComment body ++ back := by
            simp [writeComment]
          rw [hwrite]
          exact .comment hfree (hnext _ hwrite (by simp [writeComment]) fun rest =>
            cutTemplate_comment_append hfree depth _)
        · have hnone := h "-->".toList
          rw [cutTemplate_open_comment hclosed] at hnone
          cases hnone
      · by_cases htag : StartsTag cs
        · obtain ⟨closes, inside, rfl, hstops⟩ := htag
          by_cases hbracket : '>' ∈ inside
          · obtain ⟨inside, back, rfl, hfree⟩ := List.eq_append_cons_of_mem hbracket
            have hinside : IsTagInside inside :=
              ⟨(stops_append_cons_iff (by decide)).1 hstops, hfree⟩
            have hsplit : ∀ behind, '<' :: writeTag closes inside [] ++ behind =
                '<' :: writeTag closes inside behind := by
              simp [writeTag]
            cases hdepth : depthBehind depth closes (isSelfClosed inside) with
            | none =>
              have hnil := h []
              have happ : '<' :: (slash closes ++ (templateTag ++ (inside ++ '>' :: back))) ++
                  (endTag ++ []) = '<' :: writeTag closes inside (back ++ endTag) := by
                simp [writeTag]
              rw [happ, cutTemplate_writeTag hinside, hdepth] at hnil
              cases hnil
            | some behind =>
              refine .tag hinside hdepth (hnext ('<' :: writeTag closes inside [])
                (by simp [writeTag]) (by simp) fun rest => ?_)
              rw [hsplit, cutTemplate_writeTag hinside, hdepth]
          · exact absurd rfl (cutTemplate_open_tag ⟨hstops, hbracket⟩ (h []))
        · refine .bracket hcomment htag (hnext ['<'] rfl (by simp) fun rest => ?_)
          have hnone : afterComment? ('<' :: (cs ++ (endTag ++ rest))) = none :=
            afterComment?_eq_none fun hp =>
              hcomment (prefix_of_prefix_append_cons (by decide) cs _ hp)
          exact cutTemplate_of_nestedTag?_eq_none hnone (nestedTag?_append_eq_none htag _)
    · refine .text hc (hnext [c] rfl (by simp) fun rest => ?_)
      exact cutTemplate_cons_of_ne hc _

/-- A text may be the content of a template, whatever follows its end tag, exactly if it is
balanced. -/
theorem balanced_iff {cs : List Char} :
    Balanced 0 cs ↔ ∀ rest, cutTemplate 0 (cs ++ (endTag ++ rest)) = some (cs, rest) :=
  ⟨cutTemplate_of_balanced, balanced_of_cutTemplate⟩

end TemplateImports.Component
