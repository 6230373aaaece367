import TemplateImports.Proofs.Component.Balance

/-!
# Brackets in attribute values

The attributes of a tag are read as text up to the first closing bracket, and only then taken apart.
So a closing bracket ends the tag also inside a quoted value: what stands behind it belongs to the
content, and the value is cut off.  A slash in front of it even makes the tag a self-closed one.

Main results:

- Theorem `not_mem_of_mem_attributeList` says that no value that is read holds a closing bracket.
- Theorem `blocks_bracket_append` says what becomes of a block with such a value.
- Theorem `cutTemplate_bracket` says how a nested template with such a value is counted.
- Theorem `parse_bracket_in_value` says what component is read.
-/

namespace TemplateImports.Component

open Text

/-! ## Values -/

/-- What is read as a value stands in the text, and so does what follows. -/
theorem sublist_of_readValue? {cs value rest : List Char} (h : readValue? cs = some (value, rest)) :
    value.Sublist cs ∧ rest.Sublist cs := by
  unfold readValue? at h
  split at h
  · split at h
    · cases h
    · rename_i c inside
      split at h
      · rename_i hdrop
        cases h
        have hrest := (List.sublist_cons_self _ _).trans
          (hdrop ▸ List.dropWhile_sublist (· != c) (l := inside))
        exact ⟨((List.takeWhile_sublist _).trans (List.sublist_cons_self ..)).cons _,
          (hrest.trans (List.sublist_cons_self ..)).cons _⟩
      · split at h
        · cases h
          exact ⟨((List.takeWhile_sublist _).cons_cons c).cons _,
            ((List.dropWhile_sublist _).cons c).cons _⟩
        · cases h
  · cases h

/-- A character that does not stand in attribute text does not stand in a value that is read from
it. -/
theorem not_mem_of_mem_attributeList {d : Char} {cs : List Char} (h : d ∉ cs)
    (hd : d ∉ "true".toList) {entry : String × String} (hentry : entry ∈ attributeList cs) :
    d ∉ entry.2.toList := by
  fun_induction attributeList cs with
  | case1 => cases hentry
  | case2 c cs hc name value rest hread ih =>
    obtain ⟨hvalue, hrest⟩ := sublist_of_readValue? hread
    have hdrop := (List.dropWhile_sublist (l := cs) isAttributeChar).cons c
    rcases List.mem_cons.1 hentry with rfl | hentry
    · rw [String.toList_ofList]
      exact fun hmem => h ((hvalue.trans hdrop).mem hmem)
    · exact ih (fun hmem => h ((hrest.trans hdrop).mem hmem)) hentry
  | case3 c cs hc name hread ih =>
    have hdrop := (List.dropWhile_sublist (l := cs) isAttributeChar).cons c
    rcases List.mem_cons.1 hentry with rfl | hentry
    · exact hd
    · exact ih (fun hmem => h (hdrop.mem hmem)) hentry
  | case4 c cs hc ih => exact ih (fun hmem => h (List.mem_cons_of_mem c hmem)) hentry

theorem mem_of_mem_foldl_put {added entries : List (String × String)} {entry : String × String}
    (h : entry ∈ added.foldl (fun entries a => KeyedList.put a.1 a.2 entries) entries) :
    entry ∈ added ∨ entry ∈ entries := by
  induction added generalizing entries with
  | nil => exact .inr h
  | cons first added ih =>
    rcases ih h with h | h
    · exact .inl (List.mem_cons_of_mem _ h)
    · rcases KeyedList.mem_of_mem_put h with rfl | h
      · exact .inl List.mem_cons_self
      · exact .inr h

/-- Attributes never have a value with a closing bracket. -/
theorem lookup_readAttributes_ne {cs value : List Char} (h : '>' ∉ cs) (hvalue : '>' ∈ value)
    (key : String) : (readAttributes cs).lookup key ≠ some (String.ofList value) := by
  intro hlookup
  obtain ⟨before, after, hentries, -⟩ := List.lookup_eq_some_iff.1 hlookup
  have hentry : (key, String.ofList value) ∈ readAttributes cs := by simp [hentries]
  have hmem := (mem_of_mem_foldl_put hentry).resolve_right (by simp)
  exact not_mem_of_mem_attributeList h (by decide) hmem (by simpa using hvalue)

/-! ## Tags that are cut off inside a value -/

/-- The attribute text of a tag up to some place in a value. -/
def openValue (name before : List Char) : List Char :=
  ' ' :: name ++ '=' :: '"' :: before

theorem not_mem_openValue {name before : List Char}
    (hname : ∀ c ∈ name, WrittenAttribute.isNameChar c = true) (hbefore : '>' ∉ before) :
    '>' ∉ openValue name before := by
  have hfree : '>' ∉ name := fun hmem => absurd (hname '>' hmem) (by decide)
  simp [openValue, hfree, hbefore]

theorem isBlank_head_openValue (name before : List Char) :
    ∀ c ∈ (openValue name before).head?, isBlank c = true := by
  intro c hc
  cases hc
  decide

/-- Whether a tag is a self-closed one is decided by the part of the value. -/
theorem isSelfClosed_openValue (name before : List Char) :
    isSelfClosed (openValue name before) = isSelfClosed before := by
  have htrim : trimEnd (openValue name before) = openValue name (trimEnd before) := by
    have hreverse : (openValue name before).reverse =
        before.reverse ++ '"' :: (' ' :: name ++ ['=']).reverse := by
      simp [openValue]
    rw [trimEnd, hreverse, dropWhile_append_of_stops (stops_cons (by decide) _)]
    simp [openValue, trimEnd]
  unfold isSelfClosed
  rw [htrim]
  rcases List.eq_nil_or_concat (trimEnd before) with hnil | ⟨start, last, hlast⟩
  · have hquote : openValue name [] = (' ' :: name ++ ['=']) ++ ['"'] := by simp [openValue]
    rw [hnil, hquote, List.getLast?_concat]
    rfl
  · have happ : openValue name (start ++ [last]) = openValue name start ++ [last] := by
      simp [openValue]
    rw [hlast, List.concat_eq_append, happ, List.getLast?_concat, List.getLast?_concat]

/-- An end tag without a block in front of it is passed over. -/
theorem blocks_endTag_append {tag : List Char} (htag : IsTag tag) (rest : List Char) :
    blocks ('<' :: '/' :: tag ++ '>' :: rest) = blocks rest := by
  have hfree : '<' ∉ '/' :: tag ++ ['>'] := by
    have hmem : '<' ∉ tag := fun hmem => absurd (htag.chars '<' hmem) (by decide)
    simp [hmem]
  have hmark : ¬ "!--".toList.isPrefixOf ('/' :: (tag ++ '>' :: rest)) = true := by
    rw [List.isPrefixOf_iff_prefix]
    rintro ⟨tail, htail⟩
    cases htail
  have hnone : opening? ('/' :: (tag ++ '>' :: rest)) = none := rfl
  have happ : '/' :: (tag ++ '>' :: rest) = '/' :: tag ++ ['>'] ++ rest := by simp
  calc blocks ('<' :: '/' :: tag ++ '>' :: rest)
      = blocks ('/' :: (tag ++ '>' :: rest)) := by
        rw [List.cons_append, List.cons_append, blocks, if_pos (by decide), if_neg hmark]
        split
        · rfl
        · rename_i heq
          rw [hnone] at heq
          cases heq
    _ = blocks rest := by rw [happ, blocks_text_append hfree]

/-- The value of an attribute of a block is cut off at its first closing bracket, and its remainder
is the start of the content, or is lost behind a slash. -/
theorem blocks_bracket_append {tag name before behind content : List Char} (htag : IsTag tag)
    (hne : tag ≠ templateTag) (hname : ∀ c ∈ name, WrittenAttribute.isNameChar c = true)
    (hbefore : '>' ∉ before) (hbehind : '<' ∉ behind) (hcontent : '<' ∉ content)
    (rest : List Char) :
    blocks (writeBlock tag [.valued name (before ++ '>' :: behind)] content ++ rest) =
      makeBlock tag (openValue name before)
          (if isSelfClosed before then [] else behind ++ '"' :: '>' :: content) ::
        blocks rest := by
  have hfree := not_mem_openValue hname hbefore
  have hblank := isBlank_head_openValue name before
  have hclosed := isSelfClosed_openValue name before
  have htext : '<' ∉ behind ++ '"' :: '>' :: content := by simp [hbehind, hcontent]
  have happ : writeBlock tag [.valued name (before ++ '>' :: behind)] content ++ rest =
      '<' :: (tag ++ openValue name before ++
        '>' :: (behind ++ '"' :: '>' :: content ++ ('<' :: '/' :: tag ++ '>' :: rest))) := by
    simp [writeBlock, writeAttributes, WrittenAttribute.write, openValue]
  rw [happ]
  cases hself : isSelfClosed before with
  | true =>
    rw [blocks_closed htag hblank hfree (hclosed.trans hself), blocks_text_append htext,
      blocks_endTag_append htag]
    rfl
  | false =>
    have hcut := cutContent_plain htag hne (fun hin => htext (hin.sublist.mem (by simp))) rest
    rw [blocks_opened htag hblank hfree (hclosed.trans hself) hcut]
    rfl

/-! ## Nested templates -/

/-- Text without brackets may stand in front of balanced text. -/
theorem Balanced.text_append {depth : Nat} {cs rest : List Char} (hcs : '<' ∉ cs)
    (h : Balanced depth rest) : Balanced depth (cs ++ rest) := by
  induction cs with
  | nil => exact h
  | cons c cs ih =>
    simp only [List.mem_cons, not_or] at hcs
    exact .text (Ne.symm hcs.1) (ih hcs.2)

/-- Balanced text by itself has no end tag. -/
theorem cutTemplate_balanced {depth : Nat} {cs : List Char} (h : Balanced depth cs) :
    cutTemplate depth cs = none := by
  induction h with
  | nil => rw [cutTemplate]
  | text hc _ ih => rw [cutTemplate_cons_of_ne hc, ih]; rfl
  | @bracket depth cs hcomment htag _ ih =>
    have hnone : nestedTag? cs = none := by
      by_contra hne
      obtain ⟨tag, hsome⟩ := Option.ne_none_iff_exists'.1 hne
      obtain ⟨inside, rfl, hinside, -⟩ := nestedTag?_eq_some_iff.1 hsome
      exact htag ⟨tag.closes, inside ++ '>' :: tag.rest, rfl,
        (stops_append_cons_iff (by decide)).2 hinside.stops⟩
    rw [cutTemplate_of_nestedTag?_eq_none (afterComment?_eq_none hcomment) hnone, ih]
    rfl
  | comment hbody _ ih => rw [cutTemplate_comment_append hbody, ih]; rfl
  | tag hinside hdepth _ ih =>
    rw [cutTemplate_writeTag hinside, hdepth]
    dsimp only
    rw [ih]
    rfl

theorem not_startsTag_append {cs : List Char} (h : ¬ StartsTag cs) (rest : List Char) :
    ¬ StartsTag (cs ++ '<' :: rest) := by
  rintro ⟨closes, inside, heq, hstops⟩
  have hfree : '<' ∉ slash closes ++ templateTag := by
    cases closes <;> decide
  obtain ⟨tail, rfl⟩ := prefix_of_prefix_append_cons hfree cs rest
    ⟨inside, by rw [heq, List.append_assoc]⟩
  obtain rfl : tail ++ '<' :: rest = inside := by simpa using heq
  exact h ⟨closes, tail, List.append_assoc .., (stops_append_cons_iff (by decide)).1 hstops⟩

/-- Templates that are open in front of a balanced text may be closed behind it. -/
theorem Balanced.append {depth behind : Nat} {cs rest : List Char} (h : Balanced depth cs)
    (hrest : Balanced behind ('<' :: rest)) : Balanced (depth + behind) (cs ++ '<' :: rest) := by
  induction h with
  | nil => simpa using hrest
  | text hc _ ih => exact .text hc ih
  | @bracket depth cs hcomment htag _ ih =>
    exact .bracket (fun hp => hcomment (prefix_of_prefix_append_cons (by decide) cs rest hp))
      (not_startsTag_append htag rest) ih
  | comment hbody _ ih =>
    rw [List.append_assoc]
    exact .comment hbody ih
  | @tag depth after closes inside cs hinside hdepth _ ih =>
    have hsplit : '<' :: writeTag closes inside cs ++ '<' :: rest =
        '<' :: writeTag closes inside (cs ++ '<' :: rest) := by
      simp [writeTag]
    have hshift : depthBehind (depth + behind) closes (isSelfClosed inside) =
        some (after + behind) := by
      cases closes with
      | false =>
        cases hself : isSelfClosed inside <;> simp_all [depthBehind]
        omega
      | true => cases depth <;> simp_all [depthBehind, Nat.add_right_comm]
    rw [hsplit]
    exact .tag hinside hshift ih

/-- A nested template whose value has a closing bracket is self-closed only if a slash stands in
front of the bracket.  Otherwise it takes the end tag of the whole template for its own, and the
template has no end. -/
theorem cutTemplate_bracket {name before cs rest : List Char}
    (hname : ∀ c ∈ name, WrittenAttribute.isNameChar c = true) (hbefore : '>' ∉ before)
    (hcs : Balanced 0 cs) (hrest : Balanced 0 rest) :
    cutTemplate 0 ('<' :: writeTag false (openValue name before) (cs ++ (endTag ++ rest))) =
      if isSelfClosed before then some ('<' :: writeTag false (openValue name before) cs, rest)
      else none := by
  have hinside : IsTagInside (openValue name before) :=
    ⟨stops_cons (by decide) _, not_mem_openValue hname hbefore⟩
  have hclosed := isSelfClosed_openValue name before
  cases hself : isSelfClosed before with
  | true =>
    have hbalanced : Balanced 0 ('<' :: writeTag false (openValue name before) cs) :=
      .tag hinside (by rw [hclosed, hself]; rfl) hcs
    have happ : '<' :: writeTag false (openValue name before) (cs ++ (endTag ++ rest)) =
        '<' :: writeTag false (openValue name before) cs ++ (endTag ++ rest) := by
      simp [writeTag]
    rw [happ, cutTemplate_of_balanced hbalanced, if_pos rfl]
  | false =>
    have hend : Balanced 1 ('<' :: writeTag true [] rest) :=
      .tag ⟨stops_nil _, by simp⟩ rfl hrest
    have hbalanced : Balanced 0
        ('<' :: writeTag false (openValue name before) (cs ++ (endTag ++ rest))) :=
      .tag hinside (by rw [hclosed, hself]; rfl) (by exact hcs.append hend)
    rw [cutTemplate_balanced hbalanced, if_neg (by simp)]

/-! ## Components -/

/-- The name of a script block. -/
def scriptTag : List Char :=
  "script".toList

/-- The content of a template: a self-closed nested template with a value, and a paragraph. -/
def nestedValue (value : List Char) : List Char :=
  Piece.writeAll
    [.closed (writeAttributes [.valued "v-if".toList value] ++ [' ']), .other false ['p'],
      .other true ['p']]

theorem isTag_scriptTag : IsTag scriptTag :=
  ⟨⟨'s', rfl, by decide⟩, by decide⟩

theorem not_startsTag_cons {c : Char} (hslash : c ≠ '/') (ht : c ≠ 't') (cs : List Char) :
    ¬ StartsTag (c :: cs) := by
  rintro ⟨closes, inside, heq, -⟩
  cases closes with
  | false => exact ht (List.cons.inj heq).1
  | true => exact hslash (List.cons.inj heq).1

theorem not_startsTag_slash {c : Char} (ht : c ≠ 't') (cs : List Char) :
    ¬ StartsTag ('/' :: c :: cs) := by
  rintro ⟨closes, inside, heq, -⟩
  cases closes with
  | false => exact absurd (List.cons.inj heq).1 (by decide)
  | true => exact ht (List.cons.inj (List.cons.inj heq).2).1

/-- A tag with another first letter does not count. -/
theorem Balanced.other_append {depth : Nat} {c : Char} {rest : List Char} (closes : Bool)
    (inside : List Char) (hbracket : '<' ∉ c :: inside) (hslash : c ≠ '/') (ht : c ≠ 't')
    (hmark : c ≠ '!') (h : Balanced depth rest) :
    Balanced depth ('<' :: (slash closes ++ (c :: inside ++ rest))) := by
  have hstart : "!--".toList = '!' :: "--".toList := rfl
  cases closes with
  | false =>
    have htext : Balanced depth (c :: inside ++ rest) := h.text_append hbracket
    refine .bracket ?_ (not_startsTag_cons hslash ht _) htext
    rw [hstart]
    exact fun hp => hmark (List.cons_prefix_cons.1 hp).1.symm
  | true =>
    have htext : Balanced depth ('/' :: c :: inside ++ rest) :=
      h.text_append (by simpa using hbracket)
    refine .bracket ?_ (not_startsTag_slash ht _) htext
    rw [hstart]
    exact fun hp => absurd (List.cons_prefix_cons.1 hp).1 (by decide)

theorem balanced_script {content : List Char} (h : '<' ∉ content) :
    Balanced 0 (writeBlock scriptTag [] content) := by
  have hend : Balanced 0 ('<' :: (slash true ++ ('s' :: "cript>".toList ++ []))) :=
    .other_append true _ (by decide) (by decide) (by decide) (by decide) .nil
  have hstart : Balanced 0 ('<' :: (slash false ++ ('s' :: "cript>".toList ++
      (content ++ '<' :: (slash true ++ ('s' :: "cript>".toList ++ [])))))) :=
    .other_append false _ (by decide) (by decide) (by decide) (by decide) (hend.text_append h)
  have htag : 's' :: "cript>".toList = scriptTag ++ ['>'] := by decide +kernel
  rw [htag] at hstart
  simpa only [writeBlock, writeAttributes, slash, Bool.false_eq_true, if_false, if_true,
    List.flatMap_nil, List.cons_append, List.nil_append, List.append_nil, List.append_assoc]
    using hstart

/-- The blocks of a template with a nested template whose value has a closing bracket, followed by a
script. -/
theorem blocks_nestedValue {before behind content : List Char} (hbefore : '>' ∉ before)
    (hbehind : '<' ∉ behind) (hcontent : '<' ∉ content) :
    blocks (writeBlock templateTag [] (nestedValue (before ++ '>' :: behind)) ++
        writeBlock scriptTag [] content) =
      if isSelfClosed before then
        [⟨"template", String.ofList (nestedValue (before ++ '>' :: behind)), []⟩,
          ⟨"script", String.ofList content, []⟩]
      else [] := by
  have hname : ∀ c ∈ "v-if".toList, WrittenAttribute.isNameChar c = true := by decide
  have hparagraph : Balanced 0 ('<' :: (slash false ++ ('p' :: ['>'] ++
      '<' :: (slash true ++ ('p' :: ['>'] ++ []))))) :=
    .other_append false _ (by decide) (by decide) (by decide) (by decide)
      (.other_append true _ (by decide) (by decide) (by decide) (by decide) .nil)
  have hcs : Balanced 0 (behind ++ "\" />".toList ++ "<p></p>".toList) :=
    .text_append (by simp [hbehind]) hparagraph
  have hcut := cutTemplate_bracket hname hbefore hcs (balanced_script hcontent)
  have hnested : '<' :: writeTag false (openValue "v-if".toList before)
      (behind ++ "\" />".toList ++ "<p></p>".toList) =
        nestedValue (before ++ '>' :: behind) := by
    simp [nestedValue, Piece.writeAll, Piece.write, writeAttributes, WrittenAttribute.write,
      openValue, writeTag, slash]
  have happ : writeBlock templateTag [] (nestedValue (before ++ '>' :: behind)) ++
      writeBlock scriptTag [] content =
        '<' :: (templateTag ++ [] ++ '>' :: ('<' :: writeTag false (openValue "v-if".toList before)
          (behind ++ "\" />".toList ++ "<p></p>".toList ++
            (endTag ++ writeBlock scriptTag [] content)))) := by
    rw [← hnested]
    simp [writeBlock, writeAttributes, endTag, writeTag, slash]
  rw [hnested] at hcut
  rw [happ]
  cases hself : isSelfClosed before with
  | true =>
    rw [hself, if_pos rfl] at hcut
    have hscript : blocks (writeBlock scriptTag [] content ++ []) =
        [⟨"script", String.ofList content, []⟩] := by
      have hplain := cutContent_plain isTag_scriptTag (by decide)
        (fun hin => hcontent (hin.sublist.mem (by simp))) []
      rw [blocks_writeBlock_append isTag_scriptTag (by decide) [] hplain, blocks]
      rfl
    rw [blocks_opened isTag_templateTag (by simp) (by simp) isSelfClosed_nil hcut, if_pos rfl,
      ← List.append_nil (writeBlock scriptTag [] content), hscript, makeBlock, readAttributes,
      attributeList]
    rfl
  | false =>
    rw [hself, if_neg (by simp)] at hcut
    rw [blocks_unclosed isTag_templateTag (by simp) (by simp) isSelfClosed_nil hcut,
      if_neg (by simp)]

/-- A component with one block whose value has a closing bracket, and one whose template has such a
value in it.  The value of the block is never read as it is written, and its content is not the one
that is written.  The template is read as it is written exactly if a slash stands in front of the
bracket, and otherwise nothing is read at all. -/
theorem parse_bracket_in_value (value content : List Char) (hopen : '<' ∉ value)
    (hclose : '>' ∈ value) (hcontent : '<' ∉ content) :
    ∃ before behind, value = before ++ '>' :: behind ∧ '>' ∉ before ∧
      (∃ block,
        Component.parse (String.ofList (writeBlock scriptTag [.valued ['a'] value] content)) =
          ofBlocks [block] ∧
        block.tag = "script" ∧ block.attributes.lookup "a" ≠ some (String.ofList value) ∧
        block.content =
          String.ofList (if isSelfClosed before then [] else behind ++ '"' :: '>' :: content)) ∧
      Component.parse (String.ofList
          (writeBlock templateTag [] (nestedValue value) ++ writeBlock scriptTag [] content)) =
        if isSelfClosed before then
          { template := some ⟨"template", String.ofList (nestedValue value), []⟩
            script := some ⟨"script", String.ofList content, []⟩ }
        else {} := by
  obtain ⟨before, behind, rfl, hbefore⟩ := List.eq_append_cons_of_mem hclose
  have hbehind : '<' ∉ behind := fun hmem => hopen (by simp [hmem])
  have hname : ∀ c ∈ ['a'], WrittenAttribute.isNameChar c = true := by decide
  refine ⟨before, behind, rfl, hbefore, ⟨makeBlock scriptTag (openValue ['a'] before)
    (if isSelfClosed before then [] else behind ++ '"' :: '>' :: content), ?_, rfl, ?_, rfl⟩, ?_⟩
  · have hblocks :=
      blocks_bracket_append isTag_scriptTag (by decide) hname hbefore hbehind hcontent []
    rw [Component.parse, String.toList_ofList, ← List.append_nil (writeBlock ..), hblocks, blocks]
  · exact lookup_readAttributes_ne (not_mem_openValue hname hbefore) hclose "a"
  · rw [Component.parse, String.toList_ofList, blocks_nestedValue hbefore hbehind hcontent]
    cases isSelfClosed before <;> rfl

/-- A comparison: the rest of the value is taken for the start of the script, and the template and
the script behind it are lost. -/
theorem parse_bracket_in_value_comparison :
    (∃ block,
      Component.parse (String.ofList (writeBlock scriptTag [.valued ['a'] "x > y".toList] ['S'])) =
        ofBlocks [block] ∧
      block.attributes.lookup "a" ≠ some "x > y" ∧ block.content = " y\">S") ∧
    Component.parse (String.ofList
      (writeBlock templateTag [] (nestedValue "x > y".toList) ++ writeBlock scriptTag [] ['S'])) =
        {} := by
  obtain ⟨before, behind, hvalue, hbefore, ⟨block, hblock, -, hlookup, hcontent⟩, htemplate⟩ :=
    parse_bracket_in_value "x > y".toList ['S'] (by decide) (by decide) (by decide)
  have hstop : Stops (· != '>') ('>' :: behind) := stops_cons (by decide) behind
  obtain rfl : ['x', ' '] = before := by
    rw [← takeWhile_append_stop (not_mem_run hbefore) hstop, ← hvalue]
    decide
  obtain rfl : [' ', 'y'] = behind := by simpa using hvalue
  exact ⟨⟨block, hblock, hlookup, hcontent⟩, htemplate⟩

/-- A function as a value: its arrow ends the tag, with and without a nested template. -/
theorem arrow_cuts_value :
    (Component.parse "<script a=\"() => x\">S</script>").script =
        some ⟨"script", " x\">S", [("a", "\"()")]⟩ ∧
      Component.parse
        "<template><template v-if=\"() => x\" /><p></p></template><script>S</script>" = {} := by
  have hname : ∀ c ∈ ['a'], WrittenAttribute.isNameChar c = true := by decide
  have hscript : "<script a=\"() => x\">S</script>".toList =
      writeBlock scriptTag [.valued ['a'] ("() =".toList ++ '>' :: " x".toList)] ['S'] ++ [] := by
    decide
  have htemplate :
      "<template><template v-if=\"() => x\" /><p></p></template><script>S</script>".toList =
        writeBlock templateTag [] (nestedValue ("() =".toList ++ '>' :: " x".toList)) ++
          writeBlock scriptTag [] ['S'] := by
    decide
  have hattributes : readAttributes (openValue ['a'] "() =".toList) = [("a", "\"()")] := by cbv
  constructor
  · have hblocks := blocks_bracket_append isTag_scriptTag (by decide) hname
      (show '>' ∉ "() =".toList by decide) (show '<' ∉ " x".toList by decide)
      (show '<' ∉ ['S'] by decide) []
    rw [Component.parse, hscript, hblocks, blocks, makeBlock, hattributes]
    rfl
  · rw [Component.parse, htemplate, blocks_nestedValue (by decide) (by decide) (by decide)]
    rfl

end TemplateImports.Component
