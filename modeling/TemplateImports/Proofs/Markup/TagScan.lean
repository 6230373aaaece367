import TemplateImports.Markup.Token
import TemplateImports.Proofs.Text.Run

/-!
# Reading tags and texts

The tokens of a start tag, of an end tag and of a text, from what is written.

Main results:

- Theorems `scanAttributes_bare` and `scanAttributes_quoted` read one attribute.
- Theorems `next_startTag`, `next_endTag` and `next_text` read the tokens of one piece of markup.
- Theorems `next_rawText` and `next_rawEnd` read the content of an element that holds text.
-/

namespace TemplateImports.Markup.Token

open Text

/-! ## Names and values -/

/-- A text without NUL is shown as it is. -/
theorem map_visible {cs : List Char} (h : '\x00' ∉ cs) : cs.map Doctype.visible = cs := by
  rw [List.map_congr_left (g := id), List.map_id]
  intro c hc
  have hne : c ≠ '\x00' := by
    rintro rfl
    exact h hc
  simp [Doctype.visible, hne]

/-- A name is read in lower case. -/
theorem nameOf_eq {cs : List Char} (h : '\x00' ∉ cs) :
    nameOf cs = String.ofList (cs.map Char.toLower) := by
  have hmap : cs.map (fun c => (Doctype.visible c).toLower) =
      (cs.map Doctype.visible).map Char.toLower := by
    rw [List.map_map]
    rfl
  rw [nameOf, hmap, map_visible h]

/-- A value without references is read as it is. -/
theorem valueOf_eq {cs : List Char} (h : '\x00' ∉ cs) (hreference : '&' ∉ cs) :
    valueOf cs = String.ofList cs := by
  rw [valueOf, map_visible h, Reference.decodeValue_of_no_ampersand hreference]

/-! ## Attributes -/

/-- Blanks between attributes do not count. -/
theorem scanAttributes_blank {c : Char} (hc : isAsciiBlank c = true)
    (attributes : List Attribute) (cs : List Char) :
    scanAttributes attributes (c :: cs) = scanAttributes attributes cs := by
  have hclose : c ≠ '>' := by
    rintro rfl
    exact absurd hc (by decide)
  have hslash : c ≠ '/' := by
    rintro rfl
    exact absurd hc (by decide)
  rw [scanAttributes]
  simp [hclose, hslash, hc]

/-- Blanks before an attribute have no meaning. -/
theorem scanAttributes_dropWhile (attributes : List Attribute) (cs : List Char) :
    scanAttributes attributes (cs.dropWhile isAsciiBlank) = scanAttributes attributes cs := by
  induction cs with
  | nil => rfl
  | cons c cs ih =>
    by_cases hc : isAsciiBlank c = true
    · rw [List.dropWhile_cons, if_pos hc, ih, scanAttributes_blank hc]
    · rw [List.dropWhile_cons, if_neg hc]

/-- An attribute is read from its first character on. -/
theorem scanAttributes_name {name rest after : List Char} {value : String} (hne : name ≠ [])
    (hname : ∀ c ∈ name, isAttributeNameChar c = true) (hrest : Stops isAttributeNameChar rest)
    (hvalue : scanValue rest = some (value, after)) (attributes : List Attribute) :
    scanAttributes attributes (name ++ rest) =
      scanAttributes (addAttribute attributes ⟨nameOf name, value⟩) after := by
  cases name with
  | nil => exact absurd rfl hne
  | cons c name =>
    have hrun : ∀ d ∈ name, isAttributeNameChar d = true :=
      fun d hd => hname d (List.mem_cons_of_mem c hd)
    have hc := hname c (by simp)
    simp only [isAttributeNameChar, isTagNameChar, Bool.and_eq_true, Bool.not_eq_true',
      bne_iff_ne, ne_eq] at hc
    obtain ⟨⟨⟨hblank, hslash⟩, hclose⟩, -⟩ := hc
    have hdrop := dropWhile_append_stop hrun hrest
    have htake := takeWhile_append_stop hrun hrest
    rw [List.cons_append, scanAttributes]
    simp only [beq_iff_eq, hclose, hblank, if_false, Bool.false_and, Bool.false_eq_true,
      beq_eq_false_iff_ne.2 hslash]
    split
    · rename_i heq
      rw [hdrop, hvalue] at heq
      simp at heq
    · rename_i value' after' heq
      rw [hdrop, hvalue] at heq
      simp only [Option.some.injEq, Prod.mk.injEq] at heq
      rw [htake, heq.1, heq.2]

/-- Text behind a name without a value. -/
def EndsBareName (rest : List Char) : Prop :=
  Stops isAttributeNameChar rest ∧ Stops (· == '=') (rest.dropWhile isAsciiBlank)

/-- A name without a value is an attribute with the empty value. -/
theorem scanAttributes_bare {name rest : List Char} (hne : name ≠ [])
    (hname : ∀ c ∈ name, isAttributeNameChar c = true) (hrest : EndsBareName rest)
    (attributes : List Attribute) :
    scanAttributes attributes (' ' :: (name ++ rest)) =
      scanAttributes (addAttribute attributes ⟨nameOf name, ""⟩) rest := by
  have hvalue : scanValue rest = some ("", rest.dropWhile isAsciiBlank) := by
    have hequals := hrest.2
    unfold scanValue
    cases hdrop : rest.dropWhile isAsciiBlank with
    | nil => rfl
    | cons c cs =>
      rw [hdrop] at hequals
      have hc : (c == '=') = false := hequals c rfl
      simp [hc]
  rw [scanAttributes_blank (by decide), scanAttributes_name hne hname hrest.1 hvalue,
    scanAttributes_dropWhile]

/-- A name with a quoted value is an attribute with this value. -/
theorem scanAttributes_quoted {name value rest : List Char} (hne : name ≠ [])
    (hname : ∀ c ∈ name, isAttributeNameChar c = true) (hquote : '"' ∉ value)
    (attributes : List Attribute) :
    scanAttributes attributes (' ' :: (name ++ '=' :: '"' :: value ++ '"' :: rest)) =
      scanAttributes (addAttribute attributes ⟨nameOf name, valueOf value⟩) rest := by
  have hrun : ∀ c ∈ value, (c != '"') = true := by
    intro c hc
    simp only [bne_iff_ne, ne_eq]
    rintro rfl
    exact hquote hc
  have hstop : Stops (· != '"') ('"' :: rest) := stops_cons (by decide) rest
  have hdrop := dropWhile_append_stop hrun hstop
  have htake := takeWhile_append_stop hrun hstop
  have hequals : isAsciiBlank '=' = false := by decide
  have hblank : isAsciiBlank '"' = false := by decide
  have hvalue : scanValue ('=' :: '"' :: value ++ '"' :: rest) = some (valueOf value, rest) := by
    simp [scanValue, hequals, hblank, hdrop, htake]
  have hrest : Stops isAttributeNameChar ('=' :: '"' :: value ++ '"' :: rest) :=
    stops_cons (by decide) _
  have happ : name ++ '=' :: '"' :: value ++ '"' :: rest =
      name ++ ('=' :: '"' :: value ++ '"' :: rest) := by simp
  rw [scanAttributes_blank (by decide), happ, scanAttributes_name hne hname hrest hvalue]

/-- A closing bracket ends the attributes. -/
theorem scanAttributes_close (attributes : List Attribute) (rest : List Char) :
    scanAttributes attributes ('>' :: rest) = some (attributes, false, rest) := by
  rw [scanAttributes]
  simp

/-- A slash and a closing bracket end the attributes and close the tag. -/
theorem scanAttributes_selfClose (attributes : List Attribute) (rest : List Char) :
    scanAttributes attributes ('/' :: '>' :: rest) = some (attributes, true, rest) := by
  rw [scanAttributes]
  simp

/-! ## Tags -/

/-- The name of a tag: a letter, and characters behind it that do not end the name. -/
structure IsTagName (name : List Char) : Prop where
  starts : ∃ c ∈ name.head?, c.isAlpha = true
  chars : ∀ c ∈ name, isTagNameChar c = true
  no_nul : '\x00' ∉ name

/-- The name of a tag starts with a letter. -/
theorem IsTagName.exists_cons {name : List Char} (h : IsTagName name) :
    ∃ c cs, name = c :: cs ∧ c.isAlpha = true := by
  obtain ⟨c, hc, halpha⟩ := h.starts
  cases name with
  | nil => simp at hc
  | cons d cs =>
    simp only [List.head?_cons, Option.mem_def, Option.some.injEq] at hc
    exact ⟨d, cs, rfl, hc ▸ halpha⟩

/-- A tag is scanned as its name in lower case and its attributes. -/
theorem scanTag_append {name text rest : List Char} {attributes : List Attribute}
    {selfClosing : Bool} (hname : IsTagName name) (htext : Stops isTagNameChar text)
    (hscan : scanAttributes [] text = some (attributes, selfClosing, rest))
    (token : Tag → Token) :
    scanTag token (name ++ text) =
      ([token ⟨String.ofList (name.map Char.toLower), attributes, selfClosing⟩], rest) := by
  have hdrop := dropWhile_append_stop hname.chars htext
  have htake := takeWhile_append_stop hname.chars htext
  unfold scanTag
  rw [hdrop, htake, hscan, nameOf_eq hname.no_nul]

/-- A letter is none of the characters with a meaning of their own after an opening bracket. -/
theorem ne_of_isAlpha {c d : Char} (hc : c.isAlpha = true) (hd : d.isAlpha = false) : c ≠ d := by
  rintro rfl
  rw [hc] at hd
  exact absurd hd (by decide)

/-- A start tag is read up to its closing bracket. -/
theorem next_startTag {name text rest : List Char} {attributes : List Attribute}
    {selfClosing : Bool} (hname : IsTagName name) (htext : Stops isTagNameChar text)
    (hscan : scanAttributes [] text = some (attributes, selfClosing, rest)) :
    next .data false ('<' :: (name ++ text)) =
      ([.startTag ⟨String.ofList (name.map Char.toLower), attributes, selfClosing⟩], rest) := by
  rw [← scanTag_append hname htext hscan]
  obtain ⟨c, cs, rfl, halpha⟩ := hname.exists_cons
  have hbang := ne_of_isAlpha halpha (show '!'.isAlpha = false by decide)
  have hslash := ne_of_isAlpha halpha (show '/'.isAlpha = false by decide)
  have hquestion := ne_of_isAlpha halpha (show '?'.isAlpha = false by decide)
  simp [next, ordinary, markup, hbang, hslash, hquestion, halpha]

/-- An end tag is read up to its closing bracket. -/
theorem next_endTag {name : List Char} (hname : IsTagName name) (rest : List Char) :
    next .data false ('<' :: '/' :: (name ++ '>' :: rest)) =
      ([.endTag ⟨String.ofList (name.map Char.toLower), [], false⟩], rest) := by
  have htext : Stops isTagNameChar ('>' :: rest) := stops_cons (by decide) rest
  rw [← scanTag_append hname htext (scanAttributes_close [] rest)]
  obtain ⟨c, cs, rfl, halpha⟩ := hname.exists_cons
  simp [next, ordinary, markup, endMarkup, halpha]

/-! ## Texts -/

/-- A text is read up to the next tag. -/
theorem next_text {cs rest : List Char} (hne : cs ≠ []) (hplain : ∀ c ∈ cs, isPlain c = true)
    (hrest : Stops isPlain rest) : next .data false (cs ++ rest) = (textTokens cs, rest) := by
  cases cs with
  | nil => exact absurd rfl hne
  | cons c cs =>
    have hrun : ∀ d ∈ cs, isPlain d = true := fun d hd => hplain d (List.mem_cons_of_mem c hd)
    have hc := hplain c (by simp)
    simp only [isPlain, Bool.and_eq_true, bne_iff_ne, ne_eq] at hc
    have hdrop := dropWhile_append_stop hrun hrest
    have htake := takeWhile_append_stop hrun hrest
    simp [next, ordinary, hc.1, hc.2, hdrop, htake]

/-! ## Texts up to an end tag -/

/-- The label of the end tag that a text ends at. -/
def endLabel? : ContentMode → Option String
  | .rcdata label => some label
  | .rawtext label => some label
  | .script => some "script"
  | _ => none

/-- An end tag starts where its name stands, in any letter case. -/
theorem startsEndTag_append {name : List Char} {label : String}
    (hlabel : name.map Char.toLower = label.toList) (rest : List Char) :
    startsEndTag label ('<' :: '/' :: (name ++ '>' :: rest)) = true := by
  have hlength : label.length = name.length := by
    rw [← String.length_toList, ← hlabel, List.length_map]
  have hmark : "</".toList.isPrefixOf ('<' :: '/' :: (name ++ '>' :: rest)) = true := by
    simp [List.isPrefixOf]
  have hdrop : ('<' :: '/' :: (name ++ '>' :: rest)).drop "</".length = name ++ '>' :: rest := rfl
  have hend : ('<' :: '/' :: (name ++ '>' :: rest))["</".length + label.length]? = some '>' := by
    rw [hlength, show "</".length = 2 from rfl, Nat.add_comm]
    simp
  have hclose : isTagNameChar '>' = false := by decide
  unfold startsEndTag startsTag
  rw [hmark, hdrop, hend, hlength, List.take_left, hlabel]
  simp [hclose]

/-- An end tag starts with a bracket. -/
theorem startsEndTag_of_ne {c : Char} (h : c ≠ '<') (label : String) (cs : List Char) :
    startsEndTag label (c :: cs) = false := by
  have hmark : "</".toList.isPrefixOf (c :: cs) = false := by
    simp [List.isPrefixOf, Ne.symm h]
  unfold startsEndTag startsTag
  rw [hmark]
  rfl

/-- An end tag has a slash behind its bracket. -/
theorem startsEndTag_of_ne_slash {c : Char} (h : c ≠ '/') (label : String) (cs : List Char) :
    startsEndTag label ('<' :: c :: cs) = false := by
  have hmark : "</".toList.isPrefixOf ('<' :: c :: cs) = false := by
    simp [List.isPrefixOf, Ne.symm h]
  unfold startsEndTag startsTag
  rw [hmark]
  rfl

/-- The end tag of another element. -/
theorem startsEndTag_append_of_ne {name : List Char} (hname : IsTagName name) {label : String}
    (hlabel : '>' ∉ label.toList) (hne : name.map Char.toLower ≠ label.toList)
    (rest : List Char) : startsEndTag label ('<' :: '/' :: (name ++ '>' :: rest)) = false := by
  have hdrop : ('<' :: '/' :: (name ++ '>' :: rest)).drop "</".length = name ++ '>' :: rest := rfl
  have hindex : ('<' :: '/' :: (name ++ '>' :: rest))["</".length + label.length]? =
      (name ++ '>' :: rest)[label.length]? := by
    rw [show "</".length = 2 from rfl, Nat.add_comm]
    rfl
  unfold startsEndTag startsTag
  rw [hdrop, hindex]
  by_contra hstarts
  simp only [Bool.not_eq_false, Bool.and_eq_true, beq_iff_eq] at hstarts
  obtain ⟨⟨-, hword⟩, hend⟩ := hstarts
  rcases Nat.lt_trichotomy name.length label.length with hlt | heq | hgt
  · -- The label would go on over the closing bracket.
    obtain ⟨n, hn⟩ := Nat.exists_eq_add_of_lt hlt
    refine hlabel ?_
    rw [← hword, hn, Nat.add_assoc, List.take_length_add_append, List.take_succ_cons,
      List.map_append, List.map_cons]
    exact List.mem_append_right _ List.mem_cons_self
  · rw [← heq, List.take_left] at hword
    exact hne hword
  · -- The name goes on behind the label.
    rw [List.getElem?_append_left hgt, List.getElem?_eq_getElem hgt] at hend
    simp [hname.chars _ (List.getElem_mem hgt)] at hend

/-- A position inside an element whose content is text: its end tag does not start here, and no
comment does. -/
structure StaysRaw (label : String) (c : Char) (cs : List Char) : Prop where
  no_end : startsEndTag label (c :: cs) = false
  no_comment : c = '<' → "!--".toList.isPrefixOf cs = false

/-- A text that may stand in an element whose content is text, whatever follows. -/
def IsRawText (label : String) : List Char → Prop
  | [] => True
  | c :: cs =>
    (∀ rest, StaysRaw label c (cs ++ rest)) ∧ c ≠ '&' ∧ c ≠ '\x00' ∧ IsRawText label cs

/-- The text of an element ends at the end of everything or at the end tag of the element. -/
def EndsRawText (label : String) (rest : List Char) : Prop :=
  rest = [] ∨ startsEndTag label rest = true

namespace IsRawText

variable {label : String} {cs cs' rest : List Char}

/-- Raw texts behind each other are raw text. -/
theorem append (h : IsRawText label cs) (h' : IsRawText label cs') :
    IsRawText label (cs ++ cs') := by
  induction cs with
  | nil => exact h'
  | cons c cs ih =>
    obtain ⟨hstays, hreference, hnul, hcs⟩ := h
    refine ⟨fun rest => ?_, hreference, hnul, ih hcs⟩
    have hnext := hstays (cs' ++ rest)
    rwa [← List.append_assoc] at hnext

/-- Text without tags and references. -/
theorem of_plain (hplain : ∀ c ∈ cs, isPlain c = true) (hnul : '\x00' ∉ cs) :
    IsRawText label cs := by
  induction cs with
  | nil => trivial
  | cons c cs ih =>
    have hc := hplain c List.mem_cons_self
    simp only [isPlain, Bool.and_eq_true, bne_iff_ne, ne_eq] at hc
    simp only [List.mem_cons, not_or] at hnul
    exact ⟨fun rest => ⟨startsEndTag_of_ne hc.1 _ _, fun h => absurd h hc.1⟩, hc.2,
      Ne.symm hnul.1, ih (fun d hd => hplain d (List.mem_cons_of_mem c hd)) hnul.2⟩

/-- A tag that does not end the element. -/
theorem of_tag {c : Char} {inside : List Char} (hcomment : c ≠ '!')
    (hend : ∀ rest, startsEndTag label ('<' :: c :: (inside ++ rest)) = false)
    (hplain : ∀ d ∈ c :: inside, isPlain d = true) (hnul : '\x00' ∉ c :: inside) :
    IsRawText label ('<' :: c :: inside) := by
  refine ⟨fun rest => ⟨hend rest, fun _ => ?_⟩, by decide, by decide, of_plain hplain hnul⟩
  simp [List.isPrefixOf, Ne.symm hcomment]

/-- Raw text holds no NUL. -/
theorem not_mem_nul (h : IsRawText label cs) : '\x00' ∉ cs := by
  induction cs with
  | nil => simp
  | cons c cs ih =>
    obtain ⟨-, -, hnul, hcs⟩ := h
    simp only [List.mem_cons, not_or]
    exact ⟨Ne.symm hnul, ih hcs⟩

/-- No end tag starts in raw text. -/
theorem startsEndTag_append (h : IsRawText label cs) (hne : cs ≠ []) (rest : List Char) :
    startsEndTag label (cs ++ rest) = false := by
  cases cs with
  | nil => exact absurd rfl hne
  | cons c cs => exact (h.1 rest).no_end

/-- Raw text is cut off before its end tag. -/
theorem cutWhere_append (h : IsRawText label cs) (hrest : EndsRawText label rest)
    (references : Bool) :
    cutWhere (fun cs => startsEndTag label cs || (references && cs.head? == some '&'))
      (cs ++ rest) = (cs, rest) := by
  induction cs with
  | nil =>
    rcases hrest with rfl | hrest
    · rfl
    · cases rest with
      | nil => rfl
      | cons c rest => simp [cutWhere, hrest]
  | cons c cs ih =>
    obtain ⟨hstays, hreference, -, hcs⟩ := h
    simp [cutWhere, (hstays rest).no_end, hreference, ih hcs]

/-- The text of a script is cut off before its end tag. -/
theorem cutScript_append (h : IsRawText "script" cs) (hrest : EndsRawText "script" rest) :
    cutScript .plain (cs ++ rest) = (cs, rest) := by
  induction cs with
  | nil =>
    rcases hrest with rfl | hrest
    · rfl
    · cases rest with
      | nil => rfl
      | cons c rest => simp [cutScript, ScriptDepth.ends, hrest]
  | cons c cs ih =>
    obtain ⟨hstays, -, -, hcs⟩ := h
    have hdepth : ScriptDepth.after .plain c (cs ++ rest) = .plain := by
      refine if_neg ?_
      rw [Bool.and_eq_true, beq_iff_eq]
      rintro ⟨hc, hprefix⟩
      rw [(hstays rest).no_comment hc] at hprefix
      exact absurd hprefix (by decide)
    simp [cutScript, (hstays rest).no_end, hdepth, ih hcs]

end IsRawText

section RawText

variable {mode : ContentMode} {label : String} {name : List Char}

/-- The end tag of an element whose content is text. -/
theorem next_rawEnd (hmode : endLabel? mode = some label) (hname : IsTagName name)
    (hlabel : name.map Char.toLower = label.toList) (foreign : Bool) (rest : List Char) :
    next mode foreign ('<' :: '/' :: (name ++ '>' :: rest)) =
      ([.endTag ⟨String.ofList (name.map Char.toLower), [], false⟩], rest) := by
  have htext : Stops isTagNameChar ('>' :: rest) := stops_cons (by decide) rest
  have hstarts := startsEndTag_append hlabel rest
  rw [← scanTag_append hname htext (scanAttributes_close [] rest)]
  cases mode with
  | rcdata l =>
    rw [← Option.some.inj hmode] at hstarts
    simp [next, untilEndTag, hstarts]
  | rawtext l =>
    rw [← Option.some.inj hmode] at hstarts
    simp [next, untilEndTag, hstarts]
  | script =>
    rw [← Option.some.inj hmode] at hstarts
    simp [next, scriptText, hstarts]
  | data => simp [endLabel?] at hmode
  | plaintext => simp [endLabel?] at hmode

/-- The text of an element is read up to its end tag. -/
theorem next_rawText (hmode : endLabel? mode = some label) {cs rest : List Char} (hne : cs ≠ [])
    (h : IsRawText label cs) (hrest : EndsRawText label rest) (foreign : Bool) :
    next mode foreign (cs ++ rest) = ([.text cs], rest) := by
  have hraw : rawTokens cs = [.text cs] := by
    rw [rawTokens, map_visible h.not_mem_nul]
    simp [hne]
  have huntil : ∀ references, untilEndTag references label (cs ++ rest) = ([.text cs], rest) := by
    intro references
    have hnot := h.startsEndTag_append hne rest
    cases cs with
    | nil => exact absurd rfl hne
    | cons c cs =>
      obtain ⟨-, hreference, -, hcs⟩ := h
      rw [List.cons_append] at hnot
      simp [untilEndTag, hnot, hreference, hcs.cutWhere_append hrest references, hraw]
  cases mode with
  | rcdata l =>
    rw [show l = label from Option.some.inj hmode]
    exact huntil true
  | rawtext l =>
    rw [show l = label from Option.some.inj hmode]
    exact huntil false
  | script =>
    obtain rfl : "script" = label := Option.some.inj hmode
    simp [next, scriptText, h.startsEndTag_append hne rest, h.cutScript_append hrest, hraw]
  | data => simp [endLabel?] at hmode
  | plaintext => simp [endLabel?] at hmode

end RawText

end TemplateImports.Markup.Token
