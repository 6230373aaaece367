import TemplateImports.Markup.Doctype
import TemplateImports.Markup.Element
import TemplateImports.Markup.Reference

/-!
# Tokens of markup

The first stage of reading markup: tags, comments, declarations and runs of text.  How the text is
cut depends on what is being read.  Inside a script, a style or a title only the matching end tag
counts; elsewhere every tag does.  Text is cut at the border between blanks and other characters,
because the construction of the document treats the two differently.

A tag that the text ends in leaves no token, and every reading step uses up at least one character.

Main results:

- Definition `Token.next` reads the tokens at the start of a text, under a content mode.
- Theorem `Token.length_next_lt` says that a step makes progress on every text that is not empty.
- Theorem `joinText_textTokens` says that cutting text loses nothing but null characters.
-/

namespace TemplateImports.Markup

open Text

/-! ## Tokens -/

/-- A start tag or an end tag. -/
structure Tag where
  name : String
  attributes : List Attribute := []
  selfClosing : Bool := false
deriving Repr, DecidableEq

/-- The units that a document is constructed from. -/
inductive Token where
  | doctype (declaration : Doctype)
  | startTag (tag : Tag)
  | endTag (tag : Tag)
  | comment (text : String)
  | text (characters : List Char)
  | nul
  | eof
deriving Repr, DecidableEq

/-- How the text that follows is to be cut into tokens. -/
inductive ContentMode where
  /-- Ordinary content: every tag counts. -/
  | data
  /-- Text with references, up to the end tag of the element. -/
  | rcdata (label : String)
  /-- Text without references, up to the end tag of the element. -/
  | rawtext (label : String)
  /-- Text of a script, up to its end tag. -/
  | script
  /-- Text up to the end. -/
  | plaintext
deriving Repr, DecidableEq

/-- Line ends as line feeds. -/
def normalizeNewlines : List Char → List Char
  | '\r' :: '\n' :: cs => '\n' :: normalizeNewlines cs
  | '\r' :: cs => '\n' :: normalizeNewlines cs
  | c :: cs => c :: normalizeNewlines cs
  | [] => []

namespace Token

/-! ## Runs of text -/

/-- Puts a character before tokens, joining it to a first run of the same kind. -/
def consText (c : Char) : List Token → List Token
  | .text (d :: ds) :: ts =>
    if isAsciiBlank c == isAsciiBlank d then .text (c :: d :: ds) :: ts
    else .text [c] :: .text (d :: ds) :: ts
  | ts => .text [c] :: ts

/-- Cuts text into null characters and runs that are blank or free of blanks. -/
def textTokens : List Char → List Token
  | [] => []
  | c :: cs => if c == '\x00' then .nul :: textTokens cs else consText c (textTokens cs)

/-- The characters of the text tokens of a list. -/
def joinText : List Token → List Char
  | [] => []
  | .text cs :: ts => cs ++ joinText ts
  | _ :: ts => joinText ts

/-- A character before text tokens stands before their text. -/
@[simp] theorem joinText_consText (c : Char) (ts : List Token) :
    joinText (consText c ts) = c :: joinText ts := by
  unfold consText
  split
  · split <;> simp [joinText]
  · simp [joinText]

/-- Cutting text into runs loses nothing but null characters. -/
theorem joinText_textTokens (cs : List Char) :
    joinText (textTokens cs) = cs.filter (· != '\x00') := by
  induction cs with
  | nil => rfl
  | cons c cs ih =>
    unfold textTokens
    by_cases h : c == '\x00'
    · have : (c != '\x00') = false := by simp [bne, h]
      simp [h, this, joinText, ih]
    · have : (c != '\x00') = true := by simp [bne, h]
      simp [h, this, ih]

/-- Text without references, with replacement characters for null characters. -/
def rawTokens (cs : List Char) : List Token :=
  if cs.isEmpty then [] else [.text (cs.map Doctype.visible)]

/-! ## Tags -/

/-- A character of a tag name. -/
def isTagNameChar (c : Char) : Bool :=
  !isAsciiBlank c && c != '/' && c != '>'

/-- A character of an attribute name after the first one. -/
def isAttributeNameChar (c : Char) : Bool :=
  isTagNameChar c && c != '='

/-- A character of an attribute value without quotes. -/
def isBareValueChar (c : Char) : Bool :=
  !isAsciiBlank c && c != '>'

/-- A name as the document carries it. -/
def nameOf (cs : List Char) : String :=
  String.ofList (cs.map fun c => (Doctype.visible c).toLower)

/-- A value as the document carries it. -/
def valueOf (cs : List Char) : String :=
  String.ofList (Reference.decodeValue (cs.map Doctype.visible))

/-- Reads the value of an attribute from the text after its name, if the text does not end in it.
An attribute without an equals sign has the empty value. -/
def scanValue (cs : List Char) : Option (String × List Char) :=
  match cs.dropWhile isAsciiBlank with
  | [] => some ("", [])
  | c :: r =>
    if c == '=' then
      match r.dropWhile isAsciiBlank with
      | [] => none
      | q :: r =>
        if q == '>' then some ("", q :: r)
        else if q == '"' || q == '\x27' then
          match r.dropWhile (· != q) with
          | [] => none
          | _ :: after => some (valueOf (r.takeWhile (· != q)), after)
        else some (valueOf (q :: r.takeWhile isBareValueChar), r.dropWhile isBareValueChar)
    else some ("", c :: r)

/-- Adds an attribute at the end unless its name is already there. -/
def addAttribute (attributes : List Attribute) (a : Attribute) : List Attribute :=
  if attributes.any (·.name == a.name) then attributes else attributes ++ [a]

theorem length_dropWhile_le {p : Char → Bool} (cs : List Char) :
    (cs.dropWhile p).length ≤ cs.length :=
  (List.dropWhile_sublist _).length_le

/-- A value leaves no more than it was given. -/
theorem length_scanValue_le {cs rest : List Char} {value : String}
    (h : scanValue cs = some (value, rest)) : rest.length ≤ cs.length := by
  have hblank := length_dropWhile_le (p := isAsciiBlank) cs
  unfold scanValue at h
  split at h
  · simp_all
  · rename_i c r heq
    rw [heq] at hblank
    simp only [List.length_cons] at hblank
    split at h
    · have hr := length_dropWhile_le (p := isAsciiBlank) r
      split at h
      · simp at h
      · rename_i q r' heq'
        rw [heq'] at hr
        simp only [List.length_cons] at hr
        split at h
        · simp only [Option.some.injEq, Prod.mk.injEq] at h
          rw [← h.2]
          simp only [List.length_cons]
          omega
        · split at h
          · have hq := length_dropWhile_le (p := (· != q)) r'
            split at h
            · simp at h
            · rename_i heq''
              rw [heq''] at hq
              simp only [Option.some.injEq, Prod.mk.injEq] at h
              simp only [List.length_cons] at hq
              rw [← h.2]
              omega
          · have hv := length_dropWhile_le (p := isBareValueChar) r'
            simp only [Option.some.injEq, Prod.mk.injEq] at h
            rw [← h.2]
            omega
    · simp only [Option.some.injEq, Prod.mk.injEq] at h
      rw [← h.2]
      simp only [List.length_cons]
      omega

/-- The attributes of a tag, its self-closing mark, and the text after the tag. -/
abbrev TagTail := List Attribute × Bool × List Char

/-- Reads attributes and the end of the tag, if the text does not end in them. -/
def scanAttributes (attributes : List Attribute) : List Char → Option TagTail
  | [] => none
  | c :: cs =>
    if c == '>' then some (attributes, false, cs)
    else if c == '/' && cs.head? == some '>' then some (attributes, true, cs.drop 1)
    else if c == '/' then scanAttributes attributes cs
    else if isAsciiBlank c then scanAttributes attributes cs
    else
      match _h : scanValue (cs.dropWhile isAttributeNameChar) with
      | none => none
      | some (value, rest) =>
        scanAttributes
          (addAttribute attributes ⟨nameOf (c :: cs.takeWhile isAttributeNameChar), value⟩) rest
termination_by cs => cs.length
decreasing_by
  · simp
  · simp
  · have := length_scanValue_le ‹_›
    have := length_dropWhile_le (p := isAttributeNameChar) cs
    simp only [List.length_cons]
    omega

/-- The end of a tag leaves less than it was given, at least by the bracket. -/
theorem length_scanAttributes_lt {attributes : List Attribute} {cs : List Char} {tail : TagTail}
    (h : scanAttributes attributes cs = some tail) : tail.2.2.length < cs.length := by
  fun_induction scanAttributes attributes cs with
  | case1 => simp at h
  | case2 attributes c cs hc =>
    simp only [Option.some.injEq] at h
    subst h
    simp
  | case3 attributes c cs hc hs =>
    simp only [Option.some.injEq] at h
    subst h
    simp only [List.length_drop, List.length_cons]
    omega
  | case4 attributes c cs hc hs hslash ih =>
    have := ih h
    simp only [List.length_cons]
    omega
  | case5 attributes c cs hc hs hslash hb ih =>
    have := ih h
    simp only [List.length_cons]
    omega
  | case6 => simp at h
  | case7 attributes c cs hc hs hslash hb value rest heq ih =>
    have := ih h
    have := length_scanValue_le heq
    have := length_dropWhile_le (p := isAttributeNameChar) cs
    simp only [List.length_cons]
    omega

/-- Reads a tag from its name on.  A tag that the text ends in leaves no token. -/
def scanTag (token : Tag → Token) (cs : List Char) : List Token × List Char :=
  match scanAttributes [] (cs.dropWhile isTagNameChar) with
  | none => ([], [])
  | some (attributes, selfClosing, rest) =>
    ([token ⟨nameOf (cs.takeWhile isTagNameChar), attributes, selfClosing⟩], rest)

/-- A tag leaves no more than it was given. -/
theorem length_scanTag_le (token : Tag → Token) (cs : List Char) :
    (scanTag token cs).2.length ≤ cs.length := by
  unfold scanTag
  split
  · simp
  · rename_i heq
    have := length_scanAttributes_lt heq
    have := length_dropWhile_le (p := isTagNameChar) cs
    dsimp only at *
    omega

/-! ## Comments and declarations -/

/-- Reads a comment up to its end mark, which may carry an exclamation mark. -/
def scanComment : List Char → List Char × List Char
  | [] => ([], [])
  | '-' :: '-' :: '>' :: cs => ([], cs)
  | '-' :: '-' :: '!' :: '>' :: cs => ([], cs)
  | c :: cs =>
    let (body, rest) := scanComment cs
    (Doctype.visible c :: body, rest)

/-- Reads a comment after its opening mark. -/
def commentMarkup (cs : List Char) : List Token × List Char :=
  match cs with
  | '>' :: rest => ([.comment ""], rest)
  | '-' :: '>' :: rest => ([.comment ""], rest)
  | _ =>
    let (body, rest) := scanComment cs
    ([.comment (String.ofList body)], rest)

/-- Reads what is neither a tag nor a declaration as a comment, up to the next end of a tag. -/
def bogusComment (cs : List Char) : List Token × List Char :=
  ([.comment (String.ofList ((cs.takeWhile (· != '>')).map Doctype.visible))],
    (cs.dropWhile (· != '>')).drop 1)

/-- Reads literal text up to its end mark. -/
def scanLiteral : List Char → List Char × List Char
  | [] => ([], [])
  | ']' :: ']' :: '>' :: cs => ([], cs)
  | c :: cs =>
    let (body, rest) := scanLiteral cs
    (c :: body, rest)

/-- Reads what follows an exclamation mark: a comment, a document type, or literal text where
foreign content admits it. -/
def declarationMarkup (foreign : Bool) (cs : List Char) : List Token × List Char :=
  if "--".toList.isPrefixOf cs then commentMarkup (cs.drop 2)
  else if Doctype.startsWithKeyword "doctype" cs then
    let (d, rest) := Doctype.scan (cs.drop 7)
    ([.doctype d], rest)
  else if foreign && "[CDATA[".toList.isPrefixOf cs then
    let (body, rest) := scanLiteral (cs.drop 7)
    (textTokens body, rest)
  else bogusComment cs

/-- A comment leaves no more than it was given. -/
theorem length_scanComment_le (cs : List Char) : (scanComment cs).2.length ≤ cs.length := by
  fun_induction scanComment cs with
  | case1 => simp
  | case2 => simp; omega
  | case3 => simp; omega
  | case4 c cs _ _ body rest heq ih =>
    rw [heq] at ih
    exact Nat.le_succ_of_le ih

theorem length_scanLiteral_le (cs : List Char) : (scanLiteral cs).2.length ≤ cs.length := by
  fun_induction scanLiteral cs with
  | case1 => simp
  | case2 => simp; omega
  | case3 c cs _ body rest heq ih =>
    rw [heq] at ih
    exact Nat.le_succ_of_le ih

theorem length_commentMarkup_le (cs : List Char) :
    (commentMarkup cs).2.length ≤ cs.length := by
  unfold commentMarkup
  split
  · simp
  · simp
    omega
  · exact length_scanComment_le cs

theorem length_bogusComment_le (cs : List Char) : (bogusComment cs).2.length ≤ cs.length := by
  have := length_dropWhile_le (p := (· != '>')) cs
  simp only [bogusComment, List.length_drop]
  omega

/-- A declaration leaves no more than it was given. -/
theorem length_declarationMarkup_le (foreign : Bool) (cs : List Char) :
    (declarationMarkup foreign cs).2.length ≤ cs.length := by
  unfold declarationMarkup
  split
  · exact Nat.le_trans (length_commentMarkup_le _) (by simp)
  · split
    · exact Nat.le_trans (Doctype.length_scan_le _) (by simp)
    · split
      · exact Nat.le_trans (length_scanLiteral_le _) (by simp)
      · exact length_bogusComment_le cs

/-! ## Ordinary content -/

/-- Reads what follows the slash of an end tag. -/
def endMarkup (cs : List Char) : List Token × List Char :=
  match cs with
  | [] => ([.text ['<'], .text ['/']], [])
  | c :: rest =>
    if c.isAlpha then scanTag .endTag (c :: rest)
    else if c == '>' then ([], rest)
    else bogusComment (c :: rest)

/-- Reads what follows an opening angle bracket. -/
def markup (foreign : Bool) (cs : List Char) : List Token × List Char :=
  match cs with
  | [] => ([.text ['<']], [])
  | c :: rest =>
    if c == '!' then declarationMarkup foreign rest
    else if c == '/' then endMarkup rest
    else if c == '?' then bogusComment (c :: rest)
    else if c.isAlpha then scanTag .startTag (c :: rest)
    else ([.text ['<']], c :: rest)

/-- A character that starts neither a tag nor a reference. -/
def isPlain (c : Char) : Bool :=
  c != '<' && c != '&'

/-- Reads tokens of ordinary content. -/
def ordinary (foreign : Bool) : List Char → List Token × List Char
  | [] => ([], [])
  | c :: cs =>
    if c == '<' then markup foreign cs
    else if c == '&' then
      match Reference.read? false cs with
      | some r => ([.text r.characters], r.rest)
      | none => ([.text ['&']], cs)
    else (textTokens (c :: cs.takeWhile isPlain), cs.dropWhile isPlain)

theorem length_endMarkup_le (cs : List Char) : (endMarkup cs).2.length ≤ cs.length := by
  unfold endMarkup
  split
  · simp
  · split
    · exact length_scanTag_le _ _
    · split
      · simp
      · exact length_bogusComment_le _

/-- Markup leaves no more than it was given. -/
theorem length_markup_le (foreign : Bool) (cs : List Char) :
    (markup foreign cs).2.length ≤ cs.length := by
  unfold markup
  split
  · simp
  · split
    · exact Nat.le_succ_of_le (length_declarationMarkup_le _ _)
    · split
      · exact Nat.le_succ_of_le (length_endMarkup_le _)
      · split
        · exact length_bogusComment_le _
        · split
          · exact length_scanTag_le _ _
          · simp

/-- A step in ordinary content leaves less than it was given. -/
theorem length_ordinary_lt {foreign : Bool} {cs : List Char} (h : cs ≠ []) :
    (ordinary foreign cs).2.length < cs.length := by
  cases cs with
  | nil => exact absurd rfl h
  | cons c cs =>
    simp only [ordinary]
    split
    · exact Nat.lt_succ_of_le (length_markup_le _ _)
    · split
      · split
        · exact Nat.lt_succ_of_le (Reference.length_read?_le ‹_›)
        · simp
      · exact Nat.lt_succ_of_le (length_dropWhile_le cs)

/-! ## Text up to an end tag -/

/-- Whether a text starts with a mark and a word, in any letter case, and a character that ends a
tag name. -/
def startsTag (mark : String) (label : String) (cs : List Char) : Bool :=
  mark.toList.isPrefixOf cs &&
    ((cs.drop mark.length).take label.length).map Char.toLower == label.toList &&
    match cs[mark.length + label.length]? with
    | some c => !isTagNameChar c
    | none => false

/-- Whether a text starts with the end tag of an element. -/
def startsEndTag (label : String) (cs : List Char) : Bool :=
  startsTag "</" label cs

/-- Cuts a text where a condition on the rest first holds. -/
def cutWhere (stop : List Char → Bool) : List Char → List Char × List Char
  | [] => ([], [])
  | c :: cs =>
    if stop (c :: cs) then ([], c :: cs)
    else
      let (run, rest) := cutWhere stop cs
      (c :: run, rest)

/-- How deep a script is in markup that hides it from old readers, with the number of dashes just
read. -/
inductive ScriptDepth where
  | plain
  | hidden (dashes : Nat)
  | nested (dashes : Nat)
deriving Repr, DecidableEq

/-- Whether the end tag of a script counts at a depth. -/
def ScriptDepth.ends : ScriptDepth → Bool
  | .nested _ => false
  | _ => true

/-- The depth after the first character of a text. -/
def ScriptDepth.after (depth : ScriptDepth) (c : Char) (cs : List Char) : ScriptDepth :=
  match depth with
  | .plain => if c == '<' && "!--".toList.isPrefixOf cs then .hidden 0 else .plain
  | .hidden dashes =>
    if c == '-' then .hidden (dashes + 1)
    else if c == '>' && 2 ≤ dashes then .plain
    else if startsTag "<" "script" (c :: cs) then .nested 0
    else .hidden 0
  | .nested dashes =>
    if c == '-' then .nested (dashes + 1)
    else if c == '>' && 2 ≤ dashes then .plain
    else if startsEndTag "script" (c :: cs) then .hidden 0
    else .nested 0

/-- Cuts a script at its end tag.  Markup that hides the script may itself hold a script, whose end
tag does not count. -/
def cutScript (depth : ScriptDepth) : List Char → List Char × List Char
  | [] => ([], [])
  | c :: cs =>
    if depth.ends && startsEndTag "script" (c :: cs) then ([], c :: cs)
    else
      let (run, rest) := cutScript (depth.after c cs) cs
      (c :: run, rest)

/-- Text up to a stop leaves no more than it was given. -/
theorem length_cutWhere_le (stop : List Char → Bool) (cs : List Char) :
    (cutWhere stop cs).2.length ≤ cs.length := by
  induction cs with
  | nil => simp [cutWhere]
  | cons c cs ih =>
    unfold cutWhere
    split
    · simp
    · exact Nat.le_succ_of_le ih

/-- Cutting a script where it is loses nothing. -/
theorem cutScript_append (depth : ScriptDepth) (cs : List Char) :
    (cutScript depth cs).1 ++ (cutScript depth cs).2 = cs := by
  induction cs generalizing depth with
  | nil => rfl
  | cons c cs ih =>
    unfold cutScript
    split
    · rfl
    · simp [ih]

/-- The text of a script leaves no more than it was given. -/
theorem length_cutScript_le (depth : ScriptDepth) (cs : List Char) :
    (cutScript depth cs).2.length ≤ cs.length := by
  have := congrArg List.length (cutScript_append depth cs)
  simp only [List.length_append] at this
  omega

/-- Reads tokens of text that ends at an end tag and may hold references. -/
def untilEndTag (references : Bool) (label : String) (cs : List Char) : List Token × List Char :=
  match cs with
  | [] => ([], [])
  | c :: rest =>
    if startsEndTag label (c :: rest) then scanTag .endTag (rest.drop 1)
    else if references && c == '&' then
      match Reference.read? false rest with
      | some r => ([.text r.characters], r.rest)
      | none => ([.text ['&']], rest)
    else
      let (run, after) :=
        cutWhere (fun cs => startsEndTag label cs || (references && cs.head? == some '&')) rest
      (rawTokens (c :: run), after)

/-- Reads tokens of a script. -/
def scriptText (cs : List Char) : List Token × List Char :=
  if startsEndTag "script" cs then scanTag .endTag (cs.drop 2)
  else
    let (run, rest) := cutScript .plain cs
    (rawTokens run, rest)

/-! ## One step -/

/-- Reads the tokens at the start of a text.  `foreign` tells whether literal text is admitted. -/
def next (mode : ContentMode) (foreign : Bool) (cs : List Char) : List Token × List Char :=
  match mode with
  | .data => ordinary foreign cs
  | .rcdata label => untilEndTag true label cs
  | .rawtext label => untilEndTag false label cs
  | .script => scriptText cs
  | .plaintext => (rawTokens cs, [])

/-- A step in raw text leaves less than it was given. -/
theorem length_untilEndTag_lt {references : Bool} {label : String} {cs : List Char} (h : cs ≠ []) :
    (untilEndTag references label cs).2.length < cs.length := by
  cases cs with
  | nil => exact absurd rfl h
  | cons c rest =>
    unfold untilEndTag
    split
    · simp_all
    · rename_i c' rest' heq
      obtain ⟨rfl, rfl⟩ := List.cons.inj heq
      split
      · exact Nat.lt_succ_of_le (Nat.le_trans (length_scanTag_le _ _) (by simp))
      · split
        · split
          · exact Nat.lt_succ_of_le (Reference.length_read?_le ‹_›)
          · simp
        · exact Nat.lt_succ_of_le (length_cutWhere_le _ _)

/-- A step in a script leaves less than it was given. -/
theorem length_scriptText_lt {cs : List Char} (h : cs ≠ []) :
    (scriptText cs).2.length < cs.length := by
  cases cs with
  | nil => exact absurd rfl h
  | cons c cs =>
    unfold scriptText
    split
    · refine Nat.lt_succ_of_le (Nat.le_trans (length_scanTag_le _ _) ?_)
      simp
    · unfold cutScript
      simp_all only [Bool.not_eq_true, Bool.and_false, Bool.false_eq_true, ↓reduceIte]
      exact Nat.lt_succ_of_le (length_cutScript_le _ _)

/-- A step makes progress on every text that is not empty. -/
theorem length_next_lt {mode : ContentMode} {foreign : Bool} {cs : List Char} (h : cs ≠ []) :
    (next mode foreign cs).2.length < cs.length := by
  cases mode with
  | data => exact length_ordinary_lt h
  | rcdata label => exact length_untilEndTag_lt h
  | rawtext label => exact length_untilEndTag_lt h
  | script => exact length_scriptText_lt h
  | plaintext => exact List.length_pos_iff.2 h

end Token

end TemplateImports.Markup
