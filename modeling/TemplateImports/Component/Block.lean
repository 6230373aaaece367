import TemplateImports.KeyedList
import TemplateImports.Text.Blank
import TemplateImports.Text.WordChar

/-!
# Blocks of a component

A single-file component is a sequence of blocks such as `<template>`, `<script setup>` and
`<style>`.  A block ends at its end tag; inside a template, nested templates are counted and
comments are passed over.  Text between the blocks, comments, and tags that open no block have no
meaning here.

Main results:

- Definition `blocks` cuts a component into its blocks.
- Definition `readAttributes` reads the attributes of a block.
-/

namespace TemplateImports.Component

open Text

/-! ## Attributes -/

/-- A block of a component. -/
structure Block where
  tag : String
  content : String
  /-- Names with values, each name once. -/
  attributes : List (String × String)
deriving Repr, DecidableEq

/-- The language that a block is written in. -/
def Block.lang (block : Block) : Option String :=
  block.attributes.lookup "lang"

/-- The place that the content of a block is kept at. -/
def Block.src (block : Block) : Option String :=
  block.attributes.lookup "src"

/-- A character of an attribute name: a digit, a dash, or a character that equals an ASCII letter
when letter case is ignored. -/
def isAttributeChar (c : Char) : Bool :=
  c.isAlphanum || c == '-' || c == '\u017F' || c == '\u212A'

/-- A character of an attribute value without quotes. -/
def isBareChar (c : Char) : Bool :=
  c != '>' && !isBlank c

/-- Reads the value of an attribute from the text after its name, if there is one. -/
def readValue? (cs : List Char) : Option (List Char × List Char) :=
  match cs with
  | '=' :: value =>
    match value with
    | [] => none
    | c :: inside =>
      match (c == '"' || c == '\x27' : Bool), inside.dropWhile (· != c) with
      | true, _ :: rest => some (inside.takeWhile (· != c), rest)
      | _, _ =>
        if isBareChar c then
          some (c :: inside.takeWhile isBareChar, inside.dropWhile isBareChar)
        else none
  | _ => none

/-- A value leaves no more than it was given. -/
theorem length_readValue?_le {cs value rest : List Char}
    (h : readValue? cs = some (value, rest)) : rest.length ≤ cs.length := by
  have hlen : ∀ (p : Char → Bool) (l : List Char), (l.dropWhile p).length ≤ l.length :=
    fun _ l => (List.dropWhile_sublist _).length_le
  unfold readValue? at h
  split at h
  · split at h
    · simp at h
    · rename_i c inside
      split at h
      · rename_i heq
        have := hlen (· != c) inside
        rw [heq] at this
        simp only [Option.some.injEq, Prod.mk.injEq] at h
        rw [← h.2]
        simp only [List.length_cons] at *
        omega
      · split at h
        · have := hlen isBareChar inside
          simp only [Option.some.injEq, Prod.mk.injEq] at h
          rw [← h.2]
          simp only [List.length_cons] at *
          omega
        · simp at h
  · simp at h

/-- The attributes in the attribute text of a block, in order.  An attribute without a value has
the value `true`. -/
def attributeList : List Char → List (String × String)
  | [] => []
  | c :: cs =>
    if isAttributeChar c then
      let name := String.ofList (c :: cs.takeWhile isAttributeChar)
      match _h : readValue? (cs.dropWhile isAttributeChar) with
      | some (value, rest) => (name, String.ofList value) :: attributeList rest
      | none => (name, "true") :: attributeList (cs.dropWhile isAttributeChar)
    else attributeList cs
termination_by cs => cs.length
decreasing_by
  all_goals simp_wf
  · have := length_readValue?_le ‹_›
    have : (cs.dropWhile isAttributeChar).length ≤ cs.length :=
      (List.dropWhile_sublist _).length_le
    omega
  · have : (cs.dropWhile isAttributeChar).length ≤ cs.length :=
      (List.dropWhile_sublist _).length_le
    omega

/-- The attributes of a block.  Of two values of one name the later one counts. -/
def readAttributes (cs : List Char) : List (String × String) :=
  (attributeList cs).foldl (fun entries a => KeyedList.put a.1 a.2 entries) []

/-! ## Tags -/

/-- A character of a block name after the first one. -/
def isNameChar (c : Char) : Bool :=
  isWord c || c == '-'

/-- An opening tag: its name, its attribute text, and the text after it. -/
structure Opening where
  tag : List Char
  attributes : List Char
  rest : List Char
deriving Repr, DecidableEq

/-- Reads an opening tag after its bracket. -/
def opening? (cs : List Char) : Option Opening :=
  match cs with
  | [] => none
  | c :: _ =>
    if c.isAlpha then
      match cs.dropWhile isNameChar with
      | [] => none
      | d :: inside =>
        if d == '>' then some ⟨cs.takeWhile isNameChar, [], inside⟩
        else if isBlank d then
          match inside.dropWhile (· != '>') with
          | [] => none
          | _ :: rest =>
            some ⟨cs.takeWhile isNameChar, d :: inside.takeWhile (· != '>'), rest⟩
        else none
    else none

/-- Whether attribute text ends with the mark of a self-closed tag. -/
def isSelfClosed (attributes : List Char) : Bool :=
  (trimEnd attributes).getLast? == some '/'

/-- The text after the first occurrence of a mark. -/
def afterMark? (mark : List Char) : List Char → Option (List Char)
  | [] => if mark.isEmpty then some [] else none
  | c :: cs =>
    if mark.isPrefixOf (c :: cs) then some ((c :: cs).drop mark.length) else afterMark? mark cs

/-- A template tag inside a template. -/
structure NestedTag where
  closes : Bool
  selfClosed : Bool
  rest : List Char
deriving Repr, DecidableEq

/-- Reads a template tag after its bracket. -/
def nestedTag? (cs : List Char) : Option NestedTag :=
  let closes := cs.head? == some '/'
  let cs := if closes then cs.drop 1 else cs
  if "template".toList.isPrefixOf cs then
    let inside := cs.drop 8
    if (inside.head?.map isWord).getD false then none
    else
      match inside.dropWhile (· != '>') with
      | [] => none
      | _ :: rest => some ⟨closes, isSelfClosed (inside.takeWhile (· != '>')), rest⟩
  else none

theorem length_afterMark?_le {mark cs rest : List Char} (h : afterMark? mark cs = some rest) :
    rest.length ≤ cs.length := by
  induction cs with
  | nil =>
    unfold afterMark? at h
    split at h <;> simp_all
  | cons c cs ih =>
    unfold afterMark? at h
    split at h
    · simp only [Option.some.injEq] at h
      rw [← h]
      simp
    · exact Nat.le_succ_of_le (ih h)

/-- A nested tag leaves no more than it was given. -/
theorem length_nestedTag?_le {cs : List Char} {tag : NestedTag} (h : nestedTag? cs = some tag) :
    tag.rest.length ≤ cs.length := by
  have hlen : ∀ (p : Char → Bool) (l : List Char), (l.dropWhile p).length ≤ l.length :=
    fun _ l => (List.dropWhile_sublist _).length_le
  unfold nestedTag? at h
  dsimp only at h
  generalize hd : (if (cs.head? == some '/') = true then cs.drop 1 else cs) = ds at h
  have hds : ds.length ≤ cs.length := by
    rw [← hd]
    split <;> simp
  split at h
  · split at h
    · simp at h
    · split at h
      · simp at h
      · rename_i heq
        have := hlen (· != '>') (ds.drop 8)
        rw [heq] at this
        simp only [Option.some.injEq] at h
        rw [← h]
        simp only [List.length_cons, List.length_drop] at this
        dsimp only
        omega
  · simp at h

/-! ## Contents -/

/-- Puts the characters that were read before a result. -/
def prepend (cs rest : List Char) (found : Option (List Char × List Char)) :
    Option (List Char × List Char) :=
  found.map fun (content, after) => (cs.take (cs.length - rest.length) ++ content, after)

/-- The text after a comment that starts here. -/
def afterComment? (cs : List Char) : Option (List Char) :=
  if "<!--".toList.isPrefixOf cs then afterMark? "-->".toList (cs.drop 4) else none

/-- A comment leaves less than it was given. -/
theorem length_afterComment?_lt {cs rest : List Char} (h : afterComment? cs = some rest) :
    rest.length < cs.length := by
  unfold afterComment? at h
  split at h
  · rename_i hp
    have hle := length_afterMark?_le h
    have hlen : 4 ≤ cs.length := (List.isPrefixOf_iff_prefix.1 hp).length_le
    simp only [List.length_drop] at hle
    omega
  · simp at h

/-- Cuts the content of a template at its end tag; `depth` counts the nested templates that are
open. -/
def cutTemplate (depth : Nat) (cs : List Char) : Option (List Char × List Char) :=
  match cs with
  | [] => none
  | c :: rest =>
    match _hcomment : afterComment? (c :: rest) with
    | some after => prepend (c :: rest) after (cutTemplate depth after)
    | none =>
      if c == '<' then
        match _htag : nestedTag? rest with
        | some tag =>
          if tag.closes then
            match depth with
            | 0 => some ([], tag.rest)
            | depth + 1 => prepend (c :: rest) tag.rest (cutTemplate depth tag.rest)
          else
            prepend (c :: rest) tag.rest
              (cutTemplate (if tag.selfClosed then depth else depth + 1) tag.rest)
        | none => prepend (c :: rest) rest (cutTemplate depth rest)
      else prepend (c :: rest) rest (cutTemplate depth rest)
termination_by cs.length
decreasing_by
  all_goals simp_wf
  · have := length_afterComment?_lt ‹_›
    simp only [List.length_cons] at this
    omega
  · have := length_nestedTag?_le ‹_›
    omega
  · have := length_nestedTag?_le ‹_›
    omega

/-- Cuts the content of a block at the first occurrence of its end tag. -/
def cutPlain (mark : List Char) : List Char → Option (List Char × List Char)
  | [] => none
  | c :: cs =>
    if mark.isPrefixOf (c :: cs) then
      match cs.dropWhile (· != '>') with
      | [] => none
      | _ :: rest => some ([], rest)
    else (cutPlain mark cs).map fun (content, rest) => (c :: content, rest)

/-- Cuts the content of a block at its end tag. -/
def cutContent (tag cs : List Char) : Option (List Char × List Char) :=
  if tag == "template".toList then cutTemplate 0 cs else cutPlain ('<' :: '/' :: tag) cs

/-- What is prepended does not change what is left. -/
theorem length_prepend_le {cs rest content after : List Char}
    {found : Option (List Char × List Char)} {n : Nat}
    (hfound : ∀ c a, found = some (c, a) → a.length ≤ n)
    (h : prepend cs rest found = some (content, after)) : after.length ≤ n := by
  unfold prepend at h
  simp only [Option.map_eq_some_iff, Prod.mk.injEq] at h
  obtain ⟨⟨c, a⟩, hc, -, ha⟩ := h
  rw [← ha]
  exact hfound c a hc

/-- The content of a template leaves no more than it was given. -/
theorem length_cutTemplate_le {depth : Nat} {cs content rest : List Char}
    (h : cutTemplate depth cs = some (content, rest)) : rest.length ≤ cs.length := by
  fun_induction cutTemplate depth cs generalizing content rest with
  | case1 => simp at h
  | case2 depth c cs after hcomment ih =>
    have := length_afterComment?_lt hcomment
    exact length_prepend_le (fun _ _ hc => Nat.le_trans (ih hc) (by omega)) h
  | case3 c cs _ _ tag htag =>
    simp only [Option.some.injEq, Prod.mk.injEq] at h
    rw [← h.2]
    exact Nat.le_succ_of_le (length_nestedTag?_le htag)
  | case4 c cs _ _ tag htag _ depth ih =>
    have := length_nestedTag?_le htag
    exact length_prepend_le (fun _ _ hc => Nat.le_trans (ih hc) (by simp only [List.length_cons]; omega)) h
  | case5 depth c cs _ _ tag htag _ ih =>
    have := length_nestedTag?_le htag
    exact length_prepend_le (fun _ _ hc => Nat.le_trans (ih hc) (by simp only [List.length_cons]; omega)) h
  | case6 depth c cs _ _ _ ih =>
    exact length_prepend_le (fun _ _ hc => Nat.le_trans (ih hc) (by simp)) h
  | case7 depth c cs _ _ ih =>
    exact length_prepend_le (fun _ _ hc => Nat.le_trans (ih hc) (by simp)) h

theorem length_cutPlain_le {mark cs content rest : List Char}
    (h : cutPlain mark cs = some (content, rest)) : rest.length ≤ cs.length := by
  induction cs generalizing content rest with
  | nil => simp [cutPlain] at h
  | cons c cs ih =>
    unfold cutPlain at h
    split at h
    · split at h
      · simp at h
      · rename_i heq
        have : (cs.dropWhile (· != '>')).length ≤ cs.length :=
          (List.dropWhile_sublist _).length_le
        rw [heq] at this
        simp only [Option.some.injEq, Prod.mk.injEq] at h
        rw [← h.2]
        simp only [List.length_cons] at *
        omega
    · simp only [Option.map_eq_some_iff, Prod.mk.injEq] at h
      obtain ⟨⟨content', rest'⟩, hc, -, hr⟩ := h
      rw [← hr]
      exact Nat.le_succ_of_le (ih hc)

/-- Any content leaves no more than it was given. -/
theorem length_cutContent_le {tag cs content rest : List Char}
    (h : cutContent tag cs = some (content, rest)) : rest.length ≤ cs.length := by
  unfold cutContent at h
  split at h
  · exact length_cutTemplate_le h
  · exact length_cutPlain_le h

/-- An opening tag leaves less than it was given. -/
theorem length_opening?_lt {cs : List Char} {tag : Opening} (h : opening? cs = some tag) :
    tag.rest.length < cs.length := by
  have hlen : ∀ (p : Char → Bool) (l : List Char), (l.dropWhile p).length ≤ l.length :=
    fun _ l => (List.dropWhile_sublist _).length_le
  unfold opening? at h
  split at h
  · simp at h
  · rename_i c cs
    split at h
    · split at h
      · simp at h
      · rename_i d inside heq
        have h₁ := hlen isNameChar (c :: cs)
        rw [heq] at h₁
        simp only [List.length_cons] at h₁ ⊢
        split at h
        · simp only [Option.some.injEq] at h
          rw [← h]
          dsimp only
          omega
        · split at h
          · split at h
            · simp at h
            · rename_i heq'
              have h₂ := hlen (· != '>') inside
              rw [heq'] at h₂
              simp only [List.length_cons] at h₂
              simp only [Option.some.injEq] at h
              rw [← h]
              dsimp only
              omega
          · simp at h
    · simp at h

/-! ## Cutting a component -/

/-- The text after a comment at the top level, whose marks may share their dashes; a comment
without an end mark takes all the text. -/
def afterTopComment (cs : List Char) : List Char :=
  (afterMark? "-->".toList cs).getD []

theorem length_afterTopComment_le (cs : List Char) : (afterTopComment cs).length ≤ cs.length := by
  unfold afterTopComment
  cases h : afterMark? "-->".toList cs with
  | none => simp
  | some rest => exact length_afterMark?_le h

/-- A block of the given tag, attribute text and content. -/
def makeBlock (tag attributes content : List Char) : Block :=
  ⟨String.ofList tag, String.ofList content, readAttributes attributes⟩

/-- The blocks of a component.  Nothing after a block without an end is a block. -/
def blocks : List Char → List Block
  | [] => []
  | c :: cs =>
    if c == '<' then
      if "!--".toList.isPrefixOf cs then blocks (afterTopComment (cs.drop 1))
      else
        match _hopening : opening? cs with
        | none => blocks cs
        | some tag =>
          if isSelfClosed tag.attributes then
            makeBlock tag.tag tag.attributes [] :: blocks tag.rest
          else
            match _hcontent : cutContent tag.tag tag.rest with
            | some (content, rest) => makeBlock tag.tag tag.attributes content :: blocks rest
            | none => []
    else blocks cs
termination_by cs => cs.length
decreasing_by
  all_goals simp_wf
  · have := length_afterTopComment_le cs.tail
    simp only [List.length_tail] at this
    omega
  · have := length_opening?_lt ‹_›
    omega
  · have := length_opening?_lt ‹_›
    have := length_cutContent_le ‹_›
    omega

end TemplateImports.Component
