import TemplateImports.Text.Blank
import TemplateImports.Text.Split
import TemplateImports.Text.WordChar

/-!
# Preparing a template

A component template is not quite a document.  `<v-icon/>` is a complete element, names keep their
letter case, and a selection may hold components.  Before a template is read as markup, four passes
spell these rules out: self-closed tags get an end tag, selections get a neutral name, and the
original spellings of names are recorded in two marker attributes.

Three passes work on one tag at a time: on a stretch from an opening bracket up to the next one.
The last pass reads whole start tags, with brackets inside quotes.

Main results:

- Definition `prepare` is the sequence of passes.
- Theorem `mapTags_id` says that the stretches of a text make up the text.
-/

namespace TemplateImports.Template

open Text

/-! ## Markers -/

/-- The attribute that records the spelling of an element name. -/
def nameMarker : String :=
  "data-usage-orig-name"

/-- The attribute that records the spellings of attribute names. -/
def caseMarker : String :=
  "data-usage-orig-attrs"

/-- A marker attribute with its value, as it is written into a tag. -/
def writeMarker (marker : String) (value : List Char) : List Char :=
  ' ' :: marker.toList ++ "=\"".toList ++ value ++ ['"']

/-! ## Stretches -/

/-- The text before the first opening bracket, and the stretches after each one. -/
def stretches : List Char → List Char × List (List Char)
  | [] => ([], [])
  | c :: cs =>
    let (first, others) := stretches cs
    if c == '<' then ([], first :: others) else (c :: first, others)

/-- Applies a function to each stretch after an opening bracket. -/
def mapTags (f : List Char → List Char) (cs : List Char) : List Char :=
  (stretches cs).1 ++ (stretches cs).2.flatMap fun stretch => '<' :: f stretch

/-- The stretches of a text make up the text. -/
theorem mapTags_id (cs : List Char) : mapTags id cs = cs := by
  induction cs with
  | nil => rfl
  | cons c cs ih =>
    simp only [mapTags, id_eq] at ih ⊢
    unfold stretches
    dsimp only
    split
    · rename_i h
      simp only [beq_iff_eq] at h
      subst h
      simp [ih]
    · simp [ih]

/-! ## Self-closed tags -/

/-- A character of a tag name after the first one. -/
def isNameChar (c : Char) : Bool :=
  isWord c || c == '.' || c == ':' || c == '-'

/-- Elements that have no content and no end tag. -/
def voidNames : List String :=
  ["area", "base", "br", "col", "embed", "hr", "img", "input", "link", "meta", "param", "source",
   "track", "wbr"]

/-- Whether a name is that of an element without content. -/
def isVoidName (name : List Char) : Bool :=
  voidNames.contains (String.ofList (name.map Char.toLower))

/-- Whether a text starts with a letter. -/
def startsWithLetter (cs : List Char) : Bool :=
  (cs.head?.map Char.isAlpha).getD false

/-- The attributes of a self-closed tag, from the text between its name and its closing bracket. -/
def selfClosedAttributes? (inside : List Char) : Option (List Char) :=
  if inside.getLast? == some '/' then
    match inside.dropLast with
    | [] => some []
    | c :: cs => if isBlank c then some (trimEnd (c :: cs)) else none
  else none

/-- Gives a self-closed tag an end tag. -/
def expandTag (stretch : List Char) : List Char :=
  let name := stretch.takeWhile isNameChar
  let rest := stretch.dropWhile isNameChar
  let inside := rest.takeWhile (· != '>')
  if !startsWithLetter stretch || isVoidName name then stretch
  else
    match rest.dropWhile (· != '>') with
    | [] => stretch
    | _ :: after =>
      match selfClosedAttributes? inside with
      | some attributes => name ++ attributes ++ "></".toList ++ name ++ '>' :: after
      | none => stretch

/-- Gives every self-closed tag an end tag, except for elements without content. -/
def expandSelfClosed (cs : List Char) : List Char :=
  mapTags expandTag cs

/-! ## Selections -/

/-- The neutral name of a selection. -/
def neutralSelect : List Char :=
  "usage-select".toList

/-- Whether a text starts with a character that ends a tag name. -/
def endsName (cs : List Char) : Bool :=
  match cs with
  | [] => false
  | c :: _ => isBlank c || c == '/' || c == '>'

/-- Gives a selection tag its neutral name. -/
def neutralizeTag (stretch : List Char) : List Char :=
  if "select".toList.isPrefixOf stretch && endsName (stretch.drop 6) then
    neutralSelect ++ writeMarker nameMarker "select".toList ++ stretch.drop 6
  else if "/select".toList.isPrefixOf stretch && endsName (stretch.drop 7) then
    '/' :: neutralSelect ++ stretch.drop 7
  else stretch

/-- Gives every selection its neutral name. -/
def neutralizeSelect (cs : List Char) : List Char :=
  mapTags neutralizeTag cs

/-! ## Spellings of element names -/

/-- A character of a component name. -/
def isComponentChar (c : Char) : Bool :=
  c.isAlphanum || c == '.'

/-- Records the spelling of a component name in its tag. -/
def markTag (stretch : List Char) : List Char :=
  let name := stretch.takeWhile isComponentChar
  let rest := stretch.dropWhile isComponentChar
  let ended := match rest with
    | [] => false
    | c :: _ => isBlank c || c == '>'
  if (stretch.head?.map Char.isUpper).getD false && ended then
    name ++ writeMarker nameMarker name ++ rest
  else stretch

/-- Records the spelling of every component name. -/
def markComponents (cs : List Char) : List Char :=
  mapTags markTag cs

/-! ## Spellings of attribute names -/

/-- Drops the attribute text of a start tag: everything up to an angle bracket that is not inside
quotes.  The result is `none` if a quote is not closed. -/
def dropAttributes (quote : Option Char) : List Char → Option (List Char)
  | [] => if quote.isNone then some [] else none
  | c :: cs =>
    match quote with
    | some q => dropAttributes (if c == q then none else quote) cs
    | none =>
      if c == '<' || c == '>' then some (c :: cs)
      else dropAttributes (if c == '"' || c == '\x27' then some c else none) cs

/-- A start tag after its opening bracket: its name, its attribute text, and the rest after its
closing bracket. -/
structure StartTag where
  name : List Char
  attributes : List Char
  rest : List Char
deriving Repr, DecidableEq

/-- Reads a start tag after its opening bracket. -/
def startTag? (cs : List Char) : Option StartTag :=
  if !startsWithLetter cs then none
  else
    let name := cs.takeWhile isNameChar
    match cs.dropWhile isNameChar with
    | [] => none
    | c :: inside =>
      if c == '>' then some ⟨name, [], inside⟩
      else if isBlank c then
        match dropAttributes none (c :: inside) with
        | some ('>' :: rest) =>
          some ⟨name, (c :: inside).take (inside.length - rest.length), rest⟩
        | _ => none
      else none

/-- A character of an attribute name. -/
def isAttributeChar (c : Char) : Bool :=
  !isBlank c && !(['"', '\x27', '<', '>', '/', '='].contains c)

/-- A character of an attribute value without quotes. -/
def isBareChar (c : Char) : Bool :=
  !isBlank c && !(['"', '\x27', '<', '>'].contains c)

/-- Drops the value that may follow an attribute name. -/
def dropValue (cs : List Char) : List Char :=
  match cs.dropWhile isBlank with
  | '=' :: value =>
    match value.dropWhile isBlank with
    | [] => cs
    | c :: inside =>
      if c == '"' || c == '\x27' then
        match inside.dropWhile (· != c) with
        | [] => cs
        | _ :: rest => rest
      else if isBareChar c then inside.dropWhile isBareChar
      else cs
  | _ => cs

theorem length_dropValue_le (cs : List Char) : (dropValue cs).length ≤ cs.length := by
  have hlen : ∀ (p : Char → Bool) (l : List Char), (l.dropWhile p).length ≤ l.length :=
    fun _ l => (List.dropWhile_sublist _).length_le
  unfold dropValue
  split
  · rename_i value heq
    have h₁ := hlen isBlank cs
    rw [heq] at h₁
    simp only [List.length_cons] at h₁
    split
    · exact Nat.le_refl _
    · rename_i c inside heq'
      have h₂ := hlen isBlank value
      rw [heq'] at h₂
      simp only [List.length_cons] at h₂
      split
      · split
        · exact Nat.le_refl _
        · rename_i heq''
          have h₃ := hlen (· != c) inside
          rw [heq''] at h₃
          simp only [List.length_cons] at h₃
          omega
      · split
        · have := hlen isBareChar inside
          omega
        · exact Nat.le_refl _
  · exact Nat.le_refl _

/-- The attribute names in the attribute text of a tag.  A name follows a blank. -/
def attributeNames : List Char → List (List Char)
  | [] => []
  | c :: cs =>
    if isBlank c && !(cs.takeWhile isAttributeChar).isEmpty then
      cs.takeWhile isAttributeChar :: attributeNames (dropValue (cs.dropWhile isAttributeChar))
    else attributeNames cs
termination_by cs => cs.length
decreasing_by
  · have := length_dropValue_le (cs.dropWhile isAttributeChar)
    have : (cs.dropWhile isAttributeChar).length ≤ cs.length :=
      (List.dropWhile_sublist _).length_le
    simp only [List.length_cons]
    omega
  · simp

/-- The marker for the attribute names that hold capitals, if there are any. -/
def caseMarkerFor (attributes : List Char) : List Char :=
  match (attributeNames attributes).filter (·.any Char.isUpper) with
  | [] => []
  | names => writeMarker caseMarker (joinWith [' '] names)

theorem length_rest_startTag?_lt {cs : List Char} {tag : StartTag} (h : startTag? cs = some tag) :
    tag.rest.length < cs.length + 1 := by
  have hname : (cs.dropWhile isNameChar).length ≤ cs.length :=
    (List.dropWhile_sublist _).length_le
  have hdrop : ∀ (quote : Option Char) (l rest : List Char),
      dropAttributes quote l = some rest → rest.length ≤ l.length := by
    intro quote l
    induction l generalizing quote with
    | nil =>
      intro rest h
      unfold dropAttributes at h
      split at h <;> simp_all
    | cons c l ih =>
      intro rest h
      unfold dropAttributes at h
      split at h
      · exact Nat.le_succ_of_le (ih _ _ h)
      · split at h
        · simp only [Option.some.injEq] at h
          subst h
          exact Nat.le_refl _
        · exact Nat.le_succ_of_le (ih _ _ h)
  unfold startTag? at h
  split at h
  · simp at h
  · dsimp only at h
    split at h
    · simp at h
    · rename_i c inside heq
      rw [heq] at hname
      simp only [List.length_cons] at hname
      split at h
      · simp only [Option.some.injEq] at h
        rw [← h]
        dsimp only
        omega
      · split at h
        · split at h
          · rename_i rest heq'
            have := hdrop _ _ _ heq'
            simp only [Option.some.injEq] at h
            rw [← h]
            simp only [List.length_cons] at this ⊢
            omega
          · simp at h
        · simp at h

/-- Records the spellings of attribute names with capitals in every start tag. -/
def markAttributes : List Char → List Char
  | [] => []
  | c :: cs =>
    if c == '<' then
      match _h : startTag? cs with
      | some tag =>
        '<' :: tag.name ++ caseMarkerFor tag.attributes ++ tag.attributes ++
          '>' :: markAttributes tag.rest
      | none => c :: markAttributes cs
    else c :: markAttributes cs
termination_by cs => cs.length
decreasing_by
  · simp only [List.length_cons]
    exact length_rest_startTag?_lt ‹_›
  · simp
  · simp

theorem markAttributes_of_no_bracket {cs : List Char} (h : '<' ∉ cs) : markAttributes cs = cs := by
  induction cs with
  | nil => rw [markAttributes]
  | cons c cs ih =>
    simp only [List.mem_cons, not_or] at h
    have hc : (c == '<') = false := by simpa using Ne.symm h.1
    rw [markAttributes]
    simp [hc, ih h.2]

/-! ## All passes -/

/-- The markup that a template stands for. -/
def prepare (template : List Char) : List Char :=
  markAttributes (markComponents (neutralizeSelect (expandSelfClosed template)))

end TemplateImports.Template
