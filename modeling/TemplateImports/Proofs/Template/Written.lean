import TemplateImports.Markup.Construction.Body
import TemplateImports.Proofs.Text.Run
import TemplateImports.Template.Node

/-!
# Written templates

How a template is written: texts and elements, nested to any depth.  An element without children may
be written with both of its tags or as a self-closed tag, and an attribute with the empty value with
or without it.

Main results:

- Definition `Written.writeAll` writes a forest down.
- Definition `Written.forest` is the forest that is meant.
- Predicate `Written.AllWellFormed` says which forests may be written.
-/

namespace TemplateImports.Template

open Markup (Attribute startRules endRules)
open Text

/-! ## Attributes -/

/-- An attribute of an element, as it is written. -/
inductive WrittenAttribute where
  | bare (name : List Char)
  | quoted (name value : List Char)
deriving Repr, DecidableEq

namespace WrittenAttribute

/-- The name of an attribute. -/
def name : WrittenAttribute → List Char
  | .bare name => name
  | .quoted name _ => name

/-- The value of an attribute, which is empty if none is written. -/
def value : WrittenAttribute → List Char
  | .bare _ => []
  | .quoted _ value => value

/-- The text of an attribute, which opens with a space. -/
def write : WrittenAttribute → List Char
  | .bare name => ' ' :: name
  | .quoted name value => ' ' :: name ++ '=' :: '"' :: value ++ ['"']

/-- The attribute that is meant. -/
def toAttribute (a : WrittenAttribute) : Attribute :=
  ⟨String.ofList a.name, String.ofList a.value⟩

/-- The name of an attribute in lower case. -/
def lowerName (a : WrittenAttribute) : List Char :=
  a.name.map Char.toLower

/-- A character that an attribute name may start with. -/
def isNameStart (c : Char) : Bool :=
  c.isAlpha || c == '@' || c == ':' || c == '#' || c == '.'

/-- A character of an attribute name. -/
def isNameChar (c : Char) : Bool :=
  isNameStart c || c.isDigit || c == '_' || c == '-'

/-- A character of an attribute value. -/
def isValueChar (c : Char) : Bool :=
  c != '"' && c != '&' && c != '<' && c != '>' && c != '\r' && c != '\x00'

/-- An attribute that may be written.  Its name is not that of a marker in any letter case. -/
structure WellFormed (a : WrittenAttribute) : Prop where
  starts : ∃ c ∈ a.name.head?, isNameStart c = true
  chars : ∀ c ∈ a.name, isNameChar c = true
  not_nameMarker : a.lowerName ≠ nameMarker.toList
  not_caseMarker : a.lowerName ≠ caseMarker.toList
  value_chars : ∀ c ∈ a.value, isValueChar c = true

instance (a : WrittenAttribute) : Decidable a.WellFormed :=
  decidable_of_iff ((∃ c ∈ a.name.head?, isNameStart c = true) ∧
      (∀ c ∈ a.name, isNameChar c = true) ∧ a.lowerName ≠ nameMarker.toList ∧
      a.lowerName ≠ caseMarker.toList ∧ ∀ c ∈ a.value, isValueChar c = true)
    ⟨fun h => ⟨h.1, h.2.1, h.2.2.1, h.2.2.2.1, h.2.2.2.2⟩,
      fun h => ⟨h.starts, h.chars, h.not_nameMarker, h.not_caseMarker, h.value_chars⟩⟩

end WrittenAttribute

/-- The text of attributes. -/
def writeAttributes (attributes : List WrittenAttribute) : List Char :=
  attributes.flatMap WrittenAttribute.write

/-- Attributes that an element may have: no two names are equal up to letter case. -/
structure WellFormedAttributes (attributes : List WrittenAttribute) : Prop where
  each : ∀ a ∈ attributes, a.WellFormed
  distinct : (attributes.map WrittenAttribute.lowerName).Nodup

instance (attributes : List WrittenAttribute) : Decidable (WellFormedAttributes attributes) :=
  decidable_of_iff ((∀ a ∈ attributes, a.WellFormed) ∧
      (attributes.map WrittenAttribute.lowerName).Nodup)
    ⟨fun h => ⟨h.1, h.2⟩, fun h => ⟨h.each, h.distinct⟩⟩

/-! ## Tags -/

/-- Names of markup elements with parsing rules of their own. -/
def ruledNames : List String :=
  startRules.map (·.1) ++ endRules.map (·.1)

/-- Names of markup elements that a template may use. -/
def knownTags : List (List Char) :=
  ["div".toList, "span".toList, "select".toList, "template".toList]

/-- A lower-case name with a dash. -/
def isDashedTag (tag : List Char) : Bool :=
  (tag.head?.map Char.isLower).getD false &&
    tag.all (fun c => c.isLower || c.isDigit || c == '-') && tag.contains '-'

/-- A name that starts with a capital and is not that of a markup element in any letter case. -/
def isComponentTag (tag : List Char) : Bool :=
  (tag.head?.map Char.isUpper).getD false && tag.all Char.isAlphanum &&
    !ruledNames.contains (String.ofList (tag.map Char.toLower))

/-- The name of an element that a template may use.  It does not start like a wrapper. -/
structure IsTag (tag : List Char) : Prop where
  kind : (isDashedTag tag || isComponentTag tag || knownTags.contains tag) = true
  not_html : ¬ "html".toList <+: tag.map Char.toLower
  not_body : ¬ "body".toList <+: tag.map Char.toLower

instance (tag : List Char) : Decidable (IsTag tag) :=
  decidable_of_iff ((isDashedTag tag || isComponentTag tag || knownTags.contains tag) = true ∧
      ¬ "html".toList <+: tag.map Char.toLower ∧ ¬ "body".toList <+: tag.map Char.toLower)
    ⟨fun h => ⟨h.1, h.2.1, h.2.2⟩, fun h => ⟨h.kind, h.not_html, h.not_body⟩⟩

/-- The name of an element that a template may use, or of one whose name starts like a wrapper. -/
structure IsElementTag (tag : List Char) : Prop where
  kind : (isDashedTag tag || isComponentTag tag || knownTags.contains tag) = true

theorem IsTag.isElementTag {tag : List Char} (h : IsTag tag) : IsElementTag tag :=
  ⟨h.kind⟩

instance (tag : List Char) : Decidable (IsElementTag tag) :=
  decidable_of_iff ((isDashedTag tag || isComponentTag tag || knownTags.contains tag) = true)
    ⟨fun h => ⟨h⟩, fun h => h.kind⟩

/-! ## Texts -/

/-- A character of a text. -/
def isTextChar (c : Char) : Bool :=
  c != '<' && c != '&' && c != '\r' && c != '\x00' && c != '\uFEFF'

/-- A text that may be written: it starts with a character that is not blank. -/
structure IsWrittenText (cs : List Char) : Prop where
  starts : ∃ c ∈ cs.head?, isBlank c = false
  chars : ∀ c ∈ cs, isTextChar c = true

instance (cs : List Char) : Decidable (IsWrittenText cs) :=
  decidable_of_iff ((∃ c ∈ cs.head?, isBlank c = false) ∧ ∀ c ∈ cs, isTextChar c = true)
    ⟨fun h => ⟨h.1, h.2⟩, fun h => ⟨h.starts, h.chars⟩⟩

/-! ## Forests -/

/-- A node of a template, as it is written. -/
inductive Written where
  | text (cs : List Char)
  | element (tag : List Char) (attributes : List WrittenAttribute) (children : List Written)
  /-- An element without children, written as a self-closed tag. -/
  | closed (tag : List Char) (attributes : List WrittenAttribute)

namespace Written

/-- Whether a node is a text. -/
def isText : Written → Bool
  | .text _ => true
  | _ => false

/-- Whether a node is a template inside the template. -/
def isTemplate : Written → Bool
  | .text _ => false
  | .element tag _ _ => tag == "template".toList
  | .closed tag _ => tag == "template".toList

mutual

/-- The text of a node. -/
def write : Written → List Char
  | .text cs => cs
  | .element tag attributes children =>
    '<' :: tag ++ writeAttributes attributes ++ '>' :: writeAll children ++
      '<' :: '/' :: tag ++ ['>']
  | .closed tag attributes => '<' :: tag ++ writeAttributes attributes ++ ['/', '>']

/-- The text of a forest. -/
def writeAll : List Written → List Char
  | [] => []
  | w :: ws => w.write ++ writeAll ws

end

mutual

/-- The node that is meant. -/
def node : Written → Node
  | .text cs => .text (String.ofList cs)
  | .element tag attributes children =>
    .ofAttributes (String.ofList tag) (attributes.map WrittenAttribute.toAttribute) (forest children)
  | .closed tag attributes =>
    .ofAttributes (String.ofList tag) (attributes.map WrittenAttribute.toAttribute) []

/-- The forest that is meant. -/
def forest : List Written → List Node
  | [] => []
  | w :: ws => w.node :: forest ws

end

mutual

/-- A node that may be written. -/
def WellFormed : Written → Prop
  | .text cs => IsWrittenText cs
  | .element tag attributes children =>
    IsTag tag ∧ WellFormedAttributes attributes ∧ AllWellFormed children
  | .closed tag attributes => IsTag tag ∧ WellFormedAttributes attributes

/-- A forest that may be written.  No text follows a text. -/
def AllWellFormed : List Written → Prop
  | [] => True
  | w :: ws =>
    w.WellFormed ∧ (w.isText = true → (ws.head?.map isText).getD false = false) ∧ AllWellFormed ws

end

mutual

instance decidableWellFormed : (w : Written) → Decidable w.WellFormed
  | .text cs => inferInstanceAs (Decidable (IsWrittenText cs))
  | .element _ _ children =>
    have := decidableAllWellFormed children
    inferInstanceAs (Decidable (_ ∧ _))
  | .closed _ _ => inferInstanceAs (Decidable (_ ∧ _))

instance decidableAllWellFormed : (ws : List Written) → Decidable (AllWellFormed ws)
  | [] => inferInstanceAs (Decidable True)
  | w :: ws =>
    have := decidableWellFormed w
    have := decidableAllWellFormed ws
    inferInstanceAs (Decidable (_ ∧ _))

end

/-! ## Parts of a forest -/

mutual

/-- A node whose tags and texts have certain properties.  Its attributes may be written. -/
def MadeOf (tags texts : List Char → Prop) : Written → Prop
  | .text cs => texts cs
  | .element tag attributes children =>
    tags tag ∧ WellFormedAttributes attributes ∧ AllMadeOf tags texts children
  | .closed tag attributes => tags tag ∧ WellFormedAttributes attributes

/-- A forest whose tags and texts have certain properties. -/
def AllMadeOf (tags texts : List Char → Prop) : List Written → Prop
  | [] => True
  | w :: ws => w.MadeOf tags texts ∧ AllMadeOf tags texts ws

end

section Parts

variable {tags texts tags' texts' : List Char → Prop}

mutual

theorem MadeOf.mono (htags : ∀ tag, tags tag → tags' tag) (htexts : ∀ cs, texts cs → texts' cs)
    {w : Written} (h : w.MadeOf tags texts) : w.MadeOf tags' texts' := by
  cases w with
  | text cs => exact htexts cs h
  | element tag attributes children =>
    exact ⟨htags tag h.1, h.2.1, AllMadeOf.mono htags htexts h.2.2⟩
  | closed tag attributes => exact ⟨htags tag h.1, h.2⟩

/-- Weaker properties hold of the same forests. -/
theorem AllMadeOf.mono (htags : ∀ tag, tags tag → tags' tag)
    (htexts : ∀ cs, texts cs → texts' cs) {ws : List Written} (h : AllMadeOf tags texts ws) :
    AllMadeOf tags' texts' ws := by
  cases ws with
  | nil => trivial
  | cons w ws => exact ⟨MadeOf.mono htags htexts h.1, AllMadeOf.mono htags htexts h.2⟩

end

end Parts

mutual

theorem WellFormed.madeOf {w : Written} (h : w.WellFormed) : w.MadeOf IsTag IsWrittenText := by
  cases w with
  | text cs => exact h
  | element tag attributes children => exact ⟨h.1, h.2.1, AllWellFormed.madeOf h.2.2⟩
  | closed tag attributes => exact h

/-- A forest that may be written is made of tags and texts that may be written. -/
theorem AllWellFormed.madeOf {ws : List Written} (h : AllWellFormed ws) :
    AllMadeOf IsTag IsWrittenText ws := by
  cases ws with
  | nil => trivial
  | cons w ws => exact ⟨WellFormed.madeOf h.1, AllWellFormed.madeOf h.2.2⟩

end

mutual

/-- The tags of a node as they are written, in the order of its opening tags. -/
def tagsIn : Written → List (List Char)
  | .text _ => []
  | .element tag _ children => tag :: tags children
  | .closed tag _ => [tag]

/-- The tags of a forest as they are written, in the order of its opening tags. -/
def tags : List Written → List (List Char)
  | [] => []
  | w :: ws => w.tagsIn ++ tags ws

end

mutual

/-- The tags of a node have what its tags are made of. -/
theorem MadeOf.of_mem_tagsIn {isTag isText : List Char → Prop} {w : Written}
    (h : w.MadeOf isTag isText) {tag : List Char} (htag : tag ∈ w.tagsIn) : isTag tag := by
  cases w with
  | text cs => simp [tagsIn] at htag
  | element name attributes children =>
    rcases List.mem_cons.1 htag with rfl | htag
    · exact h.1
    · exact AllMadeOf.of_mem_tags h.2.2 htag
  | closed name attributes =>
    rw [List.mem_singleton.1 htag]
    exact h.1

theorem AllMadeOf.of_mem_tags {isTag isText : List Char → Prop} {ws : List Written}
    (h : AllMadeOf isTag isText ws) {tag : List Char} (htag : tag ∈ tags ws) : isTag tag := by
  cases ws with
  | nil => simp [tags] at htag
  | cons w ws =>
    rcases List.mem_append.1 htag with htag | htag
    · exact MadeOf.of_mem_tagsIn h.1 htag
    · exact AllMadeOf.of_mem_tags h.2 htag

end

mutual

instance decidableMadeOf (isTag isText : List Char → Prop) [DecidablePred isTag]
    [DecidablePred isText] : (w : Written) → Decidable (w.MadeOf isTag isText)
  | .text cs => inferInstanceAs (Decidable (isText cs))
  | .element _ _ children =>
    have := decidableAllMadeOf isTag isText children
    inferInstanceAs (Decidable (_ ∧ _))
  | .closed _ _ => inferInstanceAs (Decidable (_ ∧ _))

instance decidableAllMadeOf (isTag isText : List Char → Prop) [DecidablePred isTag]
    [DecidablePred isText] : (ws : List Written) → Decidable (AllMadeOf isTag isText ws)
  | [] => inferInstanceAs (Decidable True)
  | w :: ws =>
    have := decidableMadeOf isTag isText w
    have := decidableAllMadeOf isTag isText ws
    inferInstanceAs (Decidable (_ ∧ _))

end

end Written

end TemplateImports.Template
