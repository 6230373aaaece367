import TemplateImports.Component.Descriptor
import TemplateImports.Proofs.Text.Run

/-!
# Written components

How a component is written: gaps, comments and blocks, one after the other.  The content of a
template is a sequence of pieces, in which templates may be nested to any depth; the content of any
other block is plain text.

Main results:

- Definitions `Piece.write` and `Item.write` write pieces and items down.
- Predicates `Piece.WellFormed` and `Item.WellFormed` say which of them may be written.
- Definition `Item.block?` is the block that an item stands for, if it is one.
-/

namespace TemplateImports.Component

open Text

/-! ## Attributes -/

/-- An attribute of a block, as it is written. -/
inductive WrittenAttribute where
  | bare (name : List Char)
  | valued (name value : List Char)
deriving Repr, DecidableEq

namespace WrittenAttribute

/-- The name of an attribute. -/
def name : WrittenAttribute → List Char
  | .bare name => name
  | .valued name _ => name

/-- The value of an attribute, which is empty if it has none. -/
def value : WrittenAttribute → List Char
  | .bare _ => []
  | .valued _ value => value

/-- The text of an attribute, which opens with a space. -/
def write : WrittenAttribute → List Char
  | .bare name => ' ' :: name
  | .valued name value => ' ' :: name ++ '=' :: '"' :: value ++ ['"']

/-- What an attribute says: a name with its value.  A bare attribute has the value `true`. -/
def entry : WrittenAttribute → String × String
  | .bare name => (String.ofList name, "true")
  | .valued name value => (String.ofList name, String.ofList value)

/-- A character of an attribute name: a lower-case letter, a digit or a dash. -/
def isNameChar (c : Char) : Bool :=
  c.isLower || c.isDigit || c == '-'

/-- A name is not empty; a value holds no double quote and no closing bracket. -/
structure WellFormed (a : WrittenAttribute) : Prop where
  name_ne_nil : a.name ≠ []
  name_chars : ∀ c ∈ a.name, isNameChar c = true
  value_no_quote : '"' ∉ a.value
  value_no_bracket : '>' ∉ a.value

instance (a : WrittenAttribute) : Decidable a.WellFormed :=
  decidable_of_iff (a.name ≠ [] ∧ (∀ c ∈ a.name, isNameChar c = true) ∧ '"' ∉ a.value ∧
      '>' ∉ a.value)
    ⟨fun h => ⟨h.1, h.2.1, h.2.2.1, h.2.2.2⟩,
      fun h => ⟨h.name_ne_nil, h.name_chars, h.value_no_quote, h.value_no_bracket⟩⟩

end WrittenAttribute

/-- The text of attributes. -/
def writeAttributes (attributes : List WrittenAttribute) : List Char :=
  attributes.flatMap WrittenAttribute.write

/-- Attributes that a tag may have: well-formed ones with distinct names. -/
structure WellFormedAttributes (attributes : List WrittenAttribute) : Prop where
  each : ∀ a ∈ attributes, a.WellFormed
  distinct : (attributes.map WrittenAttribute.name).Nodup

instance (attributes : List WrittenAttribute) : Decidable (WellFormedAttributes attributes) :=
  decidable_of_iff ((∀ a ∈ attributes, a.WellFormed) ∧
      (attributes.map WrittenAttribute.name).Nodup)
    ⟨fun h => ⟨h.1, h.2⟩, fun h => ⟨h.each, h.distinct⟩⟩

/-! ## Comments -/

/-- The text of a comment. -/
def writeComment (body : List Char) : List Char :=
  "<!--".toList ++ body ++ "-->".toList

/-- The body of a comment holds no end mark, and does not make one together with the dashes of the
opening mark. -/
structure IsCommentBody (body : List Char) : Prop where
  open_ended : ¬ "-->".toList <:+: body
  not_closed : ¬ ['>'] <+: body
  not_dash_closed : ¬ ['-', '>'] <+: body

instance (body : List Char) : Decidable (IsCommentBody body) :=
  decidable_of_iff (¬ "-->".toList <:+: body ∧ ¬ ['>'] <+: body ∧ ¬ ['-', '>'] <+: body)
    ⟨fun h => ⟨h.1, h.2.1, h.2.2⟩, fun h => ⟨h.open_ended, h.not_closed, h.not_dash_closed⟩⟩

/-! ## The content of a template -/

/-- The name of a template block. -/
def templateTag : List Char :=
  "template".toList

/-- A piece of the content of a template. -/
inductive Piece where
  | text (cs : List Char)
  | comment (body : List Char)
  | nested (attributes : List Char) (content : List Piece)
  | closed (attributes : List Char)
  /-- An opening or closing tag of another name; `inside` starts with the name. -/
  | other (closes : Bool) (inside : List Char)

namespace Piece

mutual

/-- The text of a piece. -/
def write : Piece → List Char
  | .text cs => cs
  | .comment body => writeComment body
  | .nested attributes content =>
    '<' :: templateTag ++ attributes ++ '>' :: writeAll content ++
      '<' :: '/' :: templateTag ++ ['>']
  | .closed attributes => '<' :: templateTag ++ attributes ++ ['/', '>']
  | .other closes inside => '<' :: (if closes then ['/'] else []) ++ inside ++ ['>']

/-- The text of pieces. -/
def writeAll : List Piece → List Char
  | [] => []
  | piece :: pieces => piece.write ++ writeAll pieces

end

/-- Text inside a tag holds no bracket. -/
def IsInside (cs : List Char) : Prop :=
  '<' ∉ cs ∧ '>' ∉ cs

instance (cs : List Char) : Decidable (IsInside cs) :=
  inferInstanceAs (Decidable (_ ∧ _))

mutual

/-- A piece that may be written inside a template. -/
def WellFormed : Piece → Prop
  | .text cs => '<' ∉ cs
  | .comment body => IsCommentBody body
  | .nested attributes content =>
    IsInside attributes ∧ (∀ c ∈ attributes.head?, isBlank c = true) ∧
      isSelfClosed attributes = false ∧ AllWellFormed content
  | .closed attributes => IsInside attributes
  | .other _ inside =>
    IsInside inside ∧ (∃ c ∈ inside.head?, c.isAlpha = true) ∧ ¬ templateTag <+: inside

/-- Pieces that may be written inside a template. -/
def AllWellFormed : List Piece → Prop
  | [] => True
  | piece :: pieces => piece.WellFormed ∧ AllWellFormed pieces

end

mutual

instance decidableWellFormed : (piece : Piece) → Decidable piece.WellFormed
  | .text cs => inferInstanceAs (Decidable ('<' ∉ cs))
  | .comment body => inferInstanceAs (Decidable (IsCommentBody body))
  | .nested _ content =>
    have := decidableAllWellFormed content
    inferInstanceAs (Decidable (_ ∧ _))
  | .closed attributes => inferInstanceAs (Decidable (IsInside attributes))
  | .other _ _ => inferInstanceAs (Decidable (_ ∧ _))

instance decidableAllWellFormed : (pieces : List Piece) → Decidable (AllWellFormed pieces)
  | [] => inferInstanceAs (Decidable True)
  | piece :: pieces =>
    have := decidableWellFormed piece
    have := decidableAllWellFormed pieces
    inferInstanceAs (Decidable (_ ∧ _))

end

end Piece

/-! ## Items -/

/-- An item of a component. -/
inductive Item where
  | gap (cs : List Char)
  | comment (body : List Char)
  | template (attributes : List WrittenAttribute) (content : List Piece)
  /-- A block with plain content. -/
  | plain (tag : List Char) (attributes : List WrittenAttribute) (content : List Char)
  /-- A self-closed block; `blanks` stands in front of the closing mark. -/
  | closed (tag : List Char) (attributes : List WrittenAttribute) (blanks : List Char)

/-- A character of a block name after the first one. -/
def isWrittenTagChar (c : Char) : Bool :=
  c.isAlphanum || c == '_' || c == '-'

/-- The name of a block: a letter, and letters, digits, underscores and dashes behind it. -/
structure IsTag (tag : List Char) : Prop where
  starts : ∃ c ∈ tag.head?, c.isAlpha = true
  chars : ∀ c ∈ tag, isWrittenTagChar c = true

instance (tag : List Char) : Decidable (IsTag tag) :=
  decidable_of_iff ((∃ c ∈ tag.head?, c.isAlpha = true) ∧ ∀ c ∈ tag, isWrittenTagChar c = true)
    ⟨fun h => ⟨h.1, h.2⟩, fun h => ⟨h.starts, h.chars⟩⟩

/-- The text of a block with an end tag. -/
def writeBlock (tag : List Char) (attributes : List WrittenAttribute) (content : List Char) :
    List Char :=
  '<' :: tag ++ writeAttributes attributes ++ '>' :: content ++ '<' :: '/' :: tag ++ ['>']

namespace Item

/-- The text of an item. -/
def write : Item → List Char
  | .gap cs => cs
  | .comment body => writeComment body
  | .template attributes content => writeBlock templateTag attributes (Piece.writeAll content)
  | .plain tag attributes content => writeBlock tag attributes content
  | .closed tag attributes blanks =>
    '<' :: tag ++ writeAttributes attributes ++ blanks ++ ['/', '>']

/-- An item that may be written. -/
def WellFormed : Item → Prop
  | .gap cs => '<' ∉ cs
  | .comment body => IsCommentBody body
  | .template attributes content => WellFormedAttributes attributes ∧ Piece.AllWellFormed content
  | .plain tag attributes content =>
    IsTag tag ∧ tag ≠ templateTag ∧ WellFormedAttributes attributes ∧
      ¬ '<' :: '/' :: tag <:+: content
  | .closed tag attributes blanks =>
    IsTag tag ∧ WellFormedAttributes attributes ∧ (∀ c ∈ blanks, isBlank c = true) ∧
      (attributes = [] → blanks ≠ [])

instance (item : Item) : Decidable item.WellFormed :=
  match item with
  | .gap cs => inferInstanceAs (Decidable ('<' ∉ cs))
  | .comment body => inferInstanceAs (Decidable (IsCommentBody body))
  | .template _ _ => inferInstanceAs (Decidable (_ ∧ _))
  | .plain _ _ _ => inferInstanceAs (Decidable (_ ∧ _))
  | .closed _ _ _ => inferInstanceAs (Decidable (_ ∧ _))

/-- The block that an item stands for, if it is one. -/
def block? : Item → Option Block
  | .gap _ => none
  | .comment _ => none
  | .template attributes content =>
    some ⟨"template", String.ofList (Piece.writeAll content),
      attributes.map WrittenAttribute.entry⟩
  | .plain tag attributes content =>
    some ⟨String.ofList tag, String.ofList content, attributes.map WrittenAttribute.entry⟩
  | .closed tag attributes _ =>
    some ⟨String.ofList tag, "", attributes.map WrittenAttribute.entry⟩

end Item

/-- The text of items. -/
def writeItems (items : List Item) : List Char :=
  items.flatMap Item.write

/-- The blocks that items stand for, in order. -/
def writtenBlocks (items : List Item) : List Block :=
  items.filterMap Item.block?

end TemplateImports.Component
