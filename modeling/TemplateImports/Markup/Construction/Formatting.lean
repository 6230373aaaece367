import TemplateImports.Markup.Construction.Builder

/-!
# Formatting elements

Bold text that runs across two paragraphs ends and begins again at the border.  Formatting elements
are therefore remembered until their own end tags come: `reconstruct` opens those again that a block
has closed, and `endFormatting` rebuilds the tree when the end tag of a formatting element comes
while blocks inside it are still open.

At most three equal formatting elements are remembered between two markers.

Main results:

- Definition `Builder.reconstruct` opens remembered elements again.
- Definition `Builder.endFormatting` handles the end tag of a formatting element.
-/

namespace TemplateImports.Markup.Builder

/-! ## The list of formatting elements -/

/-- Whether an entry is the element with the given identity. -/
def isEntry (id : Nat) : Formatting → Bool
  | .marker => false
  | .element e => e.id == id

/-- The elements since the latest marker, latest first. -/
def recentFormatting (b : Builder) : List OpenElement :=
  (b.formatting.takeWhile (· != .marker)).filterMap fun
    | .marker => none
    | .element e => some e

/-- Forgets an element. -/
def forget (b : Builder) (id : Nat) : Builder :=
  { b with formatting := b.formatting.filter (!isEntry id ·) }

/-- Starts a group of formatting elements. -/
def pushMarker (b : Builder) : Builder :=
  { b with formatting := .marker :: b.formatting }

/-- Forgets the latest group of formatting elements. -/
def clearToMarker (b : Builder) : Builder :=
  { b with formatting := (b.formatting.dropWhile (· != .marker)).drop 1 }

/-- Whether two elements have the same name and the same attributes, in any order. -/
def sameFormatting (e f : OpenElement) : Bool :=
  e.name == f.name && e.attributes.length == f.attributes.length &&
    e.attributes.all f.attributes.contains

/-- Opens a formatting element and remembers it.  Of three equal ones the oldest is forgotten. -/
def insertFormatting (b : Builder) (tag : Tag) : Builder :=
  let e : OpenElement := ⟨b.nextId, .html tag.name, tag.attributes⟩
  let equal := b.recentFormatting.filter (sameFormatting e)
  let b := if 3 ≤ equal.length then (equal.getLast?.map fun f => b.forget f.id).getD b else b
  let b := b.insertTag tag
  { b with formatting := .element e :: b.formatting }

/-! ## Opening elements again -/

/-- Whether an entry needs no opening: a marker, or an element that is open. -/
def needsNoOpening (b : Builder) : Formatting → Bool
  | .marker => true
  | .element e => b.stack.any (·.id == e.id)

/-- Opens the given entries again, oldest first, and remembers the new elements. -/
def reopen (b : Builder) : List Formatting → Builder
  | [] => b
  | .marker :: entries => reopen b entries
  | .element e :: entries =>
    let e' := { e with id := b.nextId }
    let b := b.insertElement e.name e.attributes
    reopen { b with formatting := .element e' :: b.formatting } entries

/-- Opens the remembered elements again that a block has closed. -/
def reconstruct (b : Builder) : Builder :=
  let closed := b.formatting.takeWhile (!b.needsNoOpening ·)
  reopen { b with formatting := b.formatting.dropWhile (!b.needsNoOpening ·) } closed.reverse

/-! ## End tags -/

/-- Handles an end tag that no other rule covers: closes the innermost element of that name, unless
a special element stands before it. -/
def endOrdinary (b : Builder) (label : String) : Builder :=
  match b.stack.find? fun e => e.name.isHtml label || isSpecial e.name with
  | some e =>
    if e.name.isHtml label then
      let b := b.closeImpliedExcept label
      { b with stack := (b.stack.dropWhile (·.id != e.id)).drop 1 }
    else b
  | none => b

/-- What rebuilding a formatting element goes through: the elements between it and the block inside
it, innermost first. -/
structure Rebuilding where
  builder : Builder
  /-- The part of the tree that moves outwards. -/
  moving : Node
  /-- The rebuilt elements, innermost first. -/
  rebuilt : List OpenElement := []
  /-- The innermost rebuilt element. -/
  anchor : Option Nat := none

/-- Puts another element into the place of an entry. -/
def replaceEntry (b : Builder) (id : Nat) (e : OpenElement) : Builder :=
  { b with
    formatting := b.formatting.map fun entry => if isEntry id entry then .element e else entry }

/-- Rebuilds the elements between a formatting element and the block inside it.  The first three
that are remembered are made anew around the moving part; all others are no longer open. -/
def rebuildBetween (r : Rebuilding) (count : Nat) : List OpenElement → Rebuilding
  | [] => r
  | e :: es =>
    if 3 ≤ count then
      rebuildBetween { r with builder := r.builder.forget e.id } (count + 1) es
    else if r.builder.formatting.any (isEntry e.id) then
      let e' := { e with id := r.builder.nextId }
      let b := r.builder.replaceEntry e.id e'
      rebuildBetween
        { builder := { b with nextId := b.nextId + 1 }
          moving := .element e'.id e'.name e'.attributes [r.moving] []
          rebuilt := r.rebuilt ++ [e']
          anchor := r.anchor.or (some e'.id) } (count + 1) es
    else rebuildBetween r (count + 1) es

/-- Remembers a new element before an entry, which is the next older one, and forgets another. -/
def rememberAfter (b : Builder) (anchor : Nat) (e : OpenElement) (old : Nat) : Builder :=
  let newer := b.formatting.takeWhile (!isEntry anchor ·)
  let older := b.formatting.dropWhile (!isEntry anchor ·)
  { b with formatting := newer ++ Formatting.element e :: older }.forget old

/-- Rebuilds a formatting element around the content of a block inside it.  `inner` holds the
elements inside the block, `between` those between the block and the formatting element, both
innermost first, and `outer` those around the formatting element. -/
def rebuild (b : Builder) (formatting block : OpenElement)
    (inner between outer : List OpenElement) : Builder :=
  let part := (Node.find? block.id b.document).getD (.element block.id block.name [] [] [])
  let copy : OpenElement := { formatting with id := b.nextId }
  let part := part.wrapChildren copy.id copy.name copy.attributes
  let b := { b with
    document := Node.remove block.id b.document
    nextId := b.nextId + 1 }
  let r := rebuildBetween { builder := b, moving := part } 0 between
  let b := r.builder
  let place := match outer with
    | [] => Place.lastIn 0
    | target :: _ => b.placeFor target
  let b := { b with
    document := Node.editAt place (Node.append r.moving) b.document
    stack := inner ++ copy :: block :: r.rebuilt ++ outer }
  match r.anchor with
  | some anchor => b.rememberAfter anchor copy formatting.id
  | none => b.replaceEntry formatting.id copy

/-- Handles the end tag of a formatting element, as often as the count allows. -/
def endFormattingLoop (label : String) : Nat → Builder → Builder
  | 0, b => b
  | n + 1, b =>
    match b.recentFormatting.find? (·.name.isHtml label) with
    | none => b.endOrdinary label
    | some e =>
      let inside := b.stack.takeWhile (·.id != e.id)
      match b.stack.dropWhile (·.id != e.id) with
      | [] => b.forget e.id
      | _ :: outer =>
        if !inScope defaultScope (·.id == e.id) b.stack then b
        else
          let between := (inside.reverse.takeWhile (!isSpecial ·.name)).reverse
          match inside.reverse.dropWhile (!isSpecial ·.name) with
          | [] => { b with stack := outer }.forget e.id
          | block :: inner =>
            endFormattingLoop label n (b.rebuild e block inner.reverse between outer)

/-- Handles the end tag of a formatting element. -/
def endFormatting (b : Builder) (label : String) : Builder :=
  match b.stack with
  | e :: outer =>
    if e.name.isHtml label && !b.formatting.any (isEntry e.id) then { b with stack := outer }
    else endFormattingLoop label 8 b
  | [] => b

end TemplateImports.Markup.Builder
