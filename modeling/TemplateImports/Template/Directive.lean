import TemplateImports.Text.Split

/-!
# Directives

A directive is an attribute such as `v-resize:doc.quiet="onResize"`: a name, an optional argument
after a colon, and modifiers after dots.  Bindings (`:a`, `v-bind:a`), listeners (`@a`, `v-on:a`),
slots and the control-flow attributes are not directives: the template compiler uses them up before
it looks for any.

A dynamic argument may hold dots in brackets, so modifiers begin at the first dot after the last
closing bracket.

Main results:

- Definition `Directive.parse` reads the name and the value of an attribute.
-/

namespace TemplateImports.Template

open Text

/-- A directive of an element. -/
structure Directive where
  name : String
  rawName : String
  arg : Option String
  modifiers : List String
  value : String
deriving Repr, DecidableEq

namespace Directive

/-! ## Attributes that are not directives -/

/-- Control-flow attributes. -/
def structuralNames : List String :=
  ["v-pre", "v-for", "v-if", "v-else-if", "v-else", "v-once"]

/-- Whether a text starts with one of the given beginnings. -/
def startsWithAny (beginnings : List String) (cs : List Char) : Bool :=
  beginnings.any (·.toList.isPrefixOf cs)

/-- Whether an attribute name has the mark of the template language. -/
def isMarked (raw : List Char) : Bool :=
  startsWithAny ["v-", "@", ":", "#"] raw

/-- Whether an attribute is one of control flow or names a slot. -/
def isStructural (raw : List Char) : Bool :=
  structuralNames.contains (String.ofList raw) || raw == "v-slot".toList ||
    startsWithAny ["v-slot:", "#"] raw

/-- Whether a name without modifiers is a binding or a listener. -/
def isBindingOrListener (base : List Char) : Bool :=
  startsWithAny [":", ".", "v-bind:", "@", "v-on:"] base

/-! ## Parts of a name -/

/-- The base of a name and its modifiers. -/
def splitModifiers (raw : List Char) : List Char × List (List Char) :=
  let tail := (raw.reverse.takeWhile (· != ']')).reverse
  let bracketed := raw.take (raw.length - tail.length)
  match tail.dropWhile (· != '.') with
  | [] => (raw, [])
  | _ :: rest =>
    (bracketed ++ tail.takeWhile (· != '.'), (splitOn '.' rest).filter (!·.isEmpty))

/-- The text without the mark of the template language. -/
def dropMark : List Char → List Char
  | 'v' :: '-' :: cs => cs
  | '@' :: cs => cs
  | ':' :: cs => cs
  | '#' :: cs => cs
  | cs => cs

/-- The argument that starts at the first colon of a text. -/
def argument (cs : List Char) : Option String :=
  match cs.dropWhile (· != ':') with
  | [] => none
  | _ :: arg => some (String.ofList arg)

/-! ## Reading -/

/-- The directive that an attribute stands for, if it is one. -/
def parse (rawName value : String) : Option Directive :=
  let raw := rawName.toList
  if !isMarked raw || isStructural raw then none
  else
    let (base, modifiers) := splitModifiers raw
    if isBindingOrListener base then none
    else
      let stripped := dropMark base
      let name := stripped.takeWhile (· != ':')
      if name.isEmpty then none
      else some
        { name := String.ofList name
          rawName
          arg := argument stripped
          modifiers := modifiers.map String.ofList
          value }

end Directive

end TemplateImports.Template
