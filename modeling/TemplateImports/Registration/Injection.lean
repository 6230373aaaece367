import TemplateImports.Registration.Block
import TemplateImports.Script.Module

/-!
# Putting blocks into a script

A block is put in front of a sentinel, at a given offset, or at the end of a script.  A sentinel that
is written as a comment is looked for among the comments of the script, so that the same text inside
a string is not mistaken for it.

Main results:

- Definition `locate?` finds a sentinel.
- Definition `Generator.inject` puts the block for imports into a script.
-/

namespace TemplateImports

open Text

/-! ## Finding the sentinel -/

/-- Whether a text is written as a comment. -/
def isCommentLike (text : List Char) : Bool :=
  ['/', '*'].isPrefixOf text || ['/', '/'].isPrefixOf text

/-- The offset of the first comment of a script from which on the text starts with a sentinel. -/
def locateComment? (source sentinel : List Char) (s : Script) : Option Nat :=
  (s.comments.find? fun comment => sentinel.isPrefixOf comment).map (Script.offsetOfEnd source)

/-- The offset of a sentinel in a text.  One that is written as a comment is looked for among the
comments, unless the text is no script. -/
def locate? (source sentinel : List Char) : Option Nat :=
  if sentinel.isEmpty then none
  else if isCommentLike sentinel then
    match Script.read? source with
    | some s => locateComment? source sentinel s
    | none => offsetOf? sentinel source
  else offsetOf? sentinel source

/-! ## Injection -/

/-- Where a block is put. -/
inductive InsertionPlace where
  | sentinel
  | offset (n : Nat)
  | atEnd
deriving Repr, DecidableEq

namespace Generator

/-- The offset that a place stands for, if the text has it. -/
def offset? (g : Generator) (source : List Char) : InsertionPlace → Option Nat
  | .sentinel => locate? source g.sentinel.toList
  | .offset n => some n
  | .atEnd => none

/-- Puts a block into a text at an offset, or at its end if there is none or the text cannot be cut
there. -/
def splice (source block : List Char) (offset : Option Nat) : List Char :=
  match offset.bind (cutAt? · source) with
  | some (before, after) => before ++ block ++ ['\n', '\n'] ++ after
  | none => source ++ ['\n', '\n'] ++ block

/-- Puts the block for imports into a text, at a place. -/
def injectAt (g : Generator) (source : String) (c : Category) (imports : List Import)
    (place : InsertionPlace) : String :=
  match g.block? c imports with
  | none => source
  | some block =>
    String.ofList (splice source.toList block.toList (g.offset? source.toList place))

/-- Puts the block for imports into a text, in front of the sentinel. -/
def inject (g : Generator) (source : String) (c : Category) (imports : List Import) : String :=
  g.injectAt source c imports .sentinel

end Generator

end TemplateImports
