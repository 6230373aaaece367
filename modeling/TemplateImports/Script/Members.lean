import TemplateImports.Script.Patterns

/-!
# Functions, objects and classes

Functions with their parameters and bodies, and the members of objects and classes.

Main results:

- Definition `functionRule` reads a function behind its name.
- Definition `objectItemsRule` reads the members of an object.
- Definition `classItemsRule` reads the members of a class.
-/

namespace TemplateImports.Script

/-! ## Functions -/

/-- The parameters and the body of a function.  What is kept are the parameters. -/
def functionRule (isAsync isGenerator : Bool) : Rule := fun read _ c => do
  let x := Context.inFunction isAsync isGenerator
  let c ← c.take? .openParen
  let (s, c) ← read x (.parameters []) c
  let c ← readBlock read x c
  return (s, c)

/-- The accessors of a member. -/
inductive Accessor where
  | get
  | set
deriving Repr, DecidableEq

/-- Whether the parameters of an accessor are right: none to get, and one to set. -/
def Accessor.accepts (a : Accessor) (items : List Shape) : Bool :=
  match a, items with
  | .get, [] => true
  | .set, [.spread _ _] => false
  | .set, [_] => true
  | _, _ => false

/-- The accessor that a cursor stands at, if the name of a member follows it. -/
def accessorAt? (ends : Token → Bool) (c : Cursor) : Option Accessor :=
  if ends c.next.token then none
  else if c.isAtWord .get then some .get
  else if c.isAtWord .set then some .set
  else none

/-- Whether a cursor stands at the word for an asynchronous member. -/
def isAsyncMember (ends : Token → Bool) (c : Cursor) : Bool :=
  c.isAtWord .async && !c.next.onNewLine && !ends c.next.token

/-- Reads the function of a member. -/
def readMethod (read : Reader) (x : Context) (isAsync isGenerator : Bool) (c : Cursor) :
    Option Cursor :=
  (read x (.function isAsync isGenerator) c).map (·.2)

/-- Reads the function of an accessor. -/
def readAccessor (read : Reader) (x : Context) (a : Accessor) (c : Cursor) : Option Cursor :=
  match read x (.function false false) c with
  | some (s, c) => if a.accepts s.items then some c else none
  | none => none

/-! ## Objects -/

/-- Whether a token stands behind the name of a member of an object. -/
def Token.endsObjectName : Token → Bool
  | .sign .openParen => true
  | .sign .comma => true
  | .sign .colon => true
  | .sign .closeBrace => true
  | .sign .assign => true
  | _ => false

/-- Reads a name of a member that is not hidden. -/
def readOpenName (read : Reader) (x : Context) (c : Cursor) : Option (MemberName × Cursor) :=
  match readMemberName read x c with
  | some (.hidden _, _) => none
  | found => found

/-- Reads a plain member of an object: a function, a value behind a colon, or a name on its own. -/
def readPlainMember (read : Reader) (x : Context) (c : Cursor) : Option (Shape × Cursor) := do
  let (_, after) ← readOpenName read x c
  if after.isAt .openParen then
    let c ← readMethod read x false false after
    return (.value, c)
  else if after.isAt .colon then read x .assignment after.next
  else
    let text ← c.token.nameIn? x
    if after.isAt .assign then
      let (_, c) ← read x .assignment after.next
      return (.shorthand text, { c with pending := c.pending + 1 })
    else return (.name text, after)

/-- Reads a member of an object. -/
def readObjectMember (read : Reader) (x : Context) (c : Cursor) : Option (Shape × Cursor) :=
  if c.isAt .star then do
    let (_, c) ← readOpenName read x c.next
    let c ← readMethod read x false true c
    return (.value, c)
  else if isAsyncMember Token.endsObjectName c then do
    let isGenerator := c.next.isAt .star
    let (_, c) ← readOpenName read x (c.next.skipSign .star)
    let c ← readMethod read x true isGenerator c
    return (.value, c)
  else
    match accessorAt? Token.endsObjectName c with
    | some a => do
      let (_, c) ← readOpenName read x c.next
      let c ← readAccessor read x a c
      return (.value, c)
    | none => readPlainMember read x c

/-- The members of an object up to the closing brace. -/
def objectItemsRule (items : List Shape) : Rule := fun read x c =>
  if c.isAt .closeBrace then some (.object items, c.next)
  else do
    let (s, c) ←
      if c.isAt .spread then
        (read x .assignment c.next).map fun (s, c) => (Shape.spread s true, c)
      else readObjectMember read x c
    if c.isAt .comma then read x (.objectItems (items ++ [s.followed])) c.next
    else
      let c ← c.take? .closeBrace
      return (.object (items ++ [s]), c)

/-! ## Classes -/

/-- Whether a token stands behind the name of a member of a class. -/
def Token.endsClassName : Token → Bool
  | .sign .openParen => true
  | .sign .assign => true
  | .sign .semicolon => true
  | .sign .closeBrace => true
  | _ => false

/-- Whether a name is fit for a member of a class that is no plain function. -/
def MemberName.fitsField (name : MemberName) (isStatic : Bool) : Bool :=
  !name.spells "constructor" && !(isStatic && name.spells "prototype") &&
    name != .hidden "constructor".toList

/-- Whether a name is fit for a plain function of a class. -/
def MemberName.fitsMethod (name : MemberName) (isStatic : Bool) : Bool :=
  !(isStatic && name.spells "prototype") && name != .hidden "constructor".toList

/-- Whether a name is fit for any other function of a class. -/
def MemberName.fitsSpecial (name : MemberName) (isStatic : Bool) : Bool :=
  name.fitsMethod isStatic && (isStatic || !name.spells "constructor")

/-- The context of the value of a field. -/
def fieldContext : Context :=
  ⟨false, false, false, true⟩

/-- Reads a field of a class behind its name. -/
def readField (read : Reader) (c : Cursor) : Option Cursor := do
  if c.isAt .assign then
    let (_, c) ← read fieldContext .assignment c.next
    c.endStatement?
  else c.endStatement?

/-- Reads a member of a class whose function is asynchronous, generates values, or is an
accessor. -/
def readSpecialMember (read : Reader) (x : Context) (isStatic : Bool) (c : Cursor)
    (readBody : Cursor → Option Cursor) : Option Cursor := do
  let (name, c) ← readMemberName read x c
  if name.fitsSpecial isStatic then readBody c else none

/-- Reads a member of a class behind the words that describe it. -/
def readClassMember (read : Reader) (x : Context) (isStatic : Bool) (c : Cursor) : Option Cursor :=
  if c.isAt .star then
    readSpecialMember read x isStatic c.next (readMethod read x false true)
  else if isAsyncMember Token.endsClassName c then
    readSpecialMember read x isStatic (c.next.skipSign .star)
      (readMethod read x true (c.next.isAt .star))
  else
    match accessorAt? Token.endsClassName c with
    | some a => readSpecialMember read x isStatic c.next (readAccessor read x a)
    | none => do
      let (name, c) ← readMemberName read x c
      if c.isAt .openParen then
        if name.fitsMethod isStatic then readMethod read x false false c else none
      else if name.fitsField isStatic then readField read c
      else none

/-- The cursor behind a word that describes a member, if the member follows it. -/
def skipDescription (k : Keyword) (c : Cursor) : Cursor :=
  if c.isAtWord k && !c.next.token.endsClassName && !c.next.onNewLine then c.next else c

/-- Reads an item of a class. -/
def readClassItem (read : Reader) (x : Context) (c : Cursor) : Option Cursor :=
  let isStatic := c.isAtWord .static && !c.next.token.endsClassName
  let c := if isStatic then c.next else c
  if isStatic && c.isAt .openBrace then readBlock read ⟨true, false, false, true⟩ c
  else readClassMember read x isStatic (skipDescription .accessor c)

/-- The items of a class up to the closing brace. -/
def classItemsRule : Rule := fun read x c =>
  if c.isAt .closeBrace then some (.value, c.next)
  else if c.isAt .semicolon then read x .classItems c.next
  else do
    let (_, c) ← read x .decorators c
    let c ← readClassItem read x c
    read x .classItems c

/-- A class behind its name. -/
def classRestRule : Rule := fun read x c => do
  let c ←
    if c.isAtWord .extends_ then (read x .leftSide c.next).map (·.2) else some c
  let c ← c.take? .openBrace
  read x.bracketed .classItems c

/-- Decorators, each an at sign with a value. -/
def decoratorsRule : Rule := fun read x c =>
  if c.isAt .at_ then do
    let (_, c) ← read x .leftSide c.next
    read x .decorators c
  else some (.value, c)

end TemplateImports.Script
