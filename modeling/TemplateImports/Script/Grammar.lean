import TemplateImports.Script.Cursor
import TemplateImports.Script.Shape

/-!
# Goals of reading

The grammar of scripts is a set of rules, one for each kind of phrase.  A rule reads the phrases
inside its own through a reader that is handed to it, so that the rules need not know each other.

Main results:

- Structure `Context` says what is allowed where a phrase stands.
- Type `Goal` lists the kinds of phrases, and `Reader` is what reads them.
- Definition `Token.nameIn?` says which tokens are names in a context.
-/

namespace TemplateImports.Script

/-- What is allowed where a phrase stands. -/
structure Context where
  /-- Whether `await` waits for a value. -/
  awaits : Bool
  /-- Whether `yield` hands out a value. -/
  yields : Bool
  returns : Bool
  /-- Whether `in` is an operator. -/
  allowsIn : Bool
deriving Repr, DecidableEq

namespace Context

/-- The context of a whole script. -/
def top : Context :=
  ⟨true, false, false, true⟩

/-- The context inside a function. -/
def inFunction (isAsync isGenerator : Bool) : Context :=
  ⟨isAsync, isGenerator, true, true⟩

/-- The same context inside brackets. -/
def bracketed (x : Context) : Context :=
  { x with allowsIn := true }

end Context

/-- The kinds of phrases.  The items of a list that were read already are given with it. -/
inductive Goal where
  | expression
  | assignment
  /-- Operands with operators of a least strength between them. -/
  | binary (least : Nat)
  /-- The operators behind a left operand. -/
  | binaryRest (least : Nat) (left : Shape)
  | unary
  /-- A value with its members and calls. -/
  | leftSide
  | primary
  /-- The members of a value, and its calls if these are included. -/
  | suffix (calls : Bool) (base : Shape)
  | arguments (items : List Shape)
  | group (items : List Shape)
  | arrayItems (items : List Shape)
  | objectItems (items : List Shape)
  /-- A template text, which may be handed to a function. -/
  | template (isTagged : Bool)
  | arrowBody (isAsync : Bool)
  /-- The parameters and the body of a function. -/
  | function (isAsync isGenerator : Bool)
  | parameters (items : List Shape)
  /-- A class behind its name. -/
  | classRest
  | classItems
  /-- Decorators, of which there may be none. -/
  | decorators
  | binding
  | arrayPattern (items : List Shape)
  | objectPattern (items : List Shape)
  /-- A statement, which may be the only one in its place. -/
  | statement (isAlone : Bool)
  /-- Statements up to the brace that closes them. -/
  | statements
  | declarators (items : List Shape)
  | cases
deriving Repr

/-- Reads a phrase. -/
abbrev Reader := Context → Goal → Cursor → Option (Shape × Cursor)

/-- A rule of the grammar. -/
abbrev Rule := Reader → Context → Cursor → Option (Shape × Cursor)

/-! ## Words as names -/

/-- The text of a keyword. -/
def Keyword.text (k : Keyword) : List Char :=
  ((Keyword.table.find? fun entry => entry.2 == k).map (·.1.toList)).getD []

namespace Token

/-- The name that a token is in a context. -/
def nameIn? (x : Context) : Token → Option (List Char)
  | .name text => some text
  | .escapedName text =>
    if ((Keyword.ofText? text).map Keyword.isReserved).getD false then none else some text
  | .keyword k =>
    if k.isReserved || (k == .await && x.awaits) || (k == .yield && x.yields) then none
    else some k.text
  | _ => none

/-- The text of any word. -/
def word? : Token → Option (List Char)
  | .name text => some text
  | .escapedName text => some text
  | .keyword k => some k.text
  | _ => none

/-- Whether a token is a word or a literal in one piece. -/
def isWordOrLiteral : Token → Bool
  | .name _ => true
  | .escapedName _ => true
  | .keyword _ => true
  | .number => true
  | .string _ => true
  | _ => false

end Token

/-! ## Common steps -/

/-- Takes back the marks of shorthand members that a pattern makes valid. -/
def Cursor.settle (c : Cursor) (count : Nat) : Cursor :=
  { c with pending := c.pending - count }

/-- Whether a keyword stands before a function on the same line. -/
def Cursor.startsAsyncFunction (c : Cursor) : Bool :=
  c.isAtWord .async && c.next.isAtWord .function && !c.next.onNewLine

/-- Reads an expression in parentheses. -/
def readCondition (read : Reader) (x : Context) (c : Cursor) : Option Cursor := do
  let c ← c.take? .openParen
  let (_, c) ← read x.bracketed .expression c
  c.take? .closeParen

/-- Reads a block of statements in braces. -/
def readBlock (read : Reader) (x : Context) (c : Cursor) : Option Cursor := do
  let c ← c.take? .openBrace
  let (_, c) ← read x.bracketed .statements c
  return c

end TemplateImports.Script
