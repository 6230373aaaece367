import TemplateImports.Script.Grammar

/-!
# Patterns

Names, lists and objects that take a value apart into variables, as they stand in declarations and
among parameters.

Main results:

- Definitions `bindingRule`, `arrayPatternRule` and `objectPatternRule` read patterns.
- Definition `readMemberName` reads the name of a member.
-/

namespace TemplateImports.Script

/-! ## Names of members -/

/-- The name of a member. -/
inductive MemberName where
  /-- A word, with its token. -/
  | word (token : Token)
  | quoted (text : Option (List Char))
  | number
  | computed
  | hidden (text : List Char)
deriving Repr, DecidableEq

namespace MemberName

/-- The text of a name that is written out. -/
def text? : MemberName → Option (List Char)
  | .word token => token.word?
  | .quoted text => text
  | _ => none

/-- Whether a name is written out as a text. -/
def spells (name : MemberName) (text : String) : Bool :=
  name.text? == some text.toList

end MemberName

/-- Reads the name of a member. -/
def readMemberName (read : Reader) (x : Context) (c : Cursor) : Option (MemberName × Cursor) :=
  match c.token with
  | .string text => some (.quoted text, c.next)
  | .number => some (.number, c.next)
  | .privateName text => some (.hidden text, c.next)
  | .sign .openBracket => do
    let (_, c) ← read x.bracketed .assignment c.next
    let c ← c.take? .closeBracket
    return (.computed, c)
  | token => token.word?.map fun _ => (.word token, c.next)

/-! ## Patterns -/

/-- Reads a pattern, with its default value if it has one. -/
def readDefault (read : Reader) (x : Context) (c : Cursor) : Option (Shape × Cursor) := do
  let (s, c) ← read x .binding c
  if c.isAt .assign then
    let (_, c) ← read x.bracketed .assignment c.next
    return (.assigned s, c)
  else return (s, c)

/-- A name, or a pattern in brackets or braces. -/
def bindingRule : Rule := fun read x c =>
  match c.token with
  | .sign .openBracket => read x (.arrayPattern []) c.next
  | .sign .openBrace => read x (.objectPattern []) c.next
  | token => (token.nameIn? x).map fun text => (.name text, c.next)

/-- The items of a pattern up to the closing bracket.  Nothing follows the rest of a list. -/
def arrayPatternRule (items : List Shape) : Rule := fun read x c =>
  if c.isAt .closeBracket then some (.array items, c.next)
  else if c.isAt .comma then read x (.arrayPattern (items ++ [.hole])) c.next
  else if c.isAt .spread then do
    let (s, c) ← read x .binding c.next
    let c ← c.take? .closeBracket
    return (.array (items ++ [.spread s true]), c)
  else do
    let (s, c) ← readDefault read x c
    if c.isAt .comma then read x (.arrayPattern (items ++ [s])) c.next
    else
      let c ← c.take? .closeBracket
      return (.array (items ++ [s]), c)

/-- Reads a member of a pattern in braces. -/
def readPatternMember (read : Reader) (x : Context) (c : Cursor) : Option (Shape × Cursor) := do
  let (name, after) ← readMemberName read x c
  match name with
  | .hidden _ => none
  | _ =>
    if after.isAt .colon then readDefault read x after.next
    else
      let text ← c.token.nameIn? x
      if after.isAt .assign then
        let (_, c) ← read x.bracketed .assignment after.next
        return (.assigned (.name text), c)
      else return (.name text, after)

/-- The members of a pattern up to the closing brace. -/
def objectPatternRule (items : List Shape) : Rule := fun read x c =>
  if c.isAt .closeBrace then some (.object items, c.next)
  else if c.isAt .spread then do
    let text ← c.next.token.nameIn? x
    let c ← c.next.next.take? .closeBrace
    return (.object (items ++ [.spread (.name text) true]), c)
  else do
    let (s, c) ← readPatternMember read x c
    if c.isAt .comma then read x (.objectPattern (items ++ [s])) c.next
    else
      let c ← c.take? .closeBrace
      return (.object (items ++ [s]), c)

/-- The parameters of a function up to the closing parenthesis. -/
def parametersRule (items : List Shape) : Rule := fun read x c =>
  if c.isAt .closeParen then some (.group items, c.next)
  else if c.isAt .spread then do
    let (s, c) ← read x .binding c.next
    let c ← c.take? .closeParen
    return (.group (items ++ [.spread s true]), c)
  else do
    let (s, c) ← readDefault read x c
    if c.isAt .comma then read x (.parameters (items ++ [s])) c.next
    else
      let c ← c.take? .closeParen
      return (.group (items ++ [s]), c)

/-- Declared variables, separated by commas. -/
def declaratorsRule (items : List Shape) : Rule := fun read x c => do
  let (s, c) ← read x .binding c
  let (s, c) ←
    if c.isAt .assign then
      (read x .assignment c.next).map fun (_, c) => (Shape.assigned s, c)
    else some (s, c)
  if c.isAt .comma then read x (.declarators (items ++ [s])) c.next
  else return (.group (items ++ [s]), c)

end TemplateImports.Script
