import TemplateImports.Script.Grammar

/-!
# Imports and exports

The declarations that connect a script with others.  Of an import the names are kept that it
declares, and of an export the names under which it hands values out.

Main results:

- Definition `readImport` reads an import behind its first word.
- Definition `readExport` reads an export behind its first word.
-/

namespace TemplateImports.Script

/-! ## Common parts -/

/-- The text of a name under which a value is handed over: any word, or a quoted text that stands
for characters. -/
def Token.linkName? : Token → Option (List Char)
  | .string text => text
  | token => token.word?

/-- Whether a token is the name of an attribute: any word, or a quoted text. -/
def Token.isAttributeName : Token → Bool
  | .string _ => true
  | token => token.word?.isSome

/-- Reads the attributes of an import up to the closing brace; `n` bounds their number. -/
def readAttributes : Nat → Cursor → Option Cursor
  | 0, _ => none
  | n + 1, c =>
    if c.isAt .closeBrace then some c.next
    else if c.token.isAttributeName then
      match c.next.take? .colon with
      | none => none
      | some c =>
        match c.token with
        | .string _ =>
          if c.next.isAt .comma then readAttributes n c.next.next
          else c.next.take? .closeBrace
        | _ => none
    else none

/-- Reads the module that a declaration names, with its attributes, and the end of the
declaration. -/
def readModuleName (c : Cursor) : Option Cursor :=
  match c.token with
  | .string _ =>
    let c := c.next
    if c.isAtWord .with_ || (c.isAtWord .assert && !c.onNewLine) then do
      let c ← c.next.take? .openBrace
      let c ← readAttributes (c.rest.length + 2) c
      c.endStatement?
    else c.endStatement?
  | _ => none

/-- Reads the module that a declaration names, behind the word for it. -/
def readFrom (c : Cursor) : Option Cursor :=
  (c.takeWord? .from_).bind readModuleName

/-! ## Imports -/

/-- Reads an imported name, and the name under which it is declared. -/
def readImportedName (x : Context) (c : Cursor) : Option (List Char × Cursor) :=
  if c.next.isAtWord .as && c.token.linkName?.isSome then
    let c := c.next.next
    (c.token.nameIn? x).map fun text => (text, c.next)
  else (c.token.nameIn? x).map fun text => (text, c.next)

/-- Reads imported names up to the closing brace; `n` bounds their number. -/
def readImportedNames (x : Context) : Nat → Cursor → Option (List (List Char) × Cursor)
  | 0, _ => none
  | n + 1, c =>
    if c.isAt .closeBrace then some ([], c.next)
    else
      match readImportedName x c with
      | none => none
      | some (text, c) =>
        if c.isAt .comma then
          (readImportedNames x n c.next).map fun (names, c) => (text :: names, c)
        else (c.take? .closeBrace).map fun c => ([text], c)

/-- Reads a whole module under a name, or names in braces. -/
def readImportClause (x : Context) (c : Cursor) : Option (List (List Char) × Cursor) :=
  if c.isAt .star then do
    let c ← c.next.takeWord? .as
    let text ← c.token.nameIn? x
    return ([text], c.next)
  else do
    let c ← c.take? .openBrace
    readImportedNames x (c.rest.length + 2) c

/-- The cursor behind the word for the time of an import, if there is one. -/
def skipImportPhase (x : Context) (c : Cursor) : Cursor :=
  if c.isAtWord .defer && c.next.isAt .star then c.next
  else if c.isAtWord .source && (c.next.token.nameIn? x).isSome && c.next.next.isAtWord .from_ then
    c.next
  else c

/-- Reads an import behind its first word: the names that it declares. -/
def readImport (x : Context) (c : Cursor) : Option (List (List Char) × Cursor) :=
  match c.token with
  | .string _ => (readModuleName c).map fun c => ([], c)
  | _ =>
    let c := skipImportPhase x c
    match c.token.nameIn? x with
    | some text =>
      if c.next.isAt .comma then do
        let (names, c) ← readImportClause x c.next.next
        let c ← readFrom c
        return (text :: names, c)
      else (readFrom c.next).map fun c => ([text], c)
    | none => do
      let (names, c) ← readImportClause x c
      let c ← readFrom c
      return (names, c)

/-! ## Exports -/

/-- A value that is handed out: the token of its own name, and the name for others. -/
structure Exported where
  token : Token
  name : List Char
deriving Repr, DecidableEq

/-- Reads handed out names up to the closing brace; `n` bounds their number. -/
def readExportedNames : Nat → Cursor → Option (List Exported × Cursor)
  | 0, _ => none
  | n + 1, c =>
    if c.isAt .closeBrace then some ([], c.next)
    else
      let isRenamed := c.next.isAtWord .as
      let last := if isRenamed then c.next.next else c
      match c.token.linkName?, last.token.linkName? with
      | some _, some name =>
        let item : Exported := ⟨c.token, name⟩
        let c := last.next
        if c.isAt .comma then
          (readExportedNames n c.next).map fun (items, c) => (item :: items, c)
        else (c.take? .closeBrace).map fun c => ([item], c)
      | _, _ => none

/-- Reads the export of everything in a module, or of the module under a name. -/
def readExportAll (c : Cursor) : Option (List (List Char) × Cursor) :=
  if c.isAtWord .as then do
    let name ← c.next.token.linkName?
    let c ← readFrom c.next.next
    return ([name], c)
  else (readFrom c).map fun c => ([], c)

/-- Reads the export of names in braces, which are names of this script unless they come from
another one. -/
def readExportNames (x : Context) (c : Cursor) : Option (List (List Char) × Cursor) := do
  let (items, c) ← readExportedNames (c.rest.length + 2) c
  let names := items.map (·.name)
  if c.isAtWord .from_ then
    let c ← readFrom c
    return (names, c)
  else if items.all fun item => (item.token.nameIn? x).isSome then
    let c ← c.endStatement?
    return (names, c)
  else none

/-- Reads a function that may have no name, behind its word. -/
def readUnnamedFunction (read : Reader) (x : Context) (isAsync : Bool) (c : Cursor) :
    Option Cursor :=
  let isGenerator := c.isAt .star
  let c := c.skipSign .star
  let c := if (c.token.nameIn? x).isSome then c.next else c
  (read x (.function isAsync isGenerator) c).map (·.2)

/-- Reads a class that may have no name, behind its word. -/
def readUnnamedClass (read : Reader) (x : Context) (c : Cursor) : Option Cursor :=
  let c := if (c.token.nameIn? x).isSome then c.next else c
  (read x .classRest c).map (·.2)

/-- Reads the value that a script hands out without a name. -/
def readExportDefault (read : Reader) (x : Context) (c : Cursor) : Option Cursor :=
  if c.isAtWord .function then readUnnamedFunction read x false c.next
  else if c.startsAsyncFunction then readUnnamedFunction read x true c.next.next
  else do
    let (_, after) ← read x .decorators c
    if after.isAtWord .class_ then readUnnamedClass read x after.next
    else
      let (_, c) ← read x .assignment c
      c.endStatement?

/-- Whether a declaration starts here that can be handed out as it stands. -/
def startsExportedDeclaration (c : Cursor) : Bool :=
  c.isAtWord .var || c.isAtWord .let_ || c.isAtWord .const || c.isAtWord .function ||
    c.isAtWord .class_ || c.isAt .at_ || c.startsAsyncFunction

/-- Reads an export behind its first word: the names that it hands out. -/
def readExport (read : Reader) (x : Context) (c : Cursor) : Option (List (List Char) × Cursor) :=
  if c.isAt .star then readExportAll c.next
  else if c.isAt .openBrace then readExportNames x c.next
  else if c.isAtWord .default_ then
    (readExportDefault read x c.next).map fun c => (["default".toList], c)
  else if startsExportedDeclaration c then
    (read x (.statement false) c).map fun (s, c) => (s.names, c)
  else none

end TemplateImports.Script
