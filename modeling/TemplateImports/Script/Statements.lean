import TemplateImports.Script.Linking

/-!
# Statements

Declarations, loops, choices and all other statements.

Main results:

- Definition `statementRule` reads a statement.
- Definition `statementsRule` reads statements up to the brace that closes them.
-/

namespace TemplateImports.Script

/-! ## Declarations -/

/-- Whether a declaration starts at the word for one, which can also be a name. -/
def startsLet (x : Context) (c : Cursor) : Bool :=
  (c.next.token.nameIn? x).isSome || c.next.isAt .openBracket || c.next.isAt .openBrace

/-- Whether a declaration of a used resource starts here. -/
def startsUsing (x : Context) (c : Cursor) : Bool :=
  c.isAtWord .using_ && !c.next.onNewLine && (c.next.token.nameIn? x).isSome

/-- Reads declared variables and the end of the statement. -/
def readDeclaration (read : Reader) (x : Context) (needsValue : Bool) (c : Cursor) :
    Option (Shape × Cursor) := do
  let (s, c) ← read x.bracketed (.declarators []) c
  if s.items.all (Shape.isComplete needsValue) then
    let c ← c.endStatement?
    return (s, c)
  else none

/-- Reads a function with a name, behind its word. -/
def readFunctionDeclaration (read : Reader) (x : Context) (isAsync : Bool) (c : Cursor) :
    Option (Shape × Cursor) := do
  let isGenerator := c.isAt .star
  let c := c.skipSign .star
  let text ← c.token.nameIn? x
  let (_, c) ← read x (.function isAsync isGenerator) c.next
  return (.name text, c)

/-- Reads a class with a name, behind its word. -/
def readClassDeclaration (read : Reader) (x : Context) (c : Cursor) : Option (Shape × Cursor) := do
  let text ← c.token.nameIn? x
  let (_, c) ← read x .classRest c.next
  return (.name text, c)

/-! ## Loops -/

/-- Reads what a loop repeats. -/
def readBody (read : Reader) (x : Context) (c : Cursor) : Option (Shape × Cursor) :=
  (read x (.statement true) c).map fun (_, c) => (.value, c)

/-- Reads an expression that may be missing, up to a sign. -/
def readUpTo (read : Reader) (x : Context) (s : Sign) (c : Cursor) : Option Cursor :=
  if c.isAt s then some c.next
  else do
    let (_, c) ← read x.bracketed .expression c
    c.take? s

/-- Reads the rest of a counting loop, behind its first part. -/
def readCounting (read : Reader) (x : Context) (c : Cursor) : Option (Shape × Cursor) := do
  let c ← c.take? .semicolon
  let c ← readUpTo read x .semicolon c
  let c ← readUpTo read x .closeParen c
  readBody read x c

/-- Reads the rest of a loop over the members or the items of a value, behind its variable. -/
def readRanging (read : Reader) (x : Context) (overItems : Bool) (c : Cursor) :
    Option (Shape × Cursor) := do
  let (_, c) ← read x.bracketed (if overItems then .assignment else .expression) c
  let c ← c.take? .closeParen
  readBody read x c

/-- Reads the rest of a loop whose variables are declared in it, behind the word that declares
them. -/
def readForDeclaration (read : Reader) (x : Context) (isAwaited needsValue : Bool) (c : Cursor) :
    Option (Shape × Cursor) := do
  let (s, c) ← read { x with allowsIn := false } (.declarators []) c
  if c.isAtWord .of then readRanging read x true c.next
  else if isAwaited then none
  else if c.isAtWord .in_ then readRanging read x false c.next
  else if s.items.all (Shape.isComplete needsValue) then readCounting read x c
  else none

/-- Reads the rest of a loop that starts with an expression. -/
def readForExpression (read : Reader) (x : Context) (isAwaited : Bool) (c : Cursor) :
    Option (Shape × Cursor) := do
  let (s, after) ← read { x with allowsIn := false } .expression c
  if after.isAtWord .of then
    if !s.isTarget || c.isAtWord .let_ || (c.isAtWord .async && c.next.isAtWord .of && !isAwaited)
    then none
    else readRanging read x true (after.settle s.shorthands).next
  else if isAwaited then none
  else if after.isAtWord .in_ then
    if s.isTarget then readRanging read x false (after.settle s.shorthands).next else none
  else readCounting read x after

/-- Reads a loop with a head, behind its word. -/
def readFor (read : Reader) (x : Context) (c : Cursor) : Option (Shape × Cursor) := do
  let isAwaited := c.isAtWord .await
  let c ← if isAwaited then (if x.awaits then some c.next else none) else some c
  let c ← c.take? .openParen
  if c.isAt .semicolon && !isAwaited then readCounting read x c
  else if c.isAtWord .var || (c.isAtWord .let_ && startsLet x c) then
    readForDeclaration read x isAwaited false c.next
  else if c.isAtWord .const || (startsUsing x c && !c.next.isAtWord .of) then
    readForDeclaration read x isAwaited true c.next
  else readForExpression read x isAwaited c

/-- Reads a loop that is tested at its end, behind its word. -/
def readDo (read : Reader) (x : Context) (c : Cursor) : Option (Shape × Cursor) := do
  let (_, c) ← read x (.statement true) c
  let c ← c.takeWord? .while_
  let c ← readCondition read x c
  return (.value, c.skipSign .semicolon)

/-! ## Choices -/

/-- Reads a choice, behind its word. -/
def readIf (read : Reader) (x : Context) (c : Cursor) : Option (Shape × Cursor) := do
  let c ← readCondition read x c
  let (_, c) ← read x (.statement true) c
  if c.isAtWord .else_ then readBody read x c.next else return (.value, c)

/-- Whether the cases of a choice start or end here. -/
def isAtCase (c : Cursor) : Bool :=
  c.isAtWord .case || c.isAtWord .default_ || c.isAt .closeBrace

/-- The cases of a choice among values, and their statements, up to the closing brace. -/
def casesRule : Rule := fun read x c =>
  if c.isAt .closeBrace then some (.value, c.next)
  else if c.isAtWord .case then do
    let (_, c) ← read x.bracketed .expression c.next
    let c ← c.take? .colon
    read x .cases c
  else if c.isAtWord .default_ then do
    let c ← c.next.take? .colon
    read x .cases c
  else do
    let (_, c) ← read x (.statement false) c
    read x .cases c

/-- Reads a choice among values, behind its word. -/
def readSwitch (read : Reader) (x : Context) (c : Cursor) : Option (Shape × Cursor) := do
  let c ← readCondition read x c
  let c ← c.take? .openBrace
  if isAtCase c then read x.bracketed .cases c else none

/-- Statements up to the closing brace. -/
def statementsRule : Rule := fun read x c =>
  if c.isAt .closeBrace then some (.value, c.next)
  else do
    let (_, c) ← read x (.statement false) c
    read x .statements c

/-! ## Other statements -/

/-- Reads an attempt, behind its word. -/
def readTry (read : Reader) (x : Context) (c : Cursor) : Option (Shape × Cursor) := do
  let c ← readBlock read x c
  if c.isAtWord .catch_ then
    let c := c.next
    let c ←
      if c.isAt .openParen then do
        let (_, c) ← read x.bracketed .binding c.next
        c.take? .closeParen
      else some c
    let c ← readBlock read x c
    if c.isAtWord .finally_ then
      (readBlock read x c.next).map fun c => (.value, c)
    else return (.value, c)
  else
    let c ← c.takeWord? .finally_
    (readBlock read x c).map fun c => (.value, c)

/-- Reads the rest of a statement that leaves a loop, behind its word. -/
def readLeave (x : Context) (c : Cursor) : Option (Shape × Cursor) :=
  let c := if !c.onNewLine && (c.token.nameIn? x).isSome then c.next else c
  c.endStatement?.map fun c => (.value, c)

/-- Reads the rest of a statement that leaves a function, behind its word. -/
def readReturn (read : Reader) (x : Context) (c : Cursor) : Option (Shape × Cursor) :=
  if !x.returns then none
  else
    match c.endStatement? with
    | some c => some (.value, c)
    | none => do
      let (_, c) ← read x.bracketed .expression c
      let c ← c.endStatement?
      return (.value, c)

/-- Reads a statement that is an expression. -/
def readExpressionStatement (read : Reader) (x : Context) (c : Cursor) :
    Option (Shape × Cursor) := do
  let (_, c) ← read x.bracketed .expression c
  let c ← c.endStatement?
  return (.value, c)

/-- Reads the rest of a statement that starts with a word which cannot be a name. -/
def readReservedStatement (read : Reader) (x : Context) (isAlone : Bool) (k : Keyword)
    (c : Cursor) : Option (Shape × Cursor) :=
  match k with
  | .var => readDeclaration read x false c.next
  | .const => if isAlone then none else readDeclaration read x true c.next
  | .function => do
    let (s, after) ← readFunctionDeclaration read x false c.next
    if isAlone && c.next.isAt .star then none else return (s, after)
  | .class_ => if isAlone then none else readClassDeclaration read x c.next
  | .if_ => readIf read x c.next
  | .for_ => readFor read x c.next
  | .while_ => do
    let c ← readCondition read x c.next
    readBody read x c
  | .do_ => readDo read x c.next
  | .continue_ => readLeave x c.next
  | .break_ => readLeave x c.next
  | .return_ => readReturn read x c.next
  | .with_ => do
    let c ← readCondition read x c.next
    readBody read x c
  | .switch => readSwitch read x c.next
  | .throw => if c.next.onNewLine then none else readExpressionStatement read x c.next
  | .try_ => readTry read x c.next
  | .debugger => c.next.endStatement?.map fun c => (.value, c)
  | .import_ =>
    if c.next.isAt .openParen || c.next.isAt .dot then readExpressionStatement read x c
    else (readImport x c.next).map fun (_, c) => (.value, c)
  | .export_ => (readExport read x c.next).map fun (_, c) => (.value, c)
  | _ => readExpressionStatement read x c

/-- Reads a statement that starts with a word. -/
def readWordStatement (read : Reader) (x : Context) (isAlone : Bool) (k : Keyword) (c : Cursor) :
    Option (Shape × Cursor) :=
  if k.isReserved then readReservedStatement read x isAlone k c
  else if k == .let_ && startsLet x c && (!isAlone || c.next.isAt .openBracket) then
    if isAlone then none else readDeclaration read x false c.next
  else if startsUsing x c then
    if isAlone then none else readDeclaration read x true c.next
  else if k == .await && x.awaits && startsUsing x c.next && !c.next.onNewLine then
    if isAlone then none else readDeclaration read x true c.next.next
  else if c.startsAsyncFunction then
    if isAlone then none else readFunctionDeclaration read x true c.next.next
  else readExpressionStatement read x c

/-- A statement. -/
def statementRule (isAlone : Bool) : Rule := fun read x c =>
  if (c.token.nameIn? x).isSome && c.next.isAt .colon then readBody read x c.next.next
  else
    match c.token with
    | .sign .openBrace => (readBlock read x c).map fun c => (.value, c)
    | .sign .semicolon => some (.value, c.next)
    | .sign .at_ => do
      let (_, c) ← read x .decorators c
      if c.isAtWord .class_ || c.isAtWord .export_ then read x (.statement isAlone) c else none
    | .keyword k => readWordStatement read x isAlone k c
    | _ => readExpressionStatement read x c

end TemplateImports.Script
