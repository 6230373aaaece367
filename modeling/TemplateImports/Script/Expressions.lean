import TemplateImports.Script.Grammar

/-!
# Expressions

Operators, assignments, arrow functions, members and calls, and the phrases in brackets.  Braces with
members, functions and classes are read elsewhere.

Main results:

- Definition `assignmentRule` reads assignments and arrow functions.
- Definition `binaryRestRule` reads operators by their strength.
- Definition `primaryRule` reads the innermost expressions.
-/

namespace TemplateImports.Script

/-! ## Operators -/

/-- The strength of an operator between two operands. -/
def Token.strength? (x : Context) : Token → Option Nat
  | .sign (.operator n) => some n
  | .sign .plusMinus => some 10
  | .sign .star => some 11
  | .sign .slash => some 11
  | .keyword .in_ => if x.allowsIn then some 8 else none
  | .keyword .instanceof => some 8
  | _ => none

/-- The strength of the operator that replaces missing values. -/
def coalescing : Nat :=
  1

/-- The strength of powers, which bind to the right. -/
def power : Nat :=
  12

/-- What two operands become.  The operator for missing values stands beside no logical operator
without parentheses. -/
def combine? (strength : Nat) (left right : Shape) : Option Shape :=
  if strength == coalescing then
    match left, right with
    | .conjunction, _ => none
    | _, .conjunction => none
    | _, _ => some .coalescence
  else if strength ≤ 3 then
    match left, right with
    | .coalescence, _ => none
    | _, .coalescence => none
    | _, _ => some .conjunction
  else some .value

/-- Operands with operators between them. -/
def binaryRule (least : Nat) : Rule := fun read x c => do
  let (s, c) ← read x .unary c
  read x (.binaryRest least s) c

/-- The operators behind a left operand, as long as they are strong enough. -/
def binaryRestRule (least : Nat) (left : Shape) : Rule := fun read x c =>
  match c.token.strength? x with
  | none => some (left, c)
  | some n =>
    if n < least then some (left, c)
    else do
      let (right, c) ← read x (.binary (if n == power then n else n + 1)) c.next
      let s ← combine? n left right
      read x (.binaryRest least s) c

/-- Reads an operand behind a sign or word in front of it.  A power cannot follow it. -/
def readOperand (read : Reader) (x : Context) (c : Cursor) : Option (Shape × Cursor) := do
  let (_, c) ← read x .unary c
  if c.isAt (.operator power) then none else return (.value, c)

/-- Reads a value with members and calls, and the sign that changes it if there is one. -/
def readChanged (read : Reader) (x : Context) (c : Cursor) : Option (Shape × Cursor) := do
  let (s, c) ← read x .leftSide c
  if c.isAt .increment && !c.onNewLine then
    if s.isSimple then return (.value, c.next) else none
  else return (s, c)

/-- An operand. -/
def unaryRule : Rule := fun read x c =>
  match c.token with
  | .sign .plusMinus => readOperand read x c.next
  | .sign .negation => readOperand read x c.next
  | .sign .increment => do
    let (s, c) ← read x .unary c.next
    if s.isSimple then return (.value, c) else none
  | .privateName _ => if x.allowsIn && c.next.isAtWord .in_ then some (.value, c.next) else none
  | .keyword .delete => readOperand read x c.next
  | .keyword .void => readOperand read x c.next
  | .keyword .typeof => readOperand read x c.next
  | .keyword .await =>
    if x.awaits then readOperand read x c.next
    else if c.next.token.isWordOrLiteral && !c.next.onNewLine then none
    else readChanged read x c
  | _ => readChanged read x c

/-! ## Assignments and arrow functions -/

/-- Reads the body of an arrow function with the given parameters, at its arrow. -/
def readArrow (read : Reader) (x : Context) (isAsync : Bool) (items : List Shape) (c : Cursor) :
    Option (Shape × Cursor) :=
  if c.isAt .arrow && !c.onNewLine && Shape.areBindings items then
    read x (.arrowBody isAsync) (c.settle (Shape.shorthandsOf items)).next
  else none

/-- Reads an asynchronous arrow function, whose first word the cursor stands at. -/
def readAsyncArrow (read : Reader) (x : Context) (c : Cursor) : Option (Shape × Cursor) :=
  if !c.isAtWord .async || c.next.onNewLine then none
  else
    match c.next.token.nameIn? x with
    | some text => readArrow read x true [.name text] c.next.next
    | none => do
      let after ← c.next.take? .openParen
      let (s, after) ← read x.bracketed (.arguments []) after
      readArrow read x true s.items after

/-- Reads the rest of an assignment, whose left side was read. -/
def readAssigned (read : Reader) (x : Context) (s : Shape) (c : Cursor) :
    Option (Shape × Cursor) :=
  match c.token with
  | .sign .assign =>
    if s.isTarget then do
      let (_, c) ← read x .assignment (c.settle s.shorthands).next
      return (.assigned s, c)
    else none
  | .sign .combine =>
    if s.isSimple then (read x .assignment c.next).map fun (_, c) => (.value, c) else none
  | .sign .slashAssign =>
    if s.isSimple then (read x .assignment c.next).map fun (_, c) => (.value, c) else none
  | .sign .question => do
    let (_, c) ← read x.bracketed .assignment c.next
    let c ← c.take? .colon
    let (_, c) ← read x .assignment c
    return (.value, c)
  | _ => some (s, c)

/-- Whether nothing is handed out at a token. -/
def Token.endsYield : Token → Bool
  | .sign .closeParen => true
  | .sign .closeBracket => true
  | .sign .closeBrace => true
  | .sign .comma => true
  | .sign .colon => true
  | .sign .semicolon => true
  | .keyword .in_ => true
  | .finish => true
  | _ => false

/-- Reads a value that is handed out, behind the word for it. -/
def readYield (read : Reader) (x : Context) (c : Cursor) : Option (Shape × Cursor) :=
  if c.onNewLine then some (.value, c)
  else if c.isAt .star then (read x .assignment c.next).map fun (_, c) => (.value, c)
  else if c.token.endsYield then some (.value, c)
  else (read x .assignment c).map fun (_, c) => (.value, c)

/-- An assignment, an arrow function, or a plain expression. -/
def assignmentRule : Rule := fun read x c =>
  if c.isAtWord .yield && x.yields then readYield read x c.next
  else if c.isAtWord .yield && c.next.token.isWordOrLiteral && !c.next.onNewLine then none
  else
    match readAsyncArrow read x c with
    | some found => some found
    | none => do
      let (s, c) ← read x (.binary coalescing) c
      if c.isAt .arrow then
        match s with
        | .name _ => readArrow read x false [s] c
        | .group items => readArrow read x false items c
        | .parameters items => readArrow read x false items c
        | _ => none
      else readAssigned read x s c

/-- The body of an arrow function: statements in braces, or an expression. -/
def arrowBodyRule (isAsync : Bool) : Rule := fun read x c =>
  if c.isAt .openBrace then
    (readBlock read (Context.inFunction isAsync false) c).map fun c => (.value, c)
  else
    (read { x with awaits := isAsync, yields := false } .assignment c).map fun (_, c) => (.value, c)

/-- Expressions separated by commas. -/
def expressionRule : Rule := fun read x c => do
  let (s, c) ← read x .assignment c
  if c.isAt .comma then
    let (_, c) ← read x .expression c.next
    return (.value, c)
  else return (s, c)

/-! ## Members and calls -/

/-- What a part of a value is: a member, unless missing values were passed over before. -/
def Shape.part (base part : Shape) : Shape :=
  match base with
  | .chain => .chain
  | _ => part

/-- Reads what follows a dot that passes over a missing value. -/
def readChained (read : Reader) (x : Context) (c : Cursor) : Option Cursor :=
  match c.token with
  | .sign .openParen => (read x.bracketed (.arguments []) c.next).map (·.2)
  | .sign .openBracket => do
    let (_, c) ← read x.bracketed .expression c.next
    c.take? .closeBracket
  | .privateName _ => some c.next
  | token => token.word?.map fun _ => c.next

/-- The members of a value, and its calls if these are included. -/
def suffixRule (calls : Bool) (base : Shape) : Rule := fun read x c =>
  match c.token with
  | .sign .dot =>
    match c.next.token with
    | .privateName _ => read x (.suffix calls (base.part .member)) c.next.next
    | token =>
      match token.word? with
      | some _ => read x (.suffix calls (base.part .member)) c.next.next
      | none => none
  | .sign .openBracket => do
    let (_, c) ← read x.bracketed .expression c.next
    let c ← c.take? .closeBracket
    read x (.suffix calls (base.part .member)) c
  | .sign .openParen =>
    if calls then do
      let (_, c) ← read x.bracketed (.arguments []) c.next
      read x (.suffix calls (base.part .value)) c
    else some (base, c)
  | .sign .optionalDot =>
    if calls then do
      let c ← readChained read x c.next
      read x (.suffix calls .chain) c
    else some (base, c)
  | .template _ =>
    match base with
    | .chain => none
    | _ => do
      let (_, c) ← read x (.template true) c
      read x (.suffix calls .value) c
  | _ => some (base, c)

/-- A value with its members and calls. -/
def leftSideRule : Rule := fun read x c => do
  let (s, c) ← read x .primary c
  read x (.suffix true s) c

/-- Reads an item of a list, which may be the rest of one. -/
def readItem (read : Reader) (x : Context) (c : Cursor) : Option (Shape × Cursor) :=
  if c.isAt .spread then
    (read x .assignment c.next).map fun (s, c) => (.spread s true, c)
  else read x .assignment c

/-- The arguments of a call up to the closing parenthesis. -/
def argumentsRule (items : List Shape) : Rule := fun read x c =>
  if c.isAt .closeParen then some (.group items, c.next)
  else do
    let (s, c) ← readItem read x c
    if c.isAt .comma then read x (.arguments (items ++ [s.followed])) c.next
    else
      let c ← c.take? .closeParen
      return (.group (items ++ [s]), c)

/-- Expressions in parentheses, or the parameters of an arrow function, up to the closing
parenthesis. -/
def groupRule (items : List Shape) : Rule := fun read x c =>
  if c.isAt .closeParen then some (.parameters items, c.next)
  else if c.isAt .spread then do
    let (s, c) ← read x .binding c.next
    let c ← c.take? .closeParen
    return (.parameters (items ++ [.spread s true]), c)
  else do
    let (s, c) ← read x .assignment c
    if c.isAt .comma then read x (.group (items ++ [s])) c.next
    else
      let c ← c.take? .closeParen
      return (.group (items ++ [s]), c)

/-- The items of a list up to the closing bracket. -/
def arrayItemsRule (items : List Shape) : Rule := fun read x c =>
  if c.isAt .closeBracket then some (.array items, c.next)
  else if c.isAt .comma then read x (.arrayItems (items ++ [.hole])) c.next
  else do
    let (s, c) ← readItem read x c
    if c.isAt .comma then read x (.arrayItems (items ++ [s.followed])) c.next
    else
      let c ← c.take? .closeBracket
      return (.array (items ++ [s]), c)

/-- A template text.  Only one that is handed to a function may hold malformed escapes. -/
def templateRule (isTagged : Bool) : Rule := fun read x c =>
  match c.token with
  | .template piece =>
    if !isTagged && !piece.isValid then none
    else if piece.isLast then some (.value, c.next)
    else do
      let (_, c) ← read x.bracketed .expression c.next
      let c ← c.continueTemplate?
      read x (.template isTagged) c
  | _ => none

/-! ## Innermost expressions -/

/-- Reads the rest of an import within an expression, behind its word: one or two arguments. -/
def readImportCall (read : Reader) (x : Context) (c : Cursor) : Option (Shape × Cursor) := do
  let c ← c.take? .openParen
  let (_, c) ← read x.bracketed .assignment c
  if c.isAt .comma && !c.next.isAt .closeParen then
    let (_, c) ← read x.bracketed .assignment c.next
    let c ← (c.skipSign .comma).take? .closeParen
    return (.value, c)
  else
    let c ← (c.skipSign .comma).take? .closeParen
    return (.value, c)

/-- Reads an import within an expression, behind its word. -/
def readImportExpression (read : Reader) (x : Context) (c : Cursor) : Option (Shape × Cursor) :=
  if c.isAt .dot then
    match c.next.token with
    | .name text => if text == "meta".toList then some (.value, c.next.next) else none
    | .keyword .defer => readImportCall read x c.next.next
    | .keyword .source => readImportCall read x c.next.next
    | _ => none
  else readImportCall read x c

/-- Reads the creation of an object, behind its word. -/
def readNew (read : Reader) (x : Context) (c : Cursor) : Option (Shape × Cursor) :=
  if c.isAt .dot then
    if c.next.token == .name "target".toList then some (.value, c.next.next) else none
  else if c.isAtWord .import_ && c.next.isAt .openParen then none
  else do
    let (s, c) ← read x .primary c
    let (_, c) ← read x (.suffix false s) c
    if c.isAt .optionalDot then none
    else if c.isAt .openParen then
      let (_, c) ← read x.bracketed (.arguments []) c.next
      return (.value, c)
    else return (.value, c)

/-- Reads a function within an expression, behind its word. -/
def readFunctionValue (read : Reader) (isAsync : Bool) (c : Cursor) : Option (Shape × Cursor) :=
  let isGenerator := c.isAt .star
  let c := c.skipSign .star
  let x := Context.inFunction isAsync isGenerator
  let c := if (c.token.nameIn? x).isSome then c.next else c
  (read x (.function isAsync isGenerator) c).map fun (_, c) => (.value, c)

/-- Reads a class within an expression, behind its word. -/
def readClassValue (read : Reader) (x : Context) (c : Cursor) : Option (Shape × Cursor) :=
  let c := if (c.token.nameIn? x).isSome then c.next else c
  (read x .classRest c).map fun (_, c) => (.value, c)

/-- Reads a name. -/
def readName (x : Context) (c : Cursor) : Option (Shape × Cursor) :=
  (c.token.nameIn? x).map fun text => (.name text, c.next)

/-- Reads a word that starts an expression. -/
def readWordValue (read : Reader) (x : Context) (k : Keyword) (c : Cursor) :
    Option (Shape × Cursor) :=
  match k with
  | .this => some (.value, c.next)
  | .null => some (.value, c.next)
  | .true_ => some (.value, c.next)
  | .false_ => some (.value, c.next)
  | .function => readFunctionValue read false c.next
  | .class_ => readClassValue read x c.next
  | .new => readNew read x c.next
  | .import_ => readImportExpression read x c.next
  | .super =>
    if c.next.isAt .dot || c.next.isAt .openBracket || c.next.isAt .openParen then
      some (.value, c.next)
    else none
  | .async =>
    if c.startsAsyncFunction then readFunctionValue read true c.next.next else readName x c
  | _ => readName x c

/-- An innermost expression. -/
def primaryRule : Rule := fun read x c =>
  match c.token with
  | .number => some (.value, c.next)
  | .string _ => some (.value, c.next)
  | .template _ => read x (.template false) c
  | .keyword k => readWordValue read x k c
  | .sign .openParen => do
    let (s, c) ← read x.bracketed (.group []) c.next
    match s with
    | .parameters _ => if c.isAt .arrow then return (s, c) else none
    | _ => return (s, c)
  | .sign .openBracket => read x.bracketed (.arrayItems []) c.next
  | .sign .openBrace => read x.bracketed (.objectItems []) c.next
  | .sign .slash => c.skipRegex?.map fun c => (.value, c)
  | .sign .slashAssign => c.skipRegex?.map fun c => (.value, c)
  | .sign .at_ => do
    let (_, c) ← read x .decorators c
    let c ← c.takeWord? .class_
    readClassValue read x c
  | _ => readName x c

end TemplateImports.Script
