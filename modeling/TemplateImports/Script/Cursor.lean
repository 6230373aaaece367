import TemplateImports.Script.Token

/-!
# Reading tokens one after the other

A cursor stands at a token of a script and knows the text behind it.  Blanks and comments between
tokens are passed over; comments are kept, each as the text of the script from its start on.

Main results:

- Definition `Gap.skip` passes over blanks and comments.
- Definition `Cursor.next` goes to the next token.
- Definitions `Cursor.take?` and `Cursor.endStatement?` go past a sign and past the end of a
  statement.
-/

namespace TemplateImports.Script

/-! ## Gaps between tokens -/

/-- Where in a gap a character stands. -/
inductive GapPlace where
  | between
  | lineComment
  | blockComment
deriving Repr, DecidableEq

/-- A gap that was passed over. -/
structure Gap where
  /-- The text behind the gap. -/
  rest : List Char
  hasLineEnd : Bool
  /-- The comments before the end of the gap, each as the text from its start on; the latest one
  comes first. -/
  comments : List (List Char)
deriving Repr, DecidableEq

/-- Passes over blanks and comments, unless a comment is not closed. -/
def Gap.skip (hasLineEnd : Bool) (comments : List (List Char)) :
    GapPlace → List Char → Option Gap
  | .blockComment, [] => none
  | .blockComment, '*' :: '/' :: cs => skip hasLineEnd comments .between cs
  | .blockComment, c :: cs => skip (hasLineEnd || endsLine c) comments .blockComment cs
  | .lineComment, [] => some ⟨[], hasLineEnd, comments⟩
  | .lineComment, c :: cs =>
    if endsLine c then skip true comments .between cs
    else skip hasLineEnd comments .lineComment cs
  | .between, [] => some ⟨[], hasLineEnd, comments⟩
  | .between, '/' :: '/' :: cs => skip hasLineEnd (('/' :: '/' :: cs) :: comments) .lineComment cs
  | .between, '/' :: '*' :: cs => skip hasLineEnd (('/' :: '*' :: cs) :: comments) .blockComment cs
  | .between, c :: cs =>
    if endsLine c then skip true comments .between cs
    else if isBlank c then skip hasLineEnd comments .between cs
    else some ⟨c :: cs, hasLineEnd, comments⟩

/-! ## Cursors -/

/-- A place in a script. -/
structure Cursor where
  token : Token
  /-- Whether a line ends in front of the token. -/
  onNewLine : Bool
  /-- The text behind the token. -/
  rest : List Char
  /-- The comments in front of the token, the latest one first. -/
  comments : List (List Char)
  /-- The number of shorthand members with initial values that were read and are not yet part of a
  pattern. -/
  pending : Nat
deriving Repr, DecidableEq

namespace Cursor

/-- Goes to the first token of a text. -/
def enter (comments : List (List Char)) (pending : Nat) (cs : List Char) : Cursor :=
  match Gap.skip false comments .between cs with
  | none => ⟨.invalid, false, [], comments, pending⟩
  | some gap =>
    let (token, rest) := readToken gap.rest
    ⟨token, gap.hasLineEnd, rest, gap.comments, pending⟩

/-- Goes to the next token. -/
def next (c : Cursor) : Cursor :=
  enter c.comments c.pending c.rest

/-- Goes to the token behind a text that was read from the rest. -/
def behind (c : Cursor) (rest : List Char) : Cursor :=
  enter c.comments c.pending rest

/-- Whether the cursor stands at a sign. -/
def isAt (c : Cursor) (s : Sign) : Bool :=
  c.token == .sign s

/-- Whether the cursor stands at a keyword. -/
def isAtWord (c : Cursor) (k : Keyword) : Bool :=
  c.token == .keyword k

/-- Goes past a sign. -/
def take? (c : Cursor) (s : Sign) : Option Cursor :=
  if c.isAt s then some c.next else none

/-- Goes past a keyword. -/
def takeWord? (c : Cursor) (k : Keyword) : Option Cursor :=
  if c.isAtWord k then some c.next else none

/-- Goes past a sign if the cursor stands at it. -/
def skipSign (c : Cursor) (s : Sign) : Cursor :=
  if c.isAt s then c.next else c

/-- Goes past the end of a statement: a semicolon, or else a line end, a closing brace or the end of
the script ahead. -/
def endStatement? (c : Cursor) : Option Cursor :=
  if c.isAt .semicolon then some c.next
  else if c.onNewLine || c.isAt .closeBrace || c.token == .finish then some c
  else none

/-- Goes past a regular expression, whose slash the cursor stands at. -/
def skipRegex? (c : Cursor) : Option Cursor :=
  if c.isAt .slash then (Script.skipRegex? c.rest).map c.behind
  else if c.isAt .slashAssign then (Script.skipRegex? ('=' :: c.rest)).map c.behind
  else none

/-- Continues a template text at the brace that closes an expression in it. -/
def continueTemplate? (c : Cursor) : Option Cursor :=
  if c.isAt .closeBrace then
    (readTemplate? (c.rest.length + 1) true c.rest).map fun (piece, rest) =>
      { c with token := .template piece, rest := rest }
  else none

/-- The cursor at the start of a script.  A first line that starts with `#!` is passed over. -/
def start (cs : List Char) : Cursor :=
  match cs with
  | '\uFEFF' :: cs => first cs
  | cs => first cs
where
  /-- The cursor at the start of a script without a byte order mark. -/
  first (cs : List Char) : Cursor :=
    match cs with
    | '#' :: '!' :: cs => enter [] 0 (cs.dropWhile (!endsLine ·))
    | cs => enter [] 0 cs

end Cursor

end TemplateImports.Script
