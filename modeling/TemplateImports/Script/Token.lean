import TemplateImports.Script.Literal

/-!
# Tokens of scripts

Words, literals and signs.  Which of them a text starts with depends on the grammar in two places
only: a slash may start a regular expression, and a closing brace may continue a template text.

Main results:

- Definition `readToken` reads the token at the start of a text.
- Definition `Sign.read?` finds the longest sign at the start of a text.
- Theorem `ofText?_eq_none` says that a word that does not start in lower case is no keyword.
-/

namespace TemplateImports.Script

/-! ## Keywords -/

/-- The words with a meaning of their own. -/
inductive Keyword where
  | accessor | as | assert | async | await | break_ | case | catch_ | class_ | const | continue_
  | debugger | default_ | defer | delete | do_ | else_ | enum | export_ | extends_ | false_
  | finally_ | for_ | from_ | function | get | if_ | import_ | in_ | instanceof | let_ | new | null
  | of | return_ | set | source | static | super | switch | this | throw | true_ | try_ | typeof
  | using_ | var | void | while_ | with_ | yield
deriving Repr, DecidableEq

namespace Keyword

/-- The keywords with their texts. -/
def table : List (String × Keyword) :=
  [("accessor", .accessor), ("as", .as), ("assert", .assert), ("async", .async), ("await", .await),
   ("break", .break_), ("case", .case), ("catch", .catch_), ("class", .class_), ("const", .const),
   ("continue", .continue_), ("debugger", .debugger), ("default", .default_), ("defer", .defer),
   ("delete", .delete), ("do", .do_), ("else", .else_), ("enum", .enum), ("export", .export_),
   ("extends", .extends_), ("false", .false_), ("finally", .finally_), ("for", .for_),
   ("from", .from_), ("function", .function), ("get", .get), ("if", .if_), ("import", .import_),
   ("in", .in_), ("instanceof", .instanceof), ("let", .let_), ("new", .new), ("null", .null),
   ("of", .of), ("return", .return_), ("set", .set), ("source", .source), ("static", .static),
   ("super", .super), ("switch", .switch), ("this", .this), ("throw", .throw), ("true", .true_),
   ("try", .try_), ("typeof", .typeof), ("using", .using_), ("var", .var), ("void", .void),
   ("while", .while_), ("with", .with_), ("yield", .yield)]

/-- The keyword with a text. -/
def ofText? (text : List Char) : Option Keyword :=
  (table.find? fun entry => entry.1.toList == text).map (·.2)

/-- The keywords that cannot be used as names. -/
def reserved : List Keyword :=
  [.break_, .case, .catch_, .class_, .const, .continue_, .debugger, .default_, .delete, .do_,
   .else_, .enum, .export_, .extends_, .false_, .finally_, .for_, .function, .if_, .import_, .in_,
   .instanceof, .new, .null, .return_, .super, .switch, .this, .throw, .true_, .try_, .typeof, .var,
   .void, .while_, .with_]

/-- Whether a keyword cannot be used as a name. -/
def isReserved (k : Keyword) : Bool :=
  reserved.contains k

/-- A word that does not start in lower case is no keyword. -/
theorem ofText?_eq_none {text : List Char} (h : (text.head?.map Char.isLower).getD false = false) :
    ofText? text = none := by
  have hl : ∀ entry ∈ table, (entry.1.toList.head?.map Char.isLower).getD false = true := by
    decide
  simp only [ofText?, Option.map_eq_none_iff, List.find?_eq_none, beq_iff_eq]
  rintro entry he rfl
  simp [hl entry he] at h

end Keyword

/-! ## Signs -/

/-- The signs, by what they do. -/
inductive Sign where
  | openBrace | closeBrace | openParen | closeParen | openBracket | closeBracket
  | dot | spread | semicolon | comma | colon | question | at_ | arrow
  /-- The dot that passes over a missing value. -/
  | optionalDot
  | assign
  /-- An assignment that combines the old value with a new one. -/
  | combine
  | increment
  /-- The signs that stand in front of one operand only. -/
  | negation
  | plusMinus
  | star
  | slash
  /-- A slash with an equal sign, which may start a regular expression. -/
  | slashAssign
  /-- Any other sign between two operands, with its binding strength. -/
  | operator (strength : Nat)
deriving Repr, DecidableEq

namespace Sign

/-- The signs with their texts; no text stands behind a part of itself. -/
def table : List (List Char × Sign) :=
  [(['>', '>', '>', '='], combine), (['.', '.', '.'], spread), (['=', '=', '='], operator 7),
   (['!', '=', '='], operator 7), (['*', '*', '='], combine), (['<', '<', '='], combine),
   (['>', '>', '='], combine), (['>', '>', '>'], operator 9), (['&', '&', '='], combine),
   (['|', '|', '='], combine), (['?', '?', '='], combine), (['=', '>'], arrow),
   (['=', '='], operator 7), (['!', '='], operator 7), (['<', '='], operator 8),
   (['>', '='], operator 8), (['<', '<'], operator 9), (['>', '>'], operator 9),
   (['&', '&'], operator 3), (['|', '|'], operator 2), (['?', '?'], operator 1),
   (['*', '*'], operator 12), (['+', '+'], increment), (['-', '-'], increment),
   (['+', '='], combine), (['-', '='], combine), (['*', '='], combine), (['%', '='], combine),
   (['&', '='], combine), (['|', '='], combine), (['^', '='], combine), (['/', '='], slashAssign),
   (['?', '.'], optionalDot), (['\x7b'], openBrace), (['\x7d'], closeBrace), (['('], openParen),
   ([')'], closeParen), (['['], openBracket), ([']'], closeBracket), (['.'], dot),
   ([';'], semicolon), ([','], comma), ([':'], colon), (['?'], question), (['@'], at_),
   (['='], assign), (['!'], negation), (['~'], negation), (['+'], plusMinus), (['-'], plusMinus),
   (['*'], star), (['/'], slash), (['%'], operator 11), (['<'], operator 8), (['>'], operator 8),
   (['&'], operator 6), (['|'], operator 4), (['^'], operator 5)]

/-- Whether the text starts with a question mark and a number with a leading dot. -/
def isChoiceOfFraction (cs : List Char) : Bool :=
  ['?', '.'].isPrefixOf cs && ((cs.drop 2).head?.map Char.isDigit).getD false

/-- The longest sign at the start of a text, with the text behind it. -/
def read? (cs : List Char) : Option (Sign × List Char) :=
  if isChoiceOfFraction cs then some (question, cs.drop 1)
  else (table.find? fun entry => entry.1.isPrefixOf cs).map fun entry =>
    (entry.2, cs.drop entry.1.length)

end Sign

/-! ## Tokens -/

/-- A token. -/
inductive Token where
  /-- A word that is no keyword. -/
  | name (text : List Char)
  | keyword (k : Keyword)
  /-- A word that is written with escapes, and so is no keyword whatever it spells. -/
  | escapedName (text : List Char)
  | privateName (text : List Char)
  | number
  /-- A quoted text: what it stands for, unless half of a pair of code units stands alone. -/
  | string (text : Option (List Char))
  | template (piece : TemplatePiece)
  | sign (s : Sign)
  | finish
  /-- A text that no token starts with. -/
  | invalid
deriving Repr, DecidableEq

/-- The token of a word. -/
def Token.ofWord (text : List Char) : Token :=
  match Keyword.ofText? text with
  | some k => .keyword k
  | none => .name text

/-- Reads a word with escapes; `n` bounds its length. -/
def readEscapedName? : Nat → Bool → List Char → Option (List Char × List Char)
  | 0, _, _ => none
  | _ + 1, _, [] => some ([], [])
  | n + 1, isFirst, c :: cs =>
    let fits := fun d : Char => if isFirst then startsName d else continuesName d
    if c == '\\' then
      match cs with
      | 'u' :: cs =>
        match readCodePoint? cs with
        | some (code, rest) =>
          if code.isValidChar && fits (Char.ofNat code) then
            (readEscapedName? n false rest).map fun (text, rest) => (Char.ofNat code :: text, rest)
          else none
        | none => none
      | _ => none
    else if fits c then (readEscapedName? n false cs).map fun (text, rest) => (c :: text, rest)
    else if isFirst then none
    else some ([], c :: cs)

/-- Reads a word: its characters, and whether it is written with escapes. -/
def readWord? (cs : List Char) : Option (List Char × Bool × List Char) :=
  if (cs.head?.map startsName).getD false then
    match cs.dropWhile continuesName with
    | '\\' :: _ =>
      (readEscapedName? (cs.length + 1) true cs).map fun (text, rest) => (text, true, rest)
    | rest => some (cs.takeWhile continuesName, false, rest)
  else if cs.head? == some '\\' then
    (readEscapedName? (cs.length + 1) true cs).map fun (text, rest) => (text, true, rest)
  else none

/-- A token with the text behind it, or no token. -/
def orInvalid (read : Option (Token × List Char)) : Token × List Char :=
  read.getD (.invalid, [])

/-- Reads the token at the start of a text.  A slash is taken for a sign, and a closing brace too. -/
def readToken (cs : List Char) : Token × List Char :=
  match cs with
  | [] => (.finish, [])
  | c :: rest =>
    if startsName c || c == '\\' then
      orInvalid <| (readWord? cs).map fun (text, isEscaped, rest) =>
        (if isEscaped then .escapedName text else .ofWord text, rest)
    else if c == '#' then
      orInvalid <| (readWord? rest).map fun (text, _, rest) => (.privateName text, rest)
    else if c.isDigit || (c == '.' && (rest.head?.map Char.isDigit).getD false) then
      orInvalid <| (skipNumber? cs).map fun rest => (.number, rest)
    else if c == '"' || c == '\x27' then
      orInvalid <| (readString? c (rest.length + 1) rest).map fun (units, rest) =>
        (.string (Text.ofUnits? units), rest)
    else if c == '\x60' then
      orInvalid <| (readTemplate? (rest.length + 1) true rest).map fun (piece, rest) =>
        (.template piece, rest)
    else orInvalid <| (Sign.read? cs).map fun (s, rest) => (.sign s, rest)

end TemplateImports.Script
