import TemplateImports.Script.Identifier
import TemplateImports.Text.CodeUnit

/-!
# Literals of scripts

Readers for numbers, quoted texts, template texts and regular expressions.  Each returns the text
behind the literal.  Of a quoted text the code units are kept that it stands for; of all others only
their extent matters.

Main results:

- Definition `readString?` reads a quoted text.
- Definition `readTemplate?` reads a piece of a template text.
- Theorem `readString?_of_plain` reads a text without escapes.
-/

namespace TemplateImports.Script

open Text (hexValue?)

/-! ## Escapes -/

/-- The number that hexadecimal digits denote. -/
def hexNumber? (digits : List Char) : Option Nat :=
  digits.foldl (fun n c => do return (← n) * 16 + (← hexValue? c)) (some 0)

/-- Reads a fixed count of hexadecimal digits. -/
def readHex? (count : Nat) (cs : List Char) : Option (Nat × List Char) :=
  if cs.length < count then none
  else (hexNumber? (cs.take count)).map fun n => (n, cs.drop count)

/-- Reads the code point of an escape, behind its letter: four digits, or any number of them in
braces. -/
def readCodePoint? (cs : List Char) : Option (Nat × List Char) :=
  match cs with
  | '\x7b' :: cs =>
    match cs.takeWhile (· != '\x7d'), cs.dropWhile (· != '\x7d') with
    | digit :: digits, _ :: rest =>
      match hexNumber? (digit :: digits) with
      | some n => if n ≤ 0x10FFFF then some (n, rest) else none
      | none => none
    | _, _ => none
  | cs => readHex? 4 cs

/-- Whether a character is an octal digit. -/
def isOctalDigit (c : Char) : Bool :=
  '0' ≤ c && c ≤ '7'

/-- An escape, with the text behind it. -/
structure Escape where
  /-- The code unit that it stands for, if it stands for one. -/
  unit : Option Nat
  /-- Whether it is one of the old octal escapes. -/
  isOctal : Bool
  rest : List Char
deriving Repr, DecidableEq

/-- The escape of up to three octal digits, of which the first one is at the start of a text. -/
def octalEscape (first : Char) (cs : List Char) : Escape :=
  let digits := ((first :: cs).take (if first ≤ '3' then 3 else 2)).takeWhile isOctalDigit
  ⟨some (digits.foldl (fun n c => n * 8 + (c.toNat - 48)) 0), first != '0' || (cs.head?.map Char.isDigit).getD false,
    (first :: cs).drop digits.length⟩

/-- The character that an escape of one letter stands for. -/
def letterEscape (c : Char) : Char :=
  match c with
  | 'b' => '\x08'
  | 't' => '\x09'
  | 'n' => '\x0a'
  | 'v' => '\x0b'
  | 'f' => '\x0c'
  | 'r' => '\x0d'
  | c => c

/-- Reads an escape, whose backslash was read; there is none if it is malformed. -/
def readEscape? (cs : List Char) : Option Escape :=
  match cs with
  | [] => none
  | 'x' :: cs => (readHex? 2 cs).map fun (n, rest) => ⟨some n, false, rest⟩
  | 'u' :: cs => (readCodePoint? cs).map fun (n, rest) => ⟨some n, false, rest⟩
  | '\r' :: '\n' :: cs => some ⟨none, false, cs⟩
  | c :: cs =>
    if endsLine c then some ⟨none, false, cs⟩
    else if isOctalDigit c then some (octalEscape c cs)
    else some ⟨some (letterEscape c).toNat, c.isDigit, cs⟩

/-! ## Quoted texts -/

/-- Reads a quoted text behind its opening quote: the code units that it stands for, and the text
behind the closing quote.  `n` bounds its length. -/
def readString? (quote : Char) : Nat → List Char → Option (List Nat × List Char)
  | 0, _ => none
  | _ + 1, [] => none
  | n + 1, c :: cs =>
    if c == quote then some ([], cs)
    else if c == '\\' then
      match readEscape? cs with
      | none => none
      | some e =>
        (readString? quote n e.rest).map fun (units, rest) => (e.unit.toList ++ units, rest)
    else if c == '\n' || c == '\r' then none
    else (readString? quote n cs).map fun (units, rest) => (c.toNat :: units, rest)

/-- A text without escapes, line ends and the quote itself is read as it stands. -/
theorem readString?_of_plain {quote : Char} {text : List Char} {n : Nat} (rest : List Char)
    (h : ∀ c ∈ text, c ≠ quote ∧ c ≠ '\\' ∧ c ≠ '\n' ∧ c ≠ '\r') (hn : text.length < n) :
    readString? quote n (text ++ quote :: rest) = some (text.map Char.toNat, rest) := by
  induction text generalizing n with
  | nil =>
    cases n with
    | zero => simp at hn
    | succ n => simp [readString?]
  | cons c cs ih =>
    cases n with
    | zero => simp at hn
    | succ n =>
      have hc := h c List.mem_cons_self
      have := ih (fun d hd => h d (List.mem_cons_of_mem _ hd)) (n := n) (by simpa using hn)
      simp [readString?, hc, this]

/-! ## Template texts -/

/-- A piece of a template text. -/
structure TemplatePiece where
  /-- Whether the template ends with this piece. -/
  isLast : Bool
  /-- Whether all its escapes are well-formed. -/
  isValid : Bool
deriving Repr, DecidableEq

/-- Reads a piece of a template text, up to its end or to the opening of an expression.  `n` bounds
its length. -/
def readTemplate? : Nat → Bool → List Char → Option (TemplatePiece × List Char)
  | 0, _, _ => none
  | _ + 1, _, [] => none
  | n + 1, isValid, c :: cs =>
    if c == '\x60' then some (⟨true, isValid⟩, cs)
    else if c == '$' && cs.head? == some '\x7b' then some (⟨false, isValid⟩, cs.drop 1)
    else if c == '\\' then
      match readEscape? cs with
      | some e => readTemplate? n (isValid && !e.isOctal) e.rest
      | none => readTemplate? n false cs
    else readTemplate? n isValid cs

/-! ## Regular expressions -/

/-- The text behind the body of a regular expression.  A slash inside brackets does not end it. -/
def skipRegexBody? (inBrackets isEscaped : Bool) : List Char → Option (List Char)
  | [] => none
  | c :: cs =>
    if endsLine c then none
    else if isEscaped then skipRegexBody? inBrackets false cs
    else if c == '\\' then skipRegexBody? inBrackets true cs
    else if c == '[' then skipRegexBody? true false cs
    else if c == ']' then skipRegexBody? false false cs
    else if c == '/' && !inBrackets then some cs
    else skipRegexBody? inBrackets false cs

/-- The flags of a regular expression. -/
def regexFlags : List Char :=
  "dgimsuvy".toList

/-- Whether a character is read as a flag, known or not. -/
def isFlagChar (c : Char) : Bool :=
  c.isAlphanum || c == '$' || c == '_'

/-- The text behind a regular expression whose opening slash was read.  Its flags must be known, and
none may occur twice. -/
def skipRegex? (cs : List Char) : Option (List Char) :=
  match skipRegexBody? false false cs with
  | none => none
  | some rest =>
    let flags := rest.takeWhile isFlagChar
    if flags.all regexFlags.contains && flags.eraseDups.length == flags.length then
      some (rest.dropWhile isFlagChar)
    else none

/-! ## Numbers -/

/-- The text behind digits with single underscores between them; `hasDigit` tells whether a digit
was read last. -/
def skipDigits? (isDigit : Char → Bool) (hasDigit : Bool) : List Char → Option (List Char)
  | [] => if hasDigit then some [] else none
  | c :: cs =>
    if isDigit c then skipDigits? isDigit true cs
    else if c == '_' && hasDigit then skipDigits? isDigit false cs
    else if hasDigit then some (c :: cs)
    else none

/-- The text behind an exponent, if there is one. -/
def skipExponent? (cs : List Char) : Option (List Char) :=
  match cs with
  | [] => some []
  | c :: rest =>
    if c == 'e' || c == 'E' then
      match rest with
      | '+' :: rest => skipDigits? Char.isDigit false rest
      | '-' :: rest => skipDigits? Char.isDigit false rest
      | rest => skipDigits? Char.isDigit false rest
    else some (c :: rest)

/-- The text behind the fraction and the exponent of a number, if there are any. -/
def skipFraction? (cs : List Char) : Option (List Char) :=
  match cs with
  | '.' :: rest =>
    if (rest.head?.map Char.isDigit).getD false then
      (skipDigits? Char.isDigit false rest).bind skipExponent?
    else skipExponent? rest
  | cs => skipExponent? cs

/-- The text behind the mark of a big integer, if there is one. -/
def skipBigMark (cs : List Char) : List Char :=
  match cs with
  | 'n' :: rest => rest
  | cs => cs

/-- The text behind a number of another base, whose letter was read. -/
def skipBased? (isDigit : Char → Bool) (cs : List Char) : Option (List Char) :=
  (skipDigits? isDigit false cs).map skipBigMark

/-- The text behind a number that starts with a zero and a digit: an octal one, or a decimal one if
it has a digit that no octal number has. -/
def skipZeroDigits? (cs : List Char) : Option (List Char) :=
  let digits := cs.takeWhile Char.isDigit
  let rest := cs.dropWhile Char.isDigit
  if digits.any fun c => c == '8' || c == '9' then skipFraction? rest else some rest

/-- The text behind a number, before what may follow it is checked. -/
def skipNumeral? (cs : List Char) : Option (List Char) :=
  match cs with
  | '.' :: _ => skipFraction? cs
  | '0' :: c :: rest =>
    if c == 'x' || c == 'X' then skipBased? (fun d => (hexValue? d).isSome) rest
    else if c == 'o' || c == 'O' then skipBased? isOctalDigit rest
    else if c == 'b' || c == 'B' then skipBased? (fun d => d == '0' || d == '1') rest
    else if c == 'n' then some rest
    else if c.isDigit then skipZeroDigits? (c :: rest)
    else skipFraction? (c :: rest)
  | cs =>
    match skipDigits? Char.isDigit false cs with
    | none => none
    | some ('n' :: rest) => some rest
    | some rest => skipFraction? rest

/-- The text behind a number.  No name and no digit may follow it directly. -/
def skipNumber? (cs : List Char) : Option (List Char) :=
  match skipNumeral? cs with
  | none => none
  | some [] => some []
  | some (c :: rest) => if startsName c || c.isDigit || c == '\\' then none else some (c :: rest)

end TemplateImports.Script
