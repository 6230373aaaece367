import TemplateImports.Json.Quoted
import TemplateImports.Json.Value

/-!
# The text of data values

Writing a value without blanks, and reading a text back.  Reading is lenient about nothing but
blanks between the parts: names need quotes, a list has no comma at its end, and nothing may follow
the value.

Main results:

- Definition `Json.print` writes a value; definition `Json.parse` reads a text.
- Definition `Json.printed` is the text of a value as characters.
-/

namespace TemplateImports.Json

/-! ## Writing -/

mutual

/-- The characters of a written value. -/
def printed : Json → List Char
  | .null => "null".toList
  | .bool true => "true".toList
  | .bool false => "false".toList
  | .number text => text.toList
  | .string text => Quoted.quote text
  | .array items => '[' :: printedItems items
  | .object members => '{' :: printedMembers members
  | .broken => "null".toList

/-- The characters of written items and the bracket that closes them. -/
def printedItems : List Json → List Char
  | [] => [']']
  | [item] => printed item ++ [']']
  | item :: items => printed item ++ ',' :: printedItems items

/-- The characters of written members and the brace that closes them. -/
def printedMembers : List (String × Json) → List Char
  | [] => ['}']
  | [(name, value)] => Quoted.quote name ++ ':' :: printed value ++ ['}']
  | (name, value) :: members =>
    Quoted.quote name ++ ':' :: printed value ++ ',' :: printedMembers members

end

/-- The text of a value. -/
def print (v : Json) : String :=
  String.ofList (printed v)

/-! ## Reading -/

/-- The blanks that may stand between the parts of a value. -/
def isGap (c : Char) : Bool :=
  c == ' ' || c == '\n' || c == '\t' || c == '\r'

/-- The text after its leading blanks. -/
def skipGap (cs : List Char) : List Char :=
  cs.dropWhile isGap

/-- Reads digits, of which there is at least one, with the rest. -/
def readDigits? (cs : List Char) : Option (List Char × List Char) :=
  match cs.takeWhile Char.isDigit with
  | [] => none
  | digits => some (digits, cs.dropWhile Char.isDigit)

/-- Reads the whole part of a number: it does not start with a zero unless it is zero. -/
def readWhole? (cs : List Char) : Option (List Char × List Char) :=
  match readDigits? cs with
  | none => none
  | some (digits, rest) =>
    if digits.head? == some '0' && digits.length != 1 then none else some (digits, rest)

/-- Reads the fraction of a number, if there is one. -/
def readFraction? (cs : List Char) : Option (List Char × List Char) :=
  match cs with
  | '.' :: cs => (readDigits? cs).map fun (digits, rest) => ('.' :: digits, rest)
  | _ => some ([], cs)

/-- Reads the sign of an exponent, if there is one. -/
def readSign (cs : List Char) : List Char × List Char :=
  match cs with
  | '+' :: cs => (['+'], cs)
  | '-' :: cs => (['-'], cs)
  | _ => ([], cs)

/-- Reads the exponent of a number, if there is one. -/
def readExponent? (cs : List Char) : Option (List Char × List Char) :=
  match cs with
  | [] => some ([], [])
  | c :: rest =>
    if isExponentMark c then
      let (sign, rest) := readSign rest
      (readDigits? rest).map fun (digits, rest) => (c :: sign ++ digits, rest)
    else some ([], c :: rest)

/-- Reads a number without its sign. -/
def readUnsigned? (cs : List Char) : Option (List Char × List Char) := do
  let (whole, cs) ← readWhole? cs
  let (fraction, cs) ← readFraction? cs
  let (exponent, cs) ← readExponent? cs
  return (whole ++ fraction ++ exponent, cs)

/-- Reads a number. -/
def readNumber? (cs : List Char) : Option (Json × List Char) :=
  match cs with
  | '-' :: cs =>
    (readUnsigned? cs).map fun (text, rest) => (.number (String.ofList ('-' :: text)), rest)
  | _ => (readUnsigned? cs).map fun (text, rest) => (.number (String.ofList text), rest)

/-- Reads a word that stands for a value. -/
def readWord? (word : String) (value : Json) (cs : List Char) : Option (Json × List Char) :=
  if word.toList.isPrefixOf cs then some (value, cs.drop word.length) else none

/-- Reads a text after its opening quote; one whose escapes stand for no characters is broken. -/
def readText? (cs : List Char) : Option (Json × List Char) :=
  match Quoted.decode? cs with
  | some (text, rest) => some (.string (String.ofList text), rest)
  | none => (Quoted.skip? (cs.length + 1) cs).map fun rest => (.broken, rest)

/-- An object with one more member in front; a broken name or rest makes it broken. -/
def addMember (name value rest : Json) : Json :=
  match name, rest with
  | .string name, .object members => .object ((name, value) :: members)
  | _, _ => .broken

mutual

/-- Reads a value that starts right here; `n` bounds the number of values inside each other and
behind each other. -/
def readValue? : Nat → List Char → Option (Json × List Char)
  | 0, _ => none
  | n + 1, cs =>
    match cs with
    | [] => none
    | c :: rest =>
      match c with
      | '"' => readText? rest
      | '[' =>
        match skipGap rest with
        | ']' :: rest => some (.array [], rest)
        | rest => (readItems? n rest).map fun (items, rest) => (.array items, rest)
      | '{' =>
        match skipGap rest with
        | '}' :: rest => some (.object [], rest)
        | rest => readMembers? n rest
      | 'n' => readWord? "null" .null cs
      | 't' => readWord? "true" (.bool true) cs
      | 'f' => readWord? "false" (.bool false) cs
      | _ => readNumber? cs

/-- Reads items up to the bracket that closes them. -/
def readItems? : Nat → List Char → Option (List Json × List Char)
  | 0, _ => none
  | n + 1, cs =>
    match readValue? n cs with
    | none => none
    | some (item, rest) =>
      match skipGap rest with
      | ']' :: rest => some ([item], rest)
      | ',' :: rest => (readItems? n (skipGap rest)).map fun (items, rest) => (item :: items, rest)
      | _ => none

/-- Reads the members of an object up to the brace that closes it. -/
def readMembers? : Nat → List Char → Option (Json × List Char)
  | 0, _ => none
  | n + 1, cs =>
    match cs with
    | '"' :: rest =>
      match readText? rest with
      | none => none
      | some (name, rest) =>
        match skipGap rest with
        | ':' :: rest =>
          match readValue? n (skipGap rest) with
          | none => none
          | some (value, rest) =>
            match skipGap rest with
            | '}' :: rest => some (addMember name value (.object []), rest)
            | ',' :: rest =>
              (readMembers? n (skipGap rest)).map fun (members, rest) =>
                (addMember name value members, rest)
            | _ => none
        | _ => none
    | _ => none

end

/-- The value that a text stands for. -/
def parse (text : String) : Option Json :=
  let cs := skipGap text.toList
  match readValue? (2 * cs.length + 2) cs with
  | some (value, rest) => if (skipGap rest).isEmpty then some value else none
  | none => none

end TemplateImports.Json
