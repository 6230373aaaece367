import TemplateImports.Pattern.Expr

/-!
# Reading patterns

The written form of a pattern.  Groups, classes in brackets with their set operations, flags,
counted repetitions and escapes are read; references to groups and conditions on the text around a
match are refused, as are names that stand for nothing and bounds that cross.  Flags are resolved
while reading, so that an expression carries none.

Main results:

- Definition `read?` reads a pattern; its groups are numbered in the order of their parentheses.
- Definition `Escape` lists what a backslash can introduce.
-/

namespace TemplateImports.Pattern.Reader

open Text

/-! ## Flags -/

/-- The flags that are in force. -/
structure Flags where
  caseless : Bool := false
  multiLine : Bool := false
  dotAll : Bool := false
  lazy : Bool := false
  wide : Bool := true
  crlf : Bool := false
  spaced : Bool := false
deriving Repr, DecidableEq

/-- Sets the flag that a letter names. -/
def Flags.set? (f : Flags) (letter : Char) (value : Bool) : Option Flags :=
  match letter with
  | 'i' => some { f with caseless := value }
  | 'm' => some { f with multiLine := value }
  | 's' => some { f with dotAll := value }
  | 'U' => some { f with lazy := value }
  | 'u' => some { f with wide := value }
  | 'R' => some { f with crlf := value }
  | 'x' => some { f with spaced := value }
  | _ => none

/-- The groups read so far. -/
structure Groups where
  count : Nat := 0
  names : List (List Char) := []
deriving Repr, DecidableEq

/-- The text without leading blanks and comments, where these do not count. -/
def skipSpace (f : Flags) (cs : List Char) : List Char :=
  if f.spaced then skip false cs else cs
where
  /-- Skips blanks, and comments up to the end of their line. -/
  skip (inComment : Bool) : List Char → List Char
    | [] => []
    | c :: cs =>
      if inComment then skip (c != '\n') cs
      else if c == '#' then skip true cs
      else if isBlank c then skip false cs
      else c :: cs

/-! ## Sets under flags -/

/-- The set under the flag for letter case. -/
def foldSet (f : Flags) (s : CharSet) : CharSet :=
  if f.caseless then (if f.wide then .caseless s else .asciiCaseless s) else s

/-- A set that may be negated.  Sets of single bytes must stay within ASCII. -/
def finishSet? (f : Flags) (negated : Bool) (s : CharSet) : Option CharSet :=
  let s := foldSet f s
  let s := if negated then .compl s else s
  if f.wide || s.isAscii then some s else none

/-- A character that stands for itself. -/
def literal? (f : Flags) (c : Char) : Option CharSet :=
  if f.wide || c.toNat < 0x80 then some (foldSet f (.single c)) else none

/-! ## Escapes -/

/-- What a backslash introduces. -/
inductive Escape where
  | char (c : Char)
  | set (s : CharSet)
  | condition (c : Condition)
deriving Repr, DecidableEq

/-- The value of a hexadecimal digit of either letter case. -/
def digitValue? (c : Char) : Option Nat :=
  if c.isDigit then some (c.toNat - 48)
  else if 'a' ≤ c && c ≤ 'f' then some (c.toNat - 87)
  else if 'A' ≤ c && c ≤ 'F' then some (c.toNat - 55)
  else none

/-- The number that hexadecimal digits denote. -/
def hexNumber? (digits : List Char) : Option Nat :=
  digits.foldl (fun n c => do return (← n) * 16 + (← digitValue? c)) (some 0)

/-- The character with a number, if there is one. -/
def charOf? (n : Nat) : Option Char :=
  if n.isValidChar then some (Char.ofNat n) else none

/-- Reads a character by its number: in braces, or with a fixed count of digits. -/
def readHex? (count : Nat) (cs : List Char) : Option (Char × List Char) :=
  match cs with
  | '\x7b' :: cs =>
    match cs.takeWhile (· != '\x7d'), cs.dropWhile (· != '\x7d') with
    | digit :: digits, _ :: rest =>
      ((hexNumber? (digit :: digits)).bind charOf?).map fun c => (c, rest)
    | _, _ => none
  | _ =>
    if cs.length < count then none
    else ((hexNumber? (cs.take count)).bind charOf?).map fun c => (c, cs.drop count)

/-- The class that the text in the braces of a class escape names, and whether it is negated. -/
def classIn? (inside : List Char) : Option (Bool × CharSet) :=
  let isMark := fun c => c == '=' || c == ':'
  let property := inside.takeWhile (!isMark ·)
  match inside.dropWhile (!isMark ·) with
  | [] => (named? inside).map fun s => (false, s)
  | _ :: value =>
    if property.getLast? == some '!' then
      (valued? property.dropLast value).map fun s => (true, s)
    else (valued? property value).map fun s => (false, s)

/-- Reads the name of a class. -/
def readClass? (f : Flags) (negated : Bool) (cs : List Char) : Option (CharSet × List Char) :=
  if !f.wide then none
  else
    match cs with
    | [] => none
    | '\x7b' :: cs =>
      let (inverted, cs) := match cs with
        | '^' :: cs => (true, cs)
        | _ => (false, cs)
      match cs.dropWhile (· != '\x7d') with
      | [] => none
      | _ :: rest => do
        let (unequal, s) ← classIn? (cs.takeWhile (· != '\x7d'))
        let s ← finishSet? f (negated != (inverted != unequal)) s
        return (s, rest)
    | c :: rest => do
      let s ← named? [c]
      let s ← finishSet? f negated s
      return (s, rest)

/-- A set that a letter names, which may be negated. -/
def letterSet? (f : Flags) (negated : Bool) (s : CharSet) : Option CharSet :=
  if negated then (if f.wide then some (.compl s) else none) else some s

/-- Conditions that are named in braces after a border escape. -/
def borderNames (wide : Bool) : List (String × Condition) :=
  [("start", .wordStart wide), ("end", .wordEnd wide), ("start-half", .wordStartHalf wide),
   ("end-half", .wordEndHalf wide)]

/-- Reads what follows a border escape. -/
def readBorder? (f : Flags) (cs : List Char) : Option (Escape × List Char) :=
  let isNamePart := fun c : Char => c.isAlpha || c == '-'
  match skipSpace f cs with
  | '\x7b' :: inside =>
    match skipSpace f inside with
    | [] => none
    | c :: inside =>
      if isNamePart c then
        match (c :: inside).dropWhile isNamePart with
        | '\x7d' :: rest =>
          ((borderNames f.wide).lookup
            (String.ofList ((c :: inside).takeWhile isNamePart))).map
              fun b => (.condition b, rest)
        | _ => none
      else some (.condition (.wordBorder f.wide), cs)
  | _ => some (.condition (.wordBorder f.wide), cs)

/-- The character that a letter escape stands for. -/
def letterChar? (c : Char) : Option Char :=
  match c with
  | 'a' => some '\x07'
  | 'f' => some '\x0c'
  | 't' => some '\t'
  | 'n' => some '\n'
  | 'r' => some '\r'
  | 'v' => some '\x0b'
  | _ => none

/-- Reads an escape after its backslash. -/
def readEscape? (f : Flags) (cs : List Char) : Option (Escape × List Char) :=
  match cs with
  | [] => none
  | c :: rest =>
    match c with
    | 'x' => (readHex? 2 rest).map fun (c, rest) => (.char c, rest)
    | 'u' => (readHex? 4 rest).map fun (c, rest) => (.char c, rest)
    | 'U' => (readHex? 8 rest).map fun (c, rest) => (.char c, rest)
    | 'p' => (readClass? f false rest).map fun (s, rest) => (.set s, rest)
    | 'P' => (readClass? f true rest).map fun (s, rest) => (.set s, rest)
    | 'd' => some (.set (digits f.wide), rest)
    | 'D' => (letterSet? f true (digits f.wide)).map fun s => (.set s, rest)
    | 's' => some (.set (blanks f.wide), rest)
    | 'S' => (letterSet? f true (blanks f.wide)).map fun s => (.set s, rest)
    | 'w' => some (.set (words f.wide), rest)
    | 'W' => (letterSet? f true (words f.wide)).map fun s => (.set s, rest)
    | 'b' => readBorder? f rest
    | 'B' => some (.condition (.noWordBorder f.wide), rest)
    | 'A' => some (.condition .textStart, rest)
    | 'z' => some (.condition .textEnd, rest)
    | '<' => some (.condition (.wordStart f.wide), rest)
    | '>' => some (.condition (.wordEnd f.wide), rest)
    | _ =>
      match letterChar? c with
      | some c => some (.char c, rest)
      | none => if c.isAlphanum || 0x80 ≤ c.toNat then none else some (.char c, rest)

/-! ## Classes in brackets -/

/-- An operation between two classes. -/
inductive SetOperation where
  | inter
  | diff
  | symmDiff
deriving Repr, DecidableEq

/-- The class that an operation gives. -/
def SetOperation.apply (f : Flags) (op : SetOperation) (a b : CharSet) : CharSet :=
  let a := foldSet f a
  let b := foldSet f b
  match op with
  | .inter => .inter a b
  | .diff => .diff a b
  | .symmDiff => .symmDiff a b

/-- The class so far: the left side of an operation that waits, if there is one. -/
def finishOperation (f : Flags) (waiting : Option (CharSet × SetOperation)) (s : CharSet) :
    CharSet :=
  match waiting with
  | some (left, op) => op.apply f left s
  | none => s

/-- Reads a class of ASCII such as `[:alpha:]` after its first bracket. -/
def readBracketName? (f : Flags) (cs : List Char) : Option (CharSet × List Char) :=
  match cs with
  | ':' :: cs =>
    let (negated, cs) := match cs with
      | '^' :: cs => (true, cs)
      | _ => (false, cs)
    match cs.dropWhile (· != ':') with
    | ':' :: ']' :: rest => do
      let list ← bracketNames.lookup (String.ofList (cs.takeWhile (· != ':')))
      return (foldSet f (.ranges list) |> fun s => if negated then .compl s else s, rest)
    | _ => none
  | _ => none

/-- Reads an item of a class: a character, or an escape. -/
def readItem? (f : Flags) (cs : List Char) : Option (Escape × List Char) :=
  match cs with
  | [] => none
  | '\\' :: cs => readEscape? f cs
  | c :: cs => some (.char c, cs)

/-- The set of an item. -/
def itemSet? (f : Flags) (item : Escape) : Option CharSet :=
  match item with
  | .char c => if f.wide || c.toNat < 0x80 then some (.single c) else none
  | .set s => some s
  | .condition _ => none

/-- Reads an item or a range of a class. -/
def readRange? (f : Flags) (cs : List Char) : Option (CharSet × List Char) := do
  let (first, rest) ← readItem? f cs
  match skipSpace f rest with
  | [] => none
  | '-' :: after =>
    match skipSpace f after with
    | [] => none
    | ']' :: _ => return (← itemSet? f first, skipSpace f rest)
    | '-' :: _ => return (← itemSet? f first, skipSpace f rest)
    | after =>
      let (second, rest) ← readItem? f after
      match first, second with
      | .char a, .char b =>
        if a ≤ b && (f.wide || b.toNat < 0x80) then
          return (.ranges [(a.toNat, b.toNat)], rest)
        else none
      | _, _ => none
  | rest => return (← itemSet? f first, rest)

/-- Skips at most `n` dashes with the blanks behind them. -/
def skipDashes (f : Flags) : Nat → List Char → List Char
  | n + 1, '-' :: cs => skipDashes f n (skipSpace f cs)
  | _, cs => cs

/-- Reads the dashes or the bracket that stand for themselves at the start of a class. -/
def readLeading (f : Flags) (cs : List Char) : CharSet × List Char :=
  match cs with
  | '-' :: _ => (.single '-', skipDashes f cs.length cs)
  | ']' :: cs => (.single ']', skipSpace f cs)
  | cs => (.empty, cs)

mutual

/-- Reads a class after its opening bracket; `n` bounds the reading. -/
def readBracket? (f : Flags) : Nat → List Char → Option (CharSet × List Char)
  | 0, _ => none
  | n + 1, cs =>
    let cs := skipSpace f cs
    let (negated, cs) := match cs with
      | '^' :: cs => (true, skipSpace f cs)
      | _ => (false, cs)
    let (leading, cs) := readLeading f cs
    match readItems? f n none leading cs with
    | none => none
    | some (s, rest) => (finishSet? f negated s).map fun s => (s, rest)

/-- Reads the items of a class up to its closing bracket. -/
def readItems? (f : Flags) :
    Nat → Option (CharSet × SetOperation) → CharSet → List Char → Option (CharSet × List Char)
  | 0, _, _, _ => none
  | n + 1, waiting, s, cs =>
    match skipSpace f cs with
    | [] => none
    | '[' :: rest =>
      match readBracketName? f rest with
      | some (t, rest) => readItems? f n waiting (.union s t) rest
      | none =>
        match readBracket? f n rest with
        | none => none
        | some (t, rest) => readItems? f n waiting (.union s t) rest
    | ']' :: rest => some (finishOperation f waiting s, rest)
    | '&' :: '&' :: rest => readItems? f n (some (finishOperation f waiting s, .inter)) .empty rest
    | '-' :: '-' :: rest => readItems? f n (some (finishOperation f waiting s, .diff)) .empty rest
    | '~' :: '~' :: rest =>
      readItems? f n (some (finishOperation f waiting s, .symmDiff)) .empty rest
    | cs =>
      match readRange? f cs with
      | none => none
      | some (t, rest) => readItems? f n waiting (.union s t) rest

end

/-! ## Groups and repetitions -/

/-- Reads flags up to a colon or a closing parenthesis, which is returned with the rest.  A letter
may occur once, and a dash once and not at the end. -/
def readFlags? (f : Flags) (seen : List Char) : List Char → Option (Flags × Bool × Char × List Char)
  | [] => none
  | c :: cs =>
    if c == ':' || c == ')' then
      if seen.head? == some '-' then none else some (f, !seen.isEmpty, c, cs)
    else if seen.contains c then none
    else if c == '-' then readFlags? f (c :: seen) cs
    else
      match f.set? c (!seen.contains '-') with
      | none => none
      | some f => readFlags? f (c :: seen) cs

/-- A character that may start the name of a group. -/
def startsGroupName (c : Char) : Bool :=
  c == '_' || c.isAlpha || (0x80 ≤ c.toNat && ((property? "alphabetic").map (·.mem c)).getD false)

/-- A character that may continue the name of a group. -/
def continuesGroupName (c : Char) : Bool :=
  startsGroupName c || c.isDigit || c == '.' || c == '[' || c == ']' ||
    (0x80 ≤ c.toNat && (categoryGroup "n").mem c)

/-- Reads the name of a group up to its angle bracket. -/
def readGroupName? (g : Groups) (cs : List Char) : Option (Groups × List Char) :=
  match cs.dropWhile continuesGroupName with
  | '>' :: rest =>
    let name := cs.takeWhile continuesGroupName
    if (name.head?.map startsGroupName).getD false && !g.names.contains name then
      some (⟨g.count + 1, name :: g.names⟩, rest)
    else none
  | _ => none

/-- What a parenthesis opens. -/
inductive Opening where
  | capturing
  | plain (f : Flags)
  | flags (f : Flags)
deriving Repr, DecidableEq

/-- Reads what follows an opening parenthesis, and counts the group if it captures. -/
def readOpening? (f : Flags) (g : Groups) (cs : List Char) :
    Option (Opening × Groups × List Char) :=
  match skipSpace f cs with
  | '?' :: 'P' :: '<' :: cs => (readGroupName? g cs).map fun (g, cs) => (.capturing, g, cs)
  | '?' :: '<' :: cs =>
    if cs.head? == some '=' || cs.head? == some '!' then none
    else (readGroupName? g cs).map fun (g, cs) => (.capturing, g, cs)
  | '?' :: cs =>
    match readFlags? f [] cs with
    | none => none
    | some (f, changed, last, cs) =>
      if last == ':' then some (.plain f, g, cs)
      else if changed then some (.flags f, g, cs)
      else none
  | cs => some (.capturing, { g with count := g.count + 1 }, cs)

/-- Reads a decimal number, with blanks around it. -/
def readDecimal? (f : Flags) (cs : List Char) : Option (Nat × List Char) :=
  let cs := cs.dropWhile isBlank
  let digits := (if f.spaced then cs.takeWhile (fun c => c.isDigit || isBlank c)
    else cs.takeWhile Char.isDigit).filter Char.isDigit
  let rest := (if f.spaced then cs.dropWhile (fun c => c.isDigit || isBlank c)
    else cs.dropWhile Char.isDigit).dropWhile isBlank
  let value := digits.foldl (fun n c => n * 10 + (c.toNat - 48)) 0
  if digits.isEmpty || 4294967296 ≤ value then none else some (value, rest)

/-- Reads the bounds of a repetition after their opening brace. -/
def readBounds? (f : Flags) (cs : List Char) : Option ((Nat × Option Nat) × List Char) := do
  let (least, cs) ← readDecimal? f (skipSpace f cs)
  match cs with
  | '\x7d' :: rest => return ((least, some least), rest)
  | ',' :: cs =>
    match skipSpace f cs with
    | '\x7d' :: rest => return ((least, none), rest)
    | cs =>
      let (most, cs) ← readDecimal? f cs
      match cs with
      | '\x7d' :: rest => if least ≤ most then return ((least, some most), rest) else none
      | _ => none
  | _ => none

/-- Reads the mark of a repetition that takes as little as it can. -/
def readLazy (f : Flags) (cs : List Char) : Bool × List Char :=
  match cs with
  | '?' :: cs => (f.lazy, cs)
  | _ => (!f.lazy, cs)

/-- Repeats the last item; a change of flags cannot be repeated. -/
def repeatLast? (bounds : Nat × Option Nat) (greedy : Bool) (items : List (Option Expr)) :
    Option (List (Option Expr)) :=
  match items with
  | some e :: items => some (some (.repeated bounds.1 bounds.2 greedy e) :: items)
  | _ => none

/-- The set of the characters that a dot stands for. -/
def dotSet? (f : Flags) : Option CharSet :=
  if !f.wide then none
  else if f.dotAll then some .all
  else if f.crlf then some (.compl (.ranges [(10, 10), (13, 13)]))
  else some (.compl (.ranges [(10, 10)]))

/-- The condition that a circumflex stands for. -/
def startCondition (f : Flags) : Condition :=
  if f.multiLine then (if f.crlf then .wideLineStart else .lineStart) else .textStart

/-- The condition that a dollar sign stands for. -/
def endCondition (f : Flags) : Condition :=
  if f.multiLine then (if f.crlf then .wideLineEnd else .lineEnd) else .textEnd

/-- The expression of an escape outside brackets. -/
def escapeExpr? (f : Flags) (e : Escape) : Option Expr :=
  match e with
  | .char c => (literal? f c).map .set
  | .set s => some (.set s)
  | .condition c => some (.condition c)

/-! ## Expressions -/

/-- What reading an expression gives: the flags in force at its end, the groups, and the rest. -/
abbrev Outcome := Expr × Flags × Groups × List Char

mutual

/-- Reads choices up to a closing parenthesis or the end. -/
def readChoices? : Nat → Flags → Groups → List Char → Option Outcome
  | 0, _, _, _ => none
  | n + 1, f, g, cs =>
    match readSequence? n f g [] cs with
    | none => none
    | some (e, f, g, rest) =>
      match rest with
      | '|' :: rest =>
        match readChoices? n f g rest with
        | none => none
        | some (e', f, g, rest) => some (.alt e e', f, g, rest)
      | _ => some (e, f, g, rest)

/-- Reads items up to a bar, a closing parenthesis or the end; `items` are those read so far, the
last one first. -/
def readSequence? : Nat → Flags → Groups → List (Option Expr) → List Char → Option Outcome
  | 0, _, _, _, _ => none
  | n + 1, f, g, items, cs =>
    let done := Expr.ofSeq ((items.filterMap id).reverse)
    match skipSpace f cs with
    | [] => some (done, f, g, [])
    | c :: rest =>
      match c with
      | '|' => some (done, f, g, c :: rest)
      | ')' => some (done, f, g, c :: rest)
      | '(' =>
        match readOpening? f g rest with
        | none => none
        | some (.flags f, g, rest) => readSequence? n f g (none :: items) rest
        | some (.plain f', g, rest) =>
          match readChoices? n f' g rest with
          | some (e, _, g, ')' :: rest) => readSequence? n f g (some e :: items) rest
          | _ => none
        | some (.capturing, g', rest) =>
          match readChoices? n f g' rest with
          | some (e, _, g, ')' :: rest) =>
            readSequence? n f g (some (.group g'.count e) :: items) rest
          | _ => none
      | '[' =>
        match readBracket? f n rest with
        | none => none
        | some (s, rest) => readSequence? n f g (some (.set s) :: items) rest
      | '*' =>
        let (greedy, rest) := readLazy f rest
        match repeatLast? (0, none) greedy items with
        | none => none
        | some items => readSequence? n f g items rest
      | '+' =>
        let (greedy, rest) := readLazy f rest
        match repeatLast? (1, none) greedy items with
        | none => none
        | some items => readSequence? n f g items rest
      | '?' =>
        let (greedy, rest) := readLazy f rest
        match repeatLast? (0, some 1) greedy items with
        | none => none
        | some items => readSequence? n f g items rest
      | '\x7b' =>
        match readBounds? f rest with
        | none => none
        | some (bounds, rest) =>
          let (greedy, rest) := readLazy f (skipSpace f rest)
          match repeatLast? bounds greedy items with
          | none => none
          | some items => readSequence? n f g items rest
      | '^' => readSequence? n f g (some (.condition (startCondition f)) :: items) rest
      | '$' => readSequence? n f g (some (.condition (endCondition f)) :: items) rest
      | '.' =>
        match dotSet? f with
        | none => none
        | some s => readSequence? n f g (some (.set s) :: items) rest
      | '\\' =>
        match readEscape? f rest with
        | none => none
        | some (e, rest) =>
          match escapeExpr? f e with
          | none => none
          | some e => readSequence? n f g (some e :: items) rest
      | _ =>
        match literal? f c with
        | none => none
        | some s => readSequence? n f g (some (.set s) :: items) rest

end

/-- Reads a pattern: its expression and the number of its groups. -/
def read? (cs : List Char) : Option (Expr × Nat) :=
  match readChoices? (2 * cs.length + 2) {} {} cs with
  | some (e, _, g, []) => some (e, g.count)
  | _ => none

end TemplateImports.Pattern.Reader
