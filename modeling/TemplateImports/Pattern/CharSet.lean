import TemplateImports.Pattern.PropertyTable
import TemplateImports.Pattern.ScriptTable
import TemplateImports.Text.Blank
import TemplateImports.Text.CaseFold
import TemplateImports.Text.WordChar

/-!
# Sets of characters

The character classes that a pattern is made of: ranges, named classes, their combinations, and
classes that ignore letter case.

Main results:

- Definition `CharSet.mem` is the membership test.
- Definition `named?` finds a class by its name.
- Theorem `mem_compl` says that the complement holds exactly the other characters.
-/

namespace TemplateImports.Pattern

open Text

/-! ## Sets -/

/-- A set of characters. -/
inductive CharSet where
  | ranges (list : List (Nat × Nat))
  | union (a b : CharSet)
  | inter (a b : CharSet)
  | diff (a b : CharSet)
  | symmDiff (a b : CharSet)
  | compl (a : CharSet)
  /-- The characters that some character of the set equals up to letter case. -/
  | caseless (a : CharSet)
  /-- The same for the letters of ASCII only. -/
  | asciiCaseless (a : CharSet)
deriving Repr, DecidableEq

namespace CharSet

/-- Whether a character belongs to a set. -/
def mem : CharSet → Char → Bool
  | .ranges list, c => inRanges list c.toNat
  | .union a b, c => a.mem c || b.mem c
  | .inter a b, c => a.mem c && b.mem c
  | .diff a b, c => a.mem c && !b.mem c
  | .symmDiff a b, c => a.mem c != b.mem c
  | .compl a, c => !a.mem c
  | .caseless a, c => a.mem c || (variants c).any a.mem
  | .asciiCaseless a, c => a.mem c || a.mem c.toLower || a.mem c.toUpper

/-- The set without characters. -/
def empty : CharSet :=
  .ranges []

/-- The set of one character. -/
def single (c : Char) : CharSet :=
  .ranges [(c.toNat, c.toNat)]

/-- The set of all characters. -/
def all : CharSet :=
  .ranges [(0, 0x10FFFF)]

@[simp] theorem mem_compl (a : CharSet) (c : Char) : (compl a).mem c = !a.mem c := rfl

@[simp] theorem mem_empty (c : Char) : empty.mem c = false := rfl

/-- The number of ranges that a set is made of. -/
def weight : CharSet → Nat
  | .ranges list => list.length
  | .union a b => a.weight + b.weight
  | .inter a b => a.weight + b.weight
  | .diff a b => a.weight + b.weight
  | .symmDiff a b => a.weight + b.weight
  | .compl a => a.weight + 1
  | .caseless a => 2 * a.weight
  | .asciiCaseless a => 2 * a.weight

/-- Whether a set of single bytes holds none beyond ASCII. -/
def isAscii (a : CharSet) : Bool :=
  (List.range 128).all fun n => !a.mem (Char.ofNat (n + 128))

end CharSet

/-! ## Reading the tables -/

/-- The value of a hexadecimal digit in upper case. -/
def hexValue (c : Char) : Nat :=
  if c.isDigit then c.toNat - 48 else c.toNat - 55

/-- Reads ranges such as `41-5A`, separated by spaces.  `first` and `value` are the numbers read
last, and `inSecond` tells whether a dash stood between them. -/
def readRanges (first value : Nat) (inSecond : Bool) : List Char → List (Nat × Nat)
  | [] => [(if inSecond then first else value, value)]
  | c :: cs =>
    if c == ' ' then (if inSecond then first else value, value) :: readRanges 0 0 false cs
    else if c == '-' then readRanges value 0 true cs
    else readRanges first (value * 16 + hexValue c) inSecond cs

/-- The set that lines of a table describe. -/
def readSet (lines : List String) : CharSet :=
  .ranges (lines.flatMap fun line => readRanges 0 0 false line.toList)

/-! ## Named classes -/

/-- The set with the given name in a table. -/
def inTable? (table : List NamedRanges) (name : String) : Option CharSet :=
  (table.find? (·.names.contains name)).map fun entry => readSet entry.ranges

/-- The union of sets. -/
def unions (sets : List CharSet) : CharSet :=
  sets.foldl .union .empty

/-- The characters of the categories whose short names start with a letter. -/
def categoryGroup (initial : String) : CharSet :=
  unions <| (categories.filter fun entry =>
    entry.names.any fun n => n.length == 2 && (n.toList.take 1) == initial.toList).map
      fun entry => readSet entry.ranges

/-- Names of groups of categories, with the letter they stand for. -/
def groupNames : List (String × String) :=
  [("l", "l"), ("letter", "l"), ("m", "m"), ("mark", "m"), ("combiningmark", "m"), ("n", "n"),
   ("number", "n"), ("p", "p"), ("punctuation", "p"), ("punct", "p"), ("s", "s"), ("symbol", "s"),
   ("z", "z"), ("separator", "z")]

/-- All assigned characters. -/
def assigned : CharSet :=
  unions (categories.map fun entry => readSet entry.ranges)

/-- The set of a general category, or of a group of categories. -/
def category? (name : String) : Option CharSet :=
  match name with
  | "any" => some .all
  | "ascii" => some (.ranges [(0, 0x7F)])
  | "assigned" => some assigned
  | "cn" => some (.compl assigned)
  | "unassigned" => some (.compl assigned)
  | "cs" => some .empty
  | "surrogate" => some .empty
  | "c" => some (.union (categoryGroup "c") (.compl assigned))
  | "other" => some (.union (categoryGroup "c") (.compl assigned))
  | "lc" => some (unions (["lu", "ll", "lt"].filterMap (inTable? categories)))
  | "casedletter" => some (unions (["lu", "ll", "lt"].filterMap (inTable? categories)))
  | _ => ((groupNames.lookup name).map categoryGroup).or (inTable? categories name)

/-- The set of a property. -/
def property? (name : String) : Option CharSet :=
  if ["whitespace", "wspace", "space"].contains name then some (.ranges blankRanges)
  else
    (properties.find? (·.names.contains name)).map fun entry =>
      .union (unions (entry.categories.filterMap (inTable? categories))) (readSet entry.ranges)

/-- The name in lower case without separators and without a leading `is`. -/
def normalizeName (name : List Char) : List Char :=
  let kept := (name.filter fun c => !(isBlank c || c == '_' || c == '-')).map Char.toLower
  match kept with
  | 'i' :: 's' :: rest => if rest == ['c'] then kept else rest
  | _ => kept

/-- The class with the given name: a property, a general category or a script.  Of the properties,
white space and those of letters are known, and no others: not those of emoji, of identifiers or of
hexadecimal digits. -/
def named? (name : List Char) : Option CharSet :=
  let name := String.ofList (normalizeName name)
  ((property? name).or (category? name)).or (inTable? scripts name)

/-- The class that a property has for one of its values.  General categories and scripts are known,
but not the ages of characters, the scripts that share them, or their parts in graphemes. -/
def valued? (property value : List Char) : Option CharSet :=
  let value := String.ofList (normalizeName value)
  match String.ofList (normalizeName property) with
  | "gc" => category? value
  | "generalcategory" => category? value
  | "category" => category? value
  | "sc" => inTable? scripts value
  | "script" => inTable? scripts value
  | _ => none

/-! ## Common classes -/

/-- The decimal digits. -/
def digits (wide : Bool) : CharSet :=
  if wide then (inTable? categories "nd").getD .empty else .ranges [(48, 57)]

/-- White space. -/
def blanks (wide : Bool) : CharSet :=
  .ranges (if wide then blankRanges else [(9, 13), (32, 32)])

/-- Word characters. -/
def words (wide : Bool) : CharSet :=
  .ranges (if wide then wordRanges else [(48, 57), (65, 90), (95, 95), (97, 122)])

/-- The classes of ASCII that have a name inside brackets. -/
def bracketNames : List (String × List (Nat × Nat)) :=
  [("alnum", [(48, 57), (65, 90), (97, 122)]), ("alpha", [(65, 90), (97, 122)]),
   ("ascii", [(0, 127)]), ("blank", [(9, 9), (32, 32)]), ("cntrl", [(0, 31), (127, 127)]),
   ("digit", [(48, 57)]), ("graph", [(33, 126)]), ("lower", [(97, 122)]), ("print", [(32, 126)]),
   ("punct", [(33, 47), (58, 64), (91, 96), (123, 126)]), ("space", [(9, 13), (32, 32)]),
   ("upper", [(65, 90)]), ("word", [(48, 57), (65, 90), (95, 95), (97, 122)]),
   ("xdigit", [(48, 57), (65, 70), (97, 102)])]

end TemplateImports.Pattern
