import TemplateImports.Text.Split

/-!
# Paths

Paths are texts whose parts are separated by slashes.  Repeated slashes, a slash at the end, and
dots behind the first part have no meaning.

Main results:

- Definition `Path.parts` lists the parts of a path.
- Definition `Path.normalize` evaluates the dots of a path without looking at any files.
- Definition `Path.relativeTo` is the rest of a path behind another one.
- Theorem `stripPrefix?_eq_some_iff` says when a path starts with another one.
-/

namespace TemplateImports

open Text

/-- A path, as it is written.  Its names are texts: a name whose bytes are no text, which a file
system may have, is not described, and so is no replacement of such bytes in a path that is
reported. -/
structure Path where
  text : String
deriving Repr, DecidableEq

namespace Path

/-! ## Parts -/

/-- A part of a path. -/
inductive Part where
  | root
  /-- A dot at the start. -/
  | here
  | up
  | name (text : List Char)
deriving Repr, DecidableEq

/-- The text of a part. -/
def Part.text : Part → List Char
  | .root => ['/']
  | .here => ['.']
  | .up => ['.', '.']
  | .name text => text

/-- Whether a piece between slashes has no meaning. -/
def isVoid (piece : List Char) : Bool :=
  piece.isEmpty || piece == ['.']

/-- The part that a piece stands for. -/
def partOf (piece : List Char) : Part :=
  if piece == ['.', '.'] then .up else .name piece

/-- The part that a path starts with apart from the others, with the pieces behind it. -/
def opening (cs : List Char) : List Part × List (List Char) :=
  match splitOn '/' cs with
  | [] :: pieces => (if pieces.isEmpty then [] else [.root], pieces)
  | ['.'] :: pieces => ([.here], pieces)
  | pieces => ([], pieces)

/-- The parts of a path. -/
def parts (p : Path) : List Part :=
  let (first, pieces) := opening p.text.toList
  first ++ (pieces.filter (!isVoid ·)).map partOf

/-- Whether a path starts at the root. -/
def isAbsolute (p : Path) : Bool :=
  p.text.toList.head? == some '/'

/-- The path of parts that are separated by slashes. -/
def joined (parts : List Part) : String :=
  String.ofList (joinWith ['/'] (parts.map Part.text))

/-! ## Joining and normalizing -/

/-- A path behind another one; a path that starts at the root replaces it. -/
def join (base p : Path) : Path :=
  if p.isAbsolute then p
  else
    let separator :=
      if base.text.isEmpty || base.text.toList.getLast? == some '/' then "" else "/"
    ⟨base.text ++ separator ++ p.text⟩

/-- Evaluates parts one after the other.  `names` are the names kept so far, the last one first; a
part that goes up removes the last one, if there is any. -/
def evaluate (names : List (List Char)) : List Part → List (List Char)
  | [] => names
  | .up :: parts => evaluate names.tail parts
  | .name text :: parts => evaluate (text :: names) parts
  | .root :: parts => evaluate names parts
  | .here :: parts => evaluate names parts

/-- The path without dots. -/
def normalize (p : Path) : Path :=
  let names := (evaluate [] p.parts).reverse
  ⟨(if p.isAbsolute then "/" else "") ++ String.ofList (joinWith ['/'] names)⟩

/-! ## Parents -/

/-- The pieces without those at the end that have no meaning. -/
def dropVoid (pieces : List (List Char)) : List (List Char) :=
  (pieces.reverse.dropWhile isVoid).reverse

/-- The directory that a path lies in, as it is written; nothing if there is none. -/
def parent (p : Path) : Path :=
  let (first, pieces) := opening p.text.toList
  match dropVoid pieces with
  | [] => ⟨""⟩
  | pieces =>
    let before := dropVoid pieces.dropLast
    match first with
    | [.root] => ⟨"/" ++ String.ofList (joinWith ['/'] before)⟩
    | part :: _ => ⟨String.ofList (joinWith ['/'] (part.text :: before))⟩
    | [] => ⟨String.ofList (joinWith ['/'] before)⟩

/-! ## Relative paths -/

/-- The parts behind others, if the path starts with those. -/
def stripPrefix? : List Part → List Part → Option (List Part)
  | [], parts => some parts
  | _ :: _, [] => none
  | first :: before, part :: parts => if first = part then stripPrefix? before parts else none

/-- The parts behind others are those that complete them. -/
theorem stripPrefix?_eq_some_iff {before parts rest : List Part} :
    stripPrefix? before parts = some rest ↔ parts = before ++ rest := by
  induction before generalizing parts with
  | nil => simp [stripPrefix?]
  | cons first before ih =>
    cases parts with
    | nil => simp [stripPrefix?]
    | cons part parts =>
      by_cases h : first = part
      · simp [stripPrefix?, h, ih]
      · simp only [stripPrefix?, h, if_false, List.cons_append, List.cons.injEq, reduceCtorEq,
          false_iff, not_and]
        rintro rfl
        exact absurd rfl h

/-- The path behind another one, or the whole path where it does not start with that one. -/
def relativeTo (p base : Path) : String :=
  match stripPrefix? base.parts p.parts with
  | some rest => joined rest
  | none => p.text

end Path

end TemplateImports
