import TemplateImports.KeyedList
import TemplateImports.Workspace.Path

/-!
# File trees

The files that a run can see, as a tree of directories.  A path that starts at the root of the file
system is followed from the top of the tree, and any other one from the directory in which the run
takes place.  It is followed piece by piece, so that a file cannot be passed through, and above the
top there is nothing to go up to.

There are no links, every name is a text, and everything in the tree may be read.

Main results:

- Structure `FileTree` is a tree with the place of a run in it.
- Definition `FileTree.find` follows a path.
- Definition `FileTree.read` is the text of a file, or the reason why it cannot be read.
- Definitions `Workspace.addFile` and `Workspace.addDirectory` add entries.
-/

namespace TemplateImports

open Text

/-- An entry of a directory. -/
inductive Entry where
  /-- A file with its text, or without one if its bytes are no text. -/
  | file (content : Option String)
  | directory (entries : List (String × Entry))
deriving Repr

/-- The entries of a directory, by name. -/
abbrev Workspace := List (String × Entry)

/-- The entries of the directory with a name.  There are none if the name leads to no directory. -/
def Workspace.inner (w : Workspace) (name : String) : Workspace :=
  match w.lookup name with
  | some (.directory entries) => entries
  | _ => []

/-- All files, and the place among them where a run takes place. -/
structure FileTree where
  /-- The entries at the root of the file system. -/
  top : Workspace
  /-- The names that lead from there to the directory where the other paths start. -/
  place : List String

/-- The tree with nothing beside a workspace, which a run takes place in. -/
def Workspace.toFileTree (w : Workspace) : FileTree :=
  ⟨[("workspace", .directory w)], ["workspace"]⟩

instance : Coe Workspace FileTree :=
  ⟨Workspace.toFileTree⟩

/-- Why a file cannot be read. -/
inductive ReadFault where
  | missing
  | isDirectory
  /-- A file stands where a directory is needed. -/
  | notDirectory
  | notText
deriving Repr, DecidableEq

/-- The wording of a fault. -/
def ReadFault.message : ReadFault → String
  | .missing => "No such file or directory (os error 2)"
  | .isDirectory => "Is a directory (os error 21)"
  | .notDirectory => "Not a directory (os error 20)"
  | .notText => "stream did not contain valid UTF-8"

namespace FileTree

/-! ## Following paths -/

/-- The entries of the directory that was entered last.  `entered` holds the directories on the way
down from the top, the last one first. -/
def current (tree : FileTree) (entered : List Workspace) : Workspace :=
  entered.headD tree.top

@[simp]
theorem current_nil (tree : FileTree) : tree.current [] = tree.top :=
  rfl

@[simp]
theorem current_cons (tree : FileTree) (entries : Workspace) (entered : List Workspace) :
    tree.current (entries :: entered) = entries :=
  rfl

/-- Follows the pieces of a path behind the directories entered so far. -/
def follow (tree : FileTree) : List Workspace → List (List Char) → Except ReadFault Entry
  | entered, [] => .ok (.directory (tree.current entered))
  | entered, piece :: pieces =>
    if Path.isVoid piece then tree.follow entered pieces
    else if piece == ['.', '.'] then tree.follow entered.tail pieces
    else
      match (tree.current entered).lookup (String.ofList piece) with
      | none => .error .missing
      | some (.directory entries) => tree.follow (entries :: entered) pieces
      | some (.file content) => if pieces.isEmpty then .ok (.file content) else .error .notDirectory

/-- The directories on the way to where a path starts, the last one first. -/
def start (tree : FileTree) (fromRoot : Bool) : List Workspace :=
  if fromRoot then []
  else tree.place.foldl (fun entered name => (tree.current entered).inner name :: entered) []

/-- The entry that a path leads to. -/
def find (tree : FileTree) (p : Path) : Except ReadFault Entry :=
  if p.text.isEmpty then .error .missing
  else tree.follow (tree.start p.isAbsolute) (splitOn '/' p.text.toList)

/-- Whether a path leads to a file. -/
def isFile (tree : FileTree) (p : Path) : Bool :=
  match tree.find p with
  | .ok (.file _) => true
  | _ => false

/-- The entries of the directory that a path leads to. -/
def entries? (tree : FileTree) (p : Path) : Option Workspace :=
  match tree.find p with
  | .ok (.directory entries) => some entries
  | _ => none

/-- The text of the file that a path leads to. -/
def read (tree : FileTree) (p : Path) : Except ReadFault String :=
  match tree.find p with
  | .ok (.file (some text)) => .ok text
  | .ok (.file none) => .error .notText
  | .ok (.directory _) => .error .isDirectory
  | .error fault => .error fault

end FileTree

namespace Workspace

/-! ## Building -/

/-- Adds an entry at the place that names lead to, with the directories on the way. -/
def insertAt (entry : Entry) : List String → Workspace → Workspace
  | [], w => w
  | [name], w => KeyedList.put name entry w
  | name :: names, w => KeyedList.put name (.directory (insertAt entry names (w.inner name))) w

/-- The names that a path is made of. -/
def namesOf (p : Path) : List String :=
  (Path.evaluate [] p.parts).reverse.map String.ofList

/-- Adds a file. -/
def addFile (w : Workspace) (p : Path) (content : Option String) : Workspace :=
  insertAt (.file content) (namesOf p) w

/-- Adds a directory, unless it is there. -/
def addDirectory (w : Workspace) (p : Path) : Workspace :=
  match (FileTree.mk w []).entries? p with
  | some _ => w
  | none => insertAt (.directory []) (namesOf p) w

end Workspace

end TemplateImports
