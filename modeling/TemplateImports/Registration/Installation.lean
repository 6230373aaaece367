import TemplateImports.Registration.Merging

/-!
# Running a helper

A helper works on objects that have an identity: storing an object stores no copy of it, and a
change of an object is seen wherever the object stands.  This module has the objects of a component
with their members, and the steps of the function whose text is `Category.helperText`.

Every object also answers to a few names whose values it does not hold itself, and such a value
counts as set.

Main results:

- Definition `Heap.install?` runs the helper of a category.
- Definition `Heap.load` lays out a data value as objects.
- Definition `Call.of` is the call of a helper for a definition and registrations that are written
  as data.
-/

namespace TemplateImports

/-! ## Objects -/

/-- What a variable or a member holds. -/
inductive Held where
  | undefined
  /-- The value that every object has under a name. -/
  | inherited (name : String)
  /-- A data value that is not an object. -/
  | plain (value : Json)
  | object (id : Nat)
deriving Inhabited

/-- Whether a value counts as set. -/
def Held.isTruthy : Held → Bool
  | .undefined => false
  | .inherited _ => true
  | .plain value => value.isTruthy
  | .object _ => true

/-- The members of all objects, by the identity of the object. -/
structure Heap where
  objects : List (List (String × Held)) := []

/-- The names that every object has without holding them. -/
def inheritedNames : List String :=
  ["constructor", "hasOwnProperty", "isPrototypeOf", "propertyIsEnumerable", "toLocaleString",
    "toString", "valueOf", "__defineGetter__", "__defineSetter__", "__lookupGetter__",
    "__lookupSetter__", "__proto__"]

namespace Heap

/-- The number of objects. -/
def size (heap : Heap) : Nat :=
  heap.objects.length

/-- The members that an object holds itself. -/
def membersOf (heap : Heap) (id : Nat) : List (String × Held) :=
  heap.objects[id]?.getD []

/-- Adds an object; its identity is the number of objects before. -/
def add (heap : Heap) (members : List (String × Held)) : Heap :=
  ⟨heap.objects ++ [members]⟩

/-- Gives an object other members. -/
def replace (heap : Heap) (id : Nat) (members : List (String × Held)) : Heap :=
  ⟨heap.objects.set id members⟩

/-- The member of a value, if the value is an object that holds the name itself. -/
def own? (heap : Heap) : Held → String → Option Held
  | .object id, name => (heap.membersOf id).lookup name
  | _, _ => none

/-- What an object holds under a name that it does not hold itself. -/
def absent (name : String) : Held :=
  if name ∈ inheritedNames then .inherited name else .undefined

/-- Reads a member of an object.  There is no result for any other value, where a run fails or does
what is not described here. -/
def read? (heap : Heap) (target : Held) (name : String) : Option Held :=
  match target with
  | .object _ => some ((heap.own? target name).getD (absent name))
  | _ => none

/-- Writes a member of an object. -/
def write? (heap : Heap) (target : Held) (name : String) (value : Held) : Option Heap :=
  match target with
  | .object id => some (heap.replace id (KeyedList.put name value (heap.membersOf id)))
  | _ => none

/-- Whether a value is a function; data marks the members of functions. -/
def isFunction (heap : Heap) (value : Held) : Bool :=
  match heap.own? value "$function" with
  | some (.plain (.bool mark)) => mark
  | _ => false

/-! ## The steps of a helper -/

/-- Stores the container of the options of a constructor in its extended options, whether there is
one or not. -/
def shareContainer? (heap : Heap) (field : String) (constructor options : Held) : Option Heap := do
  let full ← heap.read? constructor "options"
  let container ← heap.read? full field
  heap.write? options field container

/-- Stores a new container in options without one. -/
def ensureContainer? (heap : Heap) (field : String) (options : Held) : Option Heap := do
  let container ← heap.read? options field
  if container.isTruthy then heap.write? options field container
  else (heap.add []).write? options field (.object heap.size)

/-- Adds an entry to the container of options, unless its name is set. -/
def installOne? (field : String) (options : Held) (heap : Heap) (entry : String × Held) :
    Option Heap := do
  let container ← heap.read? options field
  let present ← heap.read? container entry.1
  heap.write? container entry.1 (if present.isTruthy then present else entry.2)

/-- Runs the helper of a category. -/
def install? (heap : Heap) (c : Category) (component : Held) (entries : List (String × Held)) :
    Option Heap := do
  let exports ← heap.read? component "exports"
  if heap.isFunction exports then
    let options ← heap.read? exports "extendOptions"
    let heap ← heap.shareContainer? c.field exports options
    let heap ← heap.ensureContainer? c.field options
    entries.foldlM (installOne? c.field options) heap
  else
    let options ← heap.read? component "options"
    let heap ← heap.ensureContainer? c.field options
    entries.foldlM (installOne? c.field options) heap

/-! ## Laying out data -/

mutual

/-- Lays out a data value: every object in it becomes an object of its own. -/
def load : Json → Heap → Held × Heap
  | .object members, heap =>
    let (loaded, heap) := loadMembers members heap
    (.object heap.size, heap.add loaded)
  | .null, heap => (.plain .null, heap)
  | .bool value, heap => (.plain (.bool value), heap)
  | .number text, heap => (.plain (.number text), heap)
  | .string text, heap => (.plain (.string text), heap)
  | .array items, heap => (.plain (.array items), heap)
  | .broken, heap => (.plain .broken, heap)

/-- Lays out the values of members. -/
def loadMembers : List (String × Json) → Heap → List (String × Held) × Heap
  | [], heap => ([], heap)
  | (name, v) :: members, heap =>
    let (held, heap) := load v heap
    let (loaded, heap) := loadMembers members heap
    ((name, held) :: loaded, heap)

end

end Heap

/-- What a helper is called with. -/
structure Call where
  heap : Heap
  component : Held
  entries : List (String × Held)

/-- The call for a definition and registrations that are written as data. -/
def Call.of (definition : Json) (registrations : List (String × Json)) : Call :=
  let (component, heap) := Heap.load definition {}
  let (entries, heap) := Heap.loadMembers registrations heap
  ⟨heap, component, entries⟩

/-- Runs the helper of a category on what it is called with. -/
def Call.run? (call : Call) (c : Category) : Option Heap :=
  call.heap.install? c call.component call.entries

end TemplateImports
