/-!
# Shapes of expressions

What must be known of an expression once it is read: whether something can be assigned to it, and
whether it turns out to be a pattern that names variables.  The same text is an expression or a
pattern depending on what follows it, so that the parts of brackets and braces are kept.

Main results:

- Definition `Shape.isSimple` says which expressions can be assigned to as they stand.
- Definitions `Shape.isTarget` and `Shape.isBinding` say which expressions are patterns.
- Definition `Shape.names` lists the variables of a pattern.
-/

namespace TemplateImports.Script

/-- What is kept of an expression or a pattern. -/
inductive Shape where
  | name (text : List Char)
  /-- A member of a value. -/
  | member
  /-- A chain of members that passes over missing values. -/
  | chain
  /-- Expressions in parentheses. -/
  | group (items : List Shape)
  /-- Parentheses that can only hold the parameters of an arrow function. -/
  | parameters (items : List Shape)
  | array (items : List Shape)
  | object (items : List Shape)
  /-- A missing item of a list. -/
  | hole
  /-- A pattern with a default value, or an assignment, which looks the same. -/
  | assigned (target : Shape)
  /-- A shorthand member with an initial value, which only a pattern can have. -/
  | shorthand (text : List Char)
  /-- The rest of a list, and whether nothing follows it. -/
  | spread (inner : Shape) (isLast : Bool)
  | conjunction
  | coalescence
  /-- Any other expression. -/
  | value
deriving Repr

namespace Shape

/-- Whether an expression can be assigned to as it stands. -/
def isSimple : Shape → Bool
  | .name _ => true
  | .member => true
  | .group [inner] => inner.isSimple
  | _ => false

mutual

/-- Whether an expression is a pattern that can be assigned to. -/
def isTarget : Shape → Bool
  | .name _ => true
  | .member => true
  | .group items =>
    match items with
    | [inner] => inner.isSimple
    | _ => false
  | .array items => areTargets items
  | .object items => areTargets items
  | .hole => true
  | .assigned target => target.isTarget
  | .shorthand _ => true
  | .spread inner isLast => isLast && inner.isTarget
  | .parameters _ => false
  | .chain => false
  | .conjunction => false
  | .coalescence => false
  | .value => false

/-- Whether all items of a list or an object are patterns. -/
def areTargets : List Shape → Bool
  | [] => true
  | item :: items => item.isTarget && areTargets items

end

mutual

/-- Whether an expression is a pattern that can declare variables. -/
def isBinding : Shape → Bool
  | .name _ => true
  | .array items => areBindings items
  | .object items => areBindings items
  | .hole => true
  | .assigned target => target.isBinding
  | .shorthand _ => true
  | .spread inner isLast => isLast && inner.isBinding
  | .member => false
  | .group _ => false
  | .parameters _ => false
  | .chain => false
  | .conjunction => false
  | .coalescence => false
  | .value => false

/-- Whether all items of a list or an object are patterns that can declare variables. -/
def areBindings : List Shape → Bool
  | [] => true
  | item :: items => item.isBinding && areBindings items

end

mutual

/-- The variables of a pattern. -/
def names : Shape → List (List Char)
  | .name text => [text]
  | .array items => namesOf items
  | .object items => namesOf items
  | .group items => namesOf items
  | .parameters items => namesOf items
  | .assigned target => target.names
  | .shorthand text => [text]
  | .spread inner _ => inner.names
  | .member => []
  | .chain => []
  | .hole => []
  | .conjunction => []
  | .coalescence => []
  | .value => []

/-- The variables of patterns. -/
def namesOf : List Shape → List (List Char)
  | [] => []
  | item :: items => item.names ++ namesOf items

end

mutual

/-- The number of shorthand members with initial values that a pattern makes valid. -/
def shorthands : Shape → Nat
  | .shorthand _ => 1
  | .array items => shorthandsOf items
  | .object items => shorthandsOf items
  | .group items => shorthandsOf items
  | .parameters items => shorthandsOf items
  | .spread inner _ => inner.shorthands
  | .name _ => 0
  | .member => 0
  | .chain => 0
  | .hole => 0
  | .assigned _ => 0
  | .conjunction => 0
  | .coalescence => 0
  | .value => 0

/-- The same for several patterns. -/
def shorthandsOf : List Shape → Nat
  | [] => 0
  | item :: items => item.shorthands + shorthandsOf items

end

/-- Whether a declared pattern has the value that it needs: one that takes a value apart does. -/
def isComplete (needsValue : Bool) : Shape → Bool
  | .assigned _ => true
  | .name _ => !needsValue
  | _ => false

/-- An item of a list that something follows. -/
def followed : Shape → Shape
  | .spread inner _ => .spread inner false
  | s => s

/-- The items of a group. -/
def items : Shape → List Shape
  | .group items => items
  | .parameters items => items
  | .array items => items
  | _ => []

end Shape

end TemplateImports.Script
