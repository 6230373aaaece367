/-!
# Data values

Values of the data format that options and component definitions are written in.  The members of an
object keep their order, and a name may occur twice in a text; numbers are kept as they are
written.

Main results:

- Definition `Json.isTruthy` says which values count as set.
- Definition `Json.member?` reads a member of an object.
- Definition `Json.isSound` says which values are within the limits of strict reading.
-/

namespace TemplateImports

/-- A data value. -/
inductive Json where
  | null
  | bool (value : Bool)
  | number (text : String)
  | string (text : String)
  | array (items : List Json)
  | object (members : List (String × Json))
  /-- A text, or an object with a name, that escapes half of a pair on its own and so stands for no
  characters. -/
  | broken
deriving Repr, Inhabited

namespace Json

/-! ## Numbers -/

/-- The exponent mark of a number. -/
def isExponentMark (c : Char) : Bool :=
  c == 'e' || c == 'E'

/-- The digits of a number before its exponent. -/
def significand (text : List Char) : List Char :=
  (text.takeWhile (!isExponentMark ·)).filter Char.isDigit

/-- The number that decimal digits denote. -/
def decimal (digits : List Char) : Nat :=
  digits.foldl (fun n c => n * 10 + (c.toNat - 48)) 0

/-- The power of ten that the last digit of the significand counts. -/
def scale (text : List Char) : Int :=
  let fraction := ((text.takeWhile (!isExponentMark ·)).dropWhile (· != '.')).drop 1
  let exponent := (text.dropWhile (!isExponentMark ·)).drop 1
  let size : Int := decimal (exponent.filter Char.isDigit)
  (if exponent.head? == some '-' then -size else size) - fraction.length

/-- Whether the value of a number is at least half of the least positive binary fraction of double
precision, so that it does not round to zero. -/
def isNonzero (text : List Char) : Bool :=
  let digits := significand text
  let n := decimal digits
  n != 0 &&
    (if 0 ≤ scale text then true
    else
      let down := (-scale text).toNat
      down ≤ digits.length + 400 && Nat.pow 10 down < n * Nat.pow 2 1075)

/-- The least number that double precision rounds to infinity. -/
def magnitudeBound : Nat :=
  Nat.pow 2 1024 - Nat.pow 2 970

/-- Whether the value of a number is in the range of double precision. -/
def isInRange (text : List Char) : Bool :=
  let n := decimal (significand text)
  n == 0 ||
    (if scale text ≤ 0 then
      n < magnitudeBound * Nat.pow 10 (min (-scale text).toNat ((significand text).length + 1))
    else scale text ≤ 400 && n * Nat.pow 10 (scale text).toNat < magnitudeBound)

/-! ## Members -/

/-- The members of an object; any other value has none. -/
def members : Json → List (String × Json)
  | .object members => members
  | _ => []

/-- The value of a member of an object. -/
def member? (v : Json) (name : String) : Option Json :=
  v.members.lookup name

/-! ## Set values -/

/-- Whether a value counts as set.  Nothing, falsehood, zero and the empty text do not. -/
def isTruthy : Json → Bool
  | .null => false
  | .bool value => value
  | .number text => isNonzero text.toList
  | .string text => !text.isEmpty
  | .array _ => true
  | .object _ => true
  | .broken => true

/-! ## Limits -/

mutual

/-- Whether all numbers of a value are in range, all its texts stand for characters, and its lists
and objects are nested at most `depth` times. -/
def isSound (depth : Nat) : Json → Bool
  | .number text => isInRange text.toList
  | .array items =>
    match depth with
    | 0 => false
    | depth + 1 => allSound depth items
  | .object members =>
    match depth with
    | 0 => false
    | depth + 1 => allMembersSound depth members
  | .broken => false
  | .null => true
  | .bool _ => true
  | .string _ => true

/-- Whether all items are sound. -/
def allSound (depth : Nat) : List Json → Bool
  | [] => true
  | item :: items => item.isSound depth && allSound depth items

/-- Whether the values of all members are sound. -/
def allMembersSound (depth : Nat) : List (String × Json) → Bool
  | [] => true
  | (_, value) :: members => value.isSound depth && allMembersSound depth members

end

end Json

end TemplateImports
