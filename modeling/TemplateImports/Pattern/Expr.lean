import TemplateImports.Pattern.CharSet

/-!
# Pattern expressions

The meaning of a pattern once its flags are resolved: sets of characters, conditions on a position,
groups, sequences, choices and repetitions.

Main results:

- Definition `Expr.repeated` builds a repetition in its simplest form.
- Definition `Expr.size` measures how much an expression unfolds to.
-/

namespace TemplateImports.Pattern

/-- A condition on a position of a text. -/
inductive Condition where
  | textStart
  | textEnd
  | lineStart
  | lineEnd
  /-- Lines may also end with a carriage return. -/
  | wideLineStart
  | wideLineEnd
  | wordBorder (wide : Bool)
  | noWordBorder (wide : Bool)
  | wordStart (wide : Bool)
  | wordEnd (wide : Bool)
  | wordStartHalf (wide : Bool)
  | wordEndHalf (wide : Bool)
deriving Repr, DecidableEq

/-- A pattern expression. -/
inductive Expr where
  | empty
  | set (s : CharSet)
  | condition (c : Condition)
  | group (index : Nat) (e : Expr)
  | seq (a b : Expr)
  | alt (a b : Expr)
  | rep (least : Nat) (most : Option Nat) (greedy : Bool) (e : Expr)
deriving Repr, DecidableEq

namespace Expr

/-- Whether an expression can match the empty text. -/
def isNullable : Expr → Bool
  | .empty => true
  | .set _ => false
  | .condition _ => true
  | .group _ e => e.isNullable
  | .seq a b => a.isNullable && b.isNullable
  | .alt a b => a.isNullable || b.isNullable
  | .rep least _ _ e => least == 0 || e.isNullable

/-- Whether an expression can match nothing but the empty text. -/
def isVacuous : Expr → Bool
  | .empty => true
  | .set _ => false
  | .condition _ => true
  | .group _ e => e.isVacuous
  | .seq a b => a.isVacuous && b.isVacuous
  | .alt a b => a.isVacuous && b.isVacuous
  | .rep _ most _ e => most == some 0 || e.isVacuous

/-- A repetition in its simplest form.  Repeating what matches only the empty text is the same as
matching it once, if at all. -/
def repeated (least : Nat) (most : Option Nat) (greedy : Bool) (e : Expr) : Expr :=
  let bounds :=
    if e.isVacuous then (min least 1, some ((most.map (min · 1)).getD 1)) else (least, most)
  match bounds with
  | (0, some 0) => .empty
  | (1, some 1) => e
  | (least, most) => .rep least most greedy e

/-- The number of steps that an expression unfolds to. -/
def size : Expr → Nat
  | .empty => 1
  | .set s => if s.weight ≤ 2 then 1 else s.weight
  | .condition _ => 1
  | .group _ e => e.size + 2
  | .seq a b => a.size + b.size
  | .alt a b => a.size + b.size + 1
  | .rep least most _ e =>
    match most with
    | some most => least * e.size + (most - least) * (e.size + 1) + 1
    | none => (max least 1) * e.size + 2

/-- The sequence of expressions. -/
def ofSeq : List Expr → Expr
  | [] => .empty
  | [e] => e
  | e :: es => .seq e (ofSeq es)

end Expr

end TemplateImports.Pattern
