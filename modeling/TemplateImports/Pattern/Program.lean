import TemplateImports.Pattern.Expr

/-!
# Programs of patterns

A pattern is carried out by a program of numbered steps.  An expression is unfolded from its end to
its start, so that each step knows the step that follows it; only the loop of a repetition points
back.  Of two ways to go on, one is preferred.

Main results:

- Definition `Expr.emit` unfolds an expression in front of a step.
- Definition `Program.ofExpr` is the program of an expression.
-/

namespace TemplateImports.Pattern

/-! ## Steps -/

/-- A step of a program. -/
inductive Step where
  | set (s : CharSet) (next : Nat)
  | condition (c : Condition) (next : Nat)
  /-- Goes on at the first step, or at the second one if that fails. -/
  | fork (first second : Nat)
  /-- Records the position, as one end of a group. -/
  | mark (slot next : Nat)
  | done
deriving Repr, DecidableEq, Inhabited

/-- Steps under construction, with the step that they start at. -/
structure Fragment where
  steps : Array Step
  start : Nat
deriving Repr

namespace Fragment

/-- Adds a step, which becomes the start. -/
def push (fragment : Fragment) (step : Step) : Fragment :=
  ⟨fragment.steps.push step, fragment.steps.size⟩

/-- The step that chooses between more of a repetition and what follows it. -/
def choice (greedy : Bool) (more enough : Nat) : Step :=
  if greedy then .fork more enough else .fork enough more

/-- Puts several copies of an expression in front of a fragment. -/
def copies (emit : Fragment → Fragment) : Nat → Fragment → Fragment
  | 0, fragment => fragment
  | n + 1, fragment => copies emit n (emit fragment)

/-- Puts optional copies in front of a fragment.  Each of them may be left out together with those
behind it. -/
def optionalCopies (emit : Fragment → Fragment) (greedy : Bool) (enough : Nat) :
    Nat → Fragment → Fragment
  | 0, fragment => fragment
  | n + 1, fragment =>
    let inner := emit (optionalCopies emit greedy enough n fragment)
    inner.push (choice greedy inner.start enough)

/-- The steps of an expression in a loop, with the number of the step that chooses between another
round and what follows. -/
def loop (emit : Fragment → Fragment) (greedy : Bool) (fragment : Fragment) : Fragment × Nat :=
  let back := fragment.steps.size
  let inner := emit (fragment.push .done)
  (⟨inner.steps.setIfInBounds back (choice greedy inner.start fragment.start), inner.start⟩, back)

/-- Repeats an expression that takes up text any number of times. -/
def star (emit : Fragment → Fragment) (greedy : Bool) (fragment : Fragment) : Fragment :=
  let (inner, back) := loop emit greedy fragment
  ⟨inner.steps, back⟩

/-- Repeats an expression at least once. -/
def plus (emit : Fragment → Fragment) (greedy : Bool) (fragment : Fragment) : Fragment :=
  (loop emit greedy fragment).1

end Fragment

/-! ## Unfolding -/

/-- Puts the steps of an expression in front of a fragment. -/
def Expr.emit : Expr → Fragment → Fragment
  | .empty, fragment => fragment
  | .set s, fragment => fragment.push (.set s fragment.start)
  | .condition c, fragment => fragment.push (.condition c fragment.start)
  | .group index e, fragment =>
    let inner := e.emit (fragment.push (.mark (2 * index + 1) fragment.start))
    inner.push (.mark (2 * index) inner.start)
  | .seq a b, fragment => a.emit (b.emit fragment)
  | .alt a b, fragment =>
    let first := a.emit fragment
    let second := b.emit ⟨first.steps, fragment.start⟩
    second.push (.fork first.start second.start)
  | .rep least most greedy e, fragment =>
    match least, most with
    | 0, none =>
      if e.isNullable then
        let inner := Fragment.plus e.emit greedy fragment
        inner.push (Fragment.choice greedy inner.start fragment.start)
      else Fragment.star e.emit greedy fragment
    | n + 1, none => Fragment.copies e.emit n (Fragment.plus e.emit greedy fragment)
    | n, some m =>
      Fragment.copies e.emit n
        (Fragment.optionalCopies e.emit greedy fragment.start (m - n) fragment)

/-! ## Programs -/

/-- A program, with the step that it starts at and the number of its slots. -/
structure Program where
  steps : Array Step
  start : Nat
  slots : Nat
deriving Repr

/-- The program of an expression with the given number of groups.  The whole match is group zero,
and the last step is the first one in the list. -/
def Program.ofExpr (e : Expr) (groups : Nat) : Program :=
  let fragment := (Expr.group 0 e).emit ⟨#[.done], 0⟩
  ⟨fragment.steps, fragment.start, 2 * (groups + 1)⟩

/-- The largest size of an expression that is unfolded. -/
def maxSize : Nat :=
  327680

end TemplateImports.Pattern
