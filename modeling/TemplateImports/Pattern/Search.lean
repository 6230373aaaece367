import TemplateImports.Pattern.Program
import TemplateImports.Pattern.Reader

/-!
# Searching with patterns

Finds the first place in a text where a pattern matches and, among the ways to match there, the
preferred one.  The search goes back to the last choice when it fails.  A step that failed at a
position fails there always, however it is reached, so that each pair of a step and a position is
tried once only.

Main results:

- Definition `Pattern.compile?` reads a pattern.
- Definition `Pattern.captures?` searches a text and returns what each group holds.
-/

namespace TemplateImports

open Text

namespace Pattern

/-! ## Conditions -/

/-- The character before a position. -/
def before? (text : Array Char) (at_ : Nat) : Option Char :=
  if at_ = 0 then none else text[at_ - 1]?

/-- Whether there is a word character. -/
def holdsWord (wide : Bool) (c : Option Char) : Bool :=
  match c with
  | some c => if wide then isWord c else isAsciiWord c
  | none => false

/-- Whether a condition holds at a position of a text. -/
def Condition.holds (c : Condition) (text : Array Char) (at_ : Nat) : Bool :=
  let before := before? text at_
  let after := text[at_]?
  match c with
  | .textStart => at_ == 0
  | .textEnd => at_ == text.size
  | .lineStart => at_ == 0 || before == some '\n'
  | .lineEnd => at_ == text.size || after == some '\n'
  | .wideLineStart =>
    at_ == 0 || before == some '\n' || (before == some '\r' && after != some '\n')
  | .wideLineEnd =>
    at_ == text.size || after == some '\r' || (after == some '\n' && before != some '\r')
  | .wordBorder wide => holdsWord wide before != holdsWord wide after
  | .noWordBorder wide => holdsWord wide before == holdsWord wide after
  | .wordStart wide => !holdsWord wide before && holdsWord wide after
  | .wordEnd wide => holdsWord wide before && !holdsWord wide after
  | .wordStartHalf wide => !holdsWord wide before
  | .wordEndHalf wide => !holdsWord wide after

/-! ## Search -/

/-- A way to go on: a step, a position, and the ends of groups recorded so far. -/
structure Thread where
  step : Nat
  position : Nat
  ends : Array (Option Nat)

/-- The ways to go on after a step that is tried, or the ends of the groups if it is the last. -/
def Thread.advance (steps : Array Step) (text : Array Char) (t : Thread) :
    List Thread ⊕ Array (Option Nat) :=
  match steps[t.step]? with
  | none => .inl []
  | some .done => .inr t.ends
  | some (.set s next) =>
    match text[t.position]? with
    | some c => .inl (if s.mem c then [{ t with step := next, position := t.position + 1 }] else [])
    | none => .inl []
  | some (.condition c next) =>
    .inl (if c.holds text t.position then [{ t with step := next }] else [])
  | some (.fork first second) => .inl [{ t with step := first }, { t with step := second }]
  | some (.mark slot next) =>
    .inl [{ t with step := next, ends := t.ends.setIfInBounds slot (some t.position) }]

/-- Tries threads in order, each pair of a step and a position once; `tried` tells which pairs
were, and `n` bounds the number of threads. -/
def explore (steps : Array Step) (text : Array Char) :
    Nat → List Thread → Array Bool → Option (Array (Option Nat)) × Array Bool
  | 0, _, tried => (none, tried)
  | _ + 1, [], tried => (none, tried)
  | n + 1, t :: threads, tried =>
    let pair := t.position * steps.size + t.step
    if tried[pair]?.getD true then explore steps text n threads tried
    else
      match t.advance steps text with
      | .inr ends => (some ends, tried)
      | .inl next => explore steps text n (next ++ threads) (tried.setIfInBounds pair true)

/-- Tries the positions of a text from `start` on, `n` of them. -/
def searchFrom (program : Program) (text : Array Char) (start : Nat) :
    Nat → Array Bool → Option (Array (Option Nat))
  | 0, _ => none
  | n + 1, tried =>
    let thread := ⟨program.start, start, Array.replicate program.slots none⟩
    match explore program.steps text (2 * tried.size + 2) [thread] tried with
    | (some ends, _) => some ends
    | (none, tried) => searchFrom program text (start + 1) n tried

/-- The ends of the groups of the first match in a text. -/
def search (program : Program) (text : Array Char) : Option (Array (Option Nat)) :=
  searchFrom program text 0 (text.size + 1)
    (Array.replicate (program.steps.size * (text.size + 1)) false)

end Pattern

/-! ## Patterns -/

/-- A pattern that was read, with its program. -/
structure Pattern where
  source : String
  program : Pattern.Program
deriving Repr

namespace Pattern

/-- Reads a pattern, unless it is malformed or too large.

A pattern with a property that `named?` or `valued?` does not know counts as malformed.  Its size is
the number of its steps, and there is no bound on how deep its groups are nested; where the bound is
on the memory of the program or on the nesting, patterns of more than 250 levels, and of about
`maxSize` steps, may be judged differently. -/
def compile? (source : String) : Option Pattern :=
  match Reader.read? source.toList with
  | some (e, groups) =>
    if e.size ≤ maxSize then some ⟨source, Program.ofExpr e groups⟩ else none
  | none => none

/-- What the groups hold in the first match of a text, the whole match first; a group that took no
part holds nothing. -/
def captures? (p : Pattern) (text : String) : Option (List (Option String)) :=
  let cs := text.toList.toArray
  (search p.program cs).map fun ends =>
    (List.range (ends.size / 2)).map fun index =>
      match ends[2 * index]?.getD none, ends[2 * index + 1]?.getD none with
      | some first, some last => some (String.ofList (cs.extract first last).toList)
      | _, _ => none

end Pattern

end TemplateImports
