import TemplateImports.Matching.Matcher
import TemplateImports.Pattern.Search

/-!
# Rules

A matcher written as a rule: a pattern that recognizes names, and two templates for the key and the
statement of the import.  A placeholder in braces stands for a spelling of the name, for the path of
the component, or for what a group of the pattern holds.  What is put in is not searched for
placeholders again.

Main results:

- Definition `expand` fills the placeholders of a template.
- Definition `Rule.matcher?` is the matcher of a rule, unless its pattern is malformed.
- Theorem `expandFrom_cons` says that all other text stands for itself.
-/

namespace TemplateImports

/-! ## Placeholders -/

/-- What a placeholder stands for. -/
inductive Placeholder where
  | raw
  | kebab
  | camel
  | path
  /-- What a group of the pattern holds. -/
  | group (index : Nat)
deriving Repr, DecidableEq

namespace Placeholder

/-- The placeholders with a name. -/
def named : List (String × Placeholder) :=
  [("raw", .raw), ("kebab", .kebab), ("camel", .camel), ("path", .path)]

/-- The placeholder with the given name. -/
def ofName? (name : List Char) : Option Placeholder :=
  match name with
  | [c] => if c.isDigit then some (.group (c.toNat - 48)) else none
  | _ => named.lookup (String.ofList name)

/-- Reads a placeholder at the start of a text, with the number of its characters. -/
def read? : List Char → Option (Placeholder × Nat)
  | '\x7b' :: cs =>
    let name := (cs.take 6).takeWhile (· != '\x7d')
    if (cs.drop name.length).head? == some '\x7d' then
      (ofName? name).map fun p => (p, name.length + 2)
    else none
  | _ => none

/-- The value of a placeholder for a used name, given what the groups hold. -/
def value (u : NameUse) (groups : List (Option String)) : Placeholder → String
  | .raw => u.name
  | .kebab => u.kebab
  | .camel => u.camel
  | .path => u.path
  | .group index => (groups[index]?.getD none).getD ""

end Placeholder

/-! ## Templates -/

/-- Fills the placeholders of a text; `skip` counts the characters of the last one that are yet to
be passed over. -/
def expandFrom (value : Placeholder → String) : Nat → List Char → List Char
  | _, [] => []
  | skip + 1, _ :: cs => expandFrom value skip cs
  | 0, c :: cs =>
    match Placeholder.read? (c :: cs) with
    | some (p, length) => (value p).toList ++ expandFrom value (length - 1) cs
    | none => c :: expandFrom value 0 cs

/-- Fills the placeholders of a template. -/
def expand (value : Placeholder → String) (template : String) : String :=
  String.ofList (expandFrom value 0 template.toList)

/-- A character that starts no placeholder stands for itself. -/
theorem expandFrom_cons {value : Placeholder → String} {c : Char} {cs : List Char}
    (h : Placeholder.read? (c :: cs) = none) :
    expandFrom value 0 (c :: cs) = c :: expandFrom value 0 cs := by
  simp [expandFrom, h]

/-! ## Rules -/

/-- A rule. -/
structure Rule where
  pattern : String
  key : String := "\x7bcamel\x7d"
  statement : String
deriving Repr, DecidableEq

namespace Rule

/-- The matcher of a rule with its pattern read. -/
def matcherOf (rule : Rule) (pattern : Pattern) : Matcher := fun u =>
  (pattern.captures? u.name).map fun groups =>
    ⟨expand (Placeholder.value u groups) rule.key,
      expand (Placeholder.value u groups) rule.statement⟩

/-- The matcher of a rule, unless its pattern is malformed. -/
def matcher? (rule : Rule) : Option Matcher :=
  (Pattern.compile? rule.pattern).map rule.matcherOf

end Rule

end TemplateImports
