import TemplateImports.Script.Expressions
import TemplateImports.Script.Members
import TemplateImports.Script.Statements
import TemplateImports.Text.Offset

/-!
# Scripts

Reads a script in the module form of JavaScript.  Of a script its comments are kept and the names
that its imports declare; everything else only has to be well-formed.

Main results:

- Definition `Script.read?` reads a script, unless it is malformed.
- Definition `Script.importedNames?` lists the names that its imports declare.
- Theorem `grammar_succ` unfolds the grammar by one phrase.
-/

namespace TemplateImports

open Text

namespace Script

/-! ## The grammar -/

/-- The rule for a phrase. -/
def rule : Goal → Rule
  | .expression => expressionRule
  | .assignment => assignmentRule
  | .binary least => binaryRule least
  | .binaryRest least left => binaryRestRule least left
  | .unary => unaryRule
  | .leftSide => leftSideRule
  | .primary => primaryRule
  | .suffix calls base => suffixRule calls base
  | .arguments items => argumentsRule items
  | .group items => groupRule items
  | .arrayItems items => arrayItemsRule items
  | .objectItems items => objectItemsRule items
  | .template isTagged => templateRule isTagged
  | .arrowBody isAsync => arrowBodyRule isAsync
  | .function isAsync isGenerator => functionRule isAsync isGenerator
  | .parameters items => parametersRule items
  | .classRest => classRestRule
  | .classItems => classItemsRule
  | .decorators => decoratorsRule
  | .binding => bindingRule
  | .arrayPattern items => arrayPatternRule items
  | .objectPattern items => objectPatternRule items
  | .statement isAlone => statementRule isAlone
  | .statements => statementsRule
  | .declarators items => declaratorsRule items
  | .cases => casesRule

/-- Reads phrases that are nested at most `n` times. -/
def grammar : Nat → Reader
  | 0 => fun _ _ _ => none
  | n + 1 => fun x goal c => rule goal (grammar n) x c

/-- A phrase is read by its rule. -/
theorem grammar_succ (n : Nat) (x : Context) (goal : Goal) (c : Cursor) :
    grammar (n + 1) x goal c = rule goal (grammar n) x c := rfl

/-- How deep the phrases of a text can be nested: no character opens more than a few of them. -/
def depthOf (cs : List Char) : Nat :=
  16 * cs.length + 64

end Script

/-! ## Whole scripts -/

/-- A script. -/
structure Script where
  /-- The comments in order, each as the text of the script from its start on. -/
  comments : List (List Char)
  /-- The names that imports declare, in order. -/
  imported : List (List Char)
  /-- The names under which values are handed out, in order. -/
  exported : List (List Char)
deriving Repr, DecidableEq

namespace Script

/-- Reads an item of a script: the names that it imports and those that it exports. -/
def readItem? (read : Reader) (c : Cursor) :
    Option (List (List Char) × List (List Char) × Cursor) :=
  if c.isAtWord .import_ && !(c.next.isAt .openParen || c.next.isAt .dot) then
    (readImport .top c.next).map fun (names, c) => (names, [], c)
  else if c.isAtWord .export_ then
    (readExport read .top c.next).map fun (names, c) => ([], names, c)
  else (read .top (.statement false) c).map fun (_, c) => ([], [], c)

/-- Reads the items of a script up to its end; `n` bounds their number.  No shorthand member with an
initial value may remain outside of a pattern. -/
def readItems? (read : Reader) : Nat → Cursor → Option Script
  | 0, _ => none
  | n + 1, c =>
    if c.token == .finish then
      if c.pending == 0 then some ⟨c.comments.reverse, [], []⟩ else none
    else
      match readItem? read c with
      | none => none
      | some (imported, exported, c) =>
        (readItems? read n c).map fun s =>
          { s with imported := imported ++ s.imported, exported := exported ++ s.exported }

/-- Reads a script.  No name may be exported twice. -/
def read? (source : List Char) : Option Script :=
  match readItems? (grammar (depthOf source)) (source.length + 1) (Cursor.start source) with
  | some s => if s.exported.eraseDups.length == s.exported.length then some s else none
  | none => none

/-- The offset at which the end of a text starts. -/
def offsetOfEnd (source ending : List Char) : Nat :=
  byteSize source - byteSize ending

/-- The names that the imports of a text declare, unless it is no script. -/
def importedNames? (source : String) : Option (List String) :=
  (read? source.toList).map fun s => s.imported.map String.ofList

end Script

end TemplateImports
