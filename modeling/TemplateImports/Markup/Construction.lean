import TemplateImports.Markup.Construction.Modes

/-!
# Construction of a document

A text is read token by token, and each token changes the state of the construction.  The content
mode that a token leaves behind says how the rest of the text is cut.  A token may be looked at in
several modes before it is used up; each look but a few closes an element.

Main results:

- Definition `Builder.accept` handles one token; definition `Builder.build` handles a text.
- Definition `Document.parse` is the document that a text stands for.
- Theorem `build_nil` and theorem `build_cons` unfold the construction by one reading step.
-/

namespace TemplateImports.Markup

open Text

namespace Builder

/-! ## One token -/

/-- Handles a token by the rules of the current mode. -/
def stepOrdinary (b : Builder) (token : Token) : Step :=
  match b.mode with
  | .initial => b.initial token
  | .beforeHtml => b.beforeHtml token
  | .beforeHead => b.beforeHead token
  | .inHead => b.inHead token
  | .afterHead => b.afterHead token
  | .inBody => b.inBody token
  | .text => b.inText token
  | .inTable => b.inTable token
  | .inTableText => b.inTableText token
  | .inCaption => b.inCaption token
  | .inColumnGroup => b.inColumnGroup token
  | .inTableBody => b.inTableBody token
  | .inRow => b.inRow token
  | .inCell => b.inCell token
  | .inSelect => b.inSelect token
  | .inSelectInTable => b.inSelectInTable token
  | .inTemplate => b.inTemplate token
  | .afterBody => b.afterBody token
  | .inFrameset => b.inFrameset token
  | .afterFrameset => b.afterFrameset token
  | .afterAfterBody => b.afterAfterBody token
  | .afterAfterFrameset => b.afterAfterFrameset token

/-- The vocabulary of the innermost element. -/
def currentSpace (b : Builder) : Namespace :=
  (b.stack.head?.map (·.name.space)).getD .html

/-- Handles a token of foreign content. -/
def stepForeign (b : Builder) (token : Token) : Step :=
  match token with
  | .nul => .done (b.insertText ['\uFFFD'])
  | .text cs => .done ((if cs.all isAsciiBlank then b else b.forbidFrameset).insertText cs)
  | .comment value => .done (b.insertComment value)
  | .startTag tag =>
    if breaksOut tag then .again b.leaveForeign
    else
      let space := b.currentSpace
      let label := if space == .svg then Foreign.graphicsLabel tag.name else tag.name
      .done (b.openForeign space label tag)
  | .endTag tag =>
    match endForeign tag.name true b.stack with
    | .closes stack => .done { b with stack }
    | .ordinary => b.stepOrdinary token
    | .nothing => .done b
  | _ => .done b

/-- Handles a token once. -/
def step (b : Builder) (token : Token) : Step :=
  if b.isForeign token then b.stepForeign token else b.stepOrdinary token

/-- Handles a token until it is used up, looking at it at most `n` times. -/
def process : Nat → Builder → Token → Builder
  | 0, b, _ => b
  | n + 1, b, token =>
    match b.step token with
    | .done b => b
    | .again b => process n b token

/-- More looks than a token can need: every look that closes nothing leads to a later mode. -/
def looks (b : Builder) : Nat :=
  64 + 4 * b.stack.length

/-- Handles a token.  A line feed right after certain start tags does not count. -/
def accept (b : Builder) (token : Token) : Builder :=
  let skips := b.skipsNewline
  let b := { b with skipsNewline := false }
  match token with
  | .doctype d =>
    if b.mode == .initial then
      { b with
        document := b.document ++ [.doctype d]
        quirky := d.isQuirky
        mode := .beforeHtml }
    else b
  | .text cs =>
    let cs := if skips && cs.head? == some '\n' then cs.drop 1 else cs
    if cs.isEmpty then b else process b.looks b (.text cs)
  | _ => process b.looks b token

/-! ## A text -/

/-- Whether literal text is admitted: inside another vocabulary. -/
def admitsLiteral (b : Builder) : Bool :=
  b.currentSpace != .html

/-- Handles a text and its end. -/
def build (b : Builder) (cs : List Char) : Builder :=
  if _h : cs = [] then b.accept .eof
  else
    let lexed := Token.next b.content b.admitsLiteral cs
    build (lexed.1.foldl accept b) lexed.2
termination_by cs.length
decreasing_by exact Token.length_next_lt _h

theorem build_nil (b : Builder) : b.build [] = b.accept .eof := by
  rw [build]
  simp

theorem build_cons (b : Builder) (c : Char) (cs : List Char) :
    b.build (c :: cs) =
      ((Token.next b.content b.admitsLiteral (c :: cs)).1.foldl accept b).build
        (Token.next b.content b.admitsLiteral (c :: cs)).2 := by
  rw [build]
  simp

end Builder

/-! ## Documents -/

/-- The text without a byte order mark at its start. -/
def dropByteOrderMark : List Char → List Char
  | '\uFEFF' :: cs => cs
  | cs => cs

/-- The document that a text stands for. -/
def Document.parse (text : List Char) : Document :=
  (Builder.build {} (normalizeNewlines (dropByteOrderMark text))).document

end TemplateImports.Markup
