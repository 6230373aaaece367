/-!
# Elements of markup

Element names with their namespaces, attributes, and the classes of names that drive the
construction of a document: void and special elements, the boundaries of each scope, the elements
whose end tags may be implied, and the points where foreign content admits ordinary markup again.

Main results:

- Definitions `isSpecial`, `defaultScope`, `buttonScope`, `listItemScope`, `tableScope` and
  `selectScope` are the name classes that scope checks consult.
-/

namespace TemplateImports.Markup

/-! ## Names -/

/-- The vocabulary that an element name belongs to. -/
inductive Namespace where
  | html
  | svg
  | mathml
deriving Repr, DecidableEq

/-- The name of an element. -/
structure ElementName where
  space : Namespace
  label : String
deriving Repr, DecidableEq

/-- A name of ordinary markup. -/
abbrev ElementName.html (label : String) : ElementName :=
  ⟨.html, label⟩

/-- Whether a name is the ordinary one with the given label. -/
def ElementName.isHtml (name : ElementName) (label : String) : Bool :=
  name.space == .html && name.label == label

/-- Whether a name is an ordinary one with a label of the list. -/
def ElementName.isOneOf (name : ElementName) (labels : List String) : Bool :=
  name.space == .html && labels.contains name.label

/-- An attribute of a start tag. -/
structure Attribute where
  name : String
  value : String
deriving Repr, DecidableEq

/-- The value of the first attribute with the given name. -/
def attribute? (attributes : List Attribute) (name : String) : Option String :=
  (attributes.find? (·.name == name)).map (·.value)

/-! ## Classes of labels -/

/-- Labels of the table parts that hold no text of their own. -/
def tableStructure : List String :=
  ["table", "tbody", "tfoot", "thead", "tr"]

/-- Labels of headings. -/
def headings : List String :=
  ["h1", "h2", "h3", "h4", "h5", "h6"]

/-- Labels of elements whose end tag may be left out before another end tag. -/
def impliedEnds : List String :=
  ["dd", "dt", "li", "option", "optgroup", "p", "rb", "rp", "rt", "rtc"]

/-- Labels of elements that the end of a template closes silently. -/
def thoroughImpliedEnds : List String :=
  impliedEnds ++ ["caption", "colgroup", "tbody", "td", "tfoot", "th", "thead", "tr"]

/-- Labels with parsing rules of their own. -/
def specialLabels : List String :=
  ["address", "applet", "area", "article", "aside", "base", "basefont", "bgsound", "blockquote",
   "body", "br", "button", "caption", "center", "col", "colgroup", "dd", "details", "dir", "div",
   "dl", "dt", "embed", "fieldset", "figcaption", "figure", "footer", "form", "frame", "frameset",
   "h1", "h2", "h3", "h4", "h5", "h6", "head", "header", "hgroup", "hr", "html", "iframe", "img",
   "input", "isindex", "li", "link", "listing", "main", "marquee", "menu", "meta", "nav",
   "noembed", "noframes", "noscript", "object", "ol", "p", "param", "plaintext", "pre", "script",
   "section", "select", "source", "style", "summary", "table", "tbody", "td", "template",
   "textarea", "tfoot", "th", "thead", "title", "tr", "track", "ul", "wbr", "xmp"]

/-! ## Classes of names -/

/-- An element with parsing rules of its own. -/
def isSpecial (name : ElementName) : Bool :=
  name.isOneOf specialLabels

/-- An element of mathematics whose content is ordinary text. -/
def isMathTextPoint (name : ElementName) : Bool :=
  name.space == .mathml && ["mi", "mo", "mn", "ms", "mtext"].contains name.label

/-- An element of graphics whose content is ordinary markup. -/
def isGraphicsMarkupPoint (name : ElementName) : Bool :=
  name.space == .svg && ["foreignObject", "desc", "title"].contains name.label

/-- The boundary of the ordinary scope. -/
def defaultScope (name : ElementName) : Bool :=
  name.isOneOf
      ["applet", "caption", "html", "table", "td", "th", "marquee", "object", "template"] ||
    isMathTextPoint name || isGraphicsMarkupPoint name

/-- The boundary of the scope of list items. -/
def listItemScope (name : ElementName) : Bool :=
  defaultScope name || name.isOneOf ["ol", "ul"]

/-- The boundary of the scope of buttons. -/
def buttonScope (name : ElementName) : Bool :=
  defaultScope name || name.isHtml "button"

/-- The boundary of the scope of tables. -/
def tableScope (name : ElementName) : Bool :=
  name.isOneOf ["html", "table", "template"]

/-- The boundary of the scope of selections. -/
def selectScope (name : ElementName) : Bool :=
  !name.isOneOf ["optgroup", "option"]

/-- The elements that a table body may stand in. -/
def tableBodyContext (name : ElementName) : Bool :=
  name.isOneOf ["tbody", "tfoot", "thead", "template", "html"]

/-- The elements that a table row may stand in. -/
def tableRowContext (name : ElementName) : Bool :=
  name.isOneOf ["tr", "template", "html"]

end TemplateImports.Markup
