import TemplateImports.Markup.Element

/-!
# Foreign content

Names of graphics and mathematics are case-sensitive, while tags are read in lower case.  This
module restores the registered spellings, and drops the qualifiers of the attributes that belong
to a linking or language vocabulary: `xlink:href` is kept as `href`.

Main results:

- Definition `graphicsLabel` restores an element label of graphics.
- Definitions `graphicsAttribute`, `mathAttribute` and `unqualifiedAttribute` restore attribute
  names.
-/

namespace TemplateImports.Markup.Foreign

/-! ## Registered spellings -/

/-- Element labels of graphics that hold capitals. -/
def graphicsLabels : List String :=
  ["altGlyph", "altGlyphDef", "altGlyphItem", "animateColor", "animateMotion",
   "animateTransform", "clipPath", "feBlend", "feColorMatrix", "feComponentTransfer",
   "feComposite", "feConvolveMatrix", "feDiffuseLighting", "feDisplacementMap",
   "feDistantLight", "feDropShadow", "feFlood", "feFuncA", "feFuncB", "feFuncG", "feFuncR",
   "feGaussianBlur", "feImage", "feMerge", "feMergeNode", "feMorphology", "feOffset",
   "fePointLight", "feSpecularLighting", "feSpotLight", "feTile", "feTurbulence",
   "foreignObject", "glyphRef", "linearGradient", "radialGradient", "textPath"]

/-- Attribute names of graphics that hold capitals. -/
def graphicsAttributes : List String :=
  ["attributeName", "attributeType", "baseFrequency", "baseProfile", "calcMode",
   "clipPathUnits", "diffuseConstant", "edgeMode", "filterUnits", "glyphRef",
   "gradientTransform", "gradientUnits", "kernelMatrix", "kernelUnitLength", "keyPoints",
   "keySplines", "keyTimes", "lengthAdjust", "limitingConeAngle", "markerHeight", "markerUnits",
   "markerWidth", "maskContentUnits", "maskUnits", "numOctaves", "pathLength",
   "patternContentUnits", "patternTransform", "patternUnits", "pointsAtX", "pointsAtY",
   "pointsAtZ", "preserveAlpha", "preserveAspectRatio", "primitiveUnits", "refX", "refY",
   "repeatCount", "repeatDur", "requiredExtensions", "requiredFeatures", "specularConstant",
   "specularExponent", "spreadMethod", "startOffset", "stdDeviation", "stitchTiles",
   "surfaceScale", "systemLanguage", "tableValues", "targetX", "targetY", "textLength",
   "viewBox", "viewTarget", "xChannelSelector", "yChannelSelector", "zoomAndPan"]

/-- Attribute names that carry a qualifier, with their unqualified names. -/
def qualifiedAttributes : List (String × String) :=
  [("xlink:actuate", "actuate"), ("xlink:arcrole", "arcrole"), ("xlink:href", "href"),
   ("xlink:role", "role"), ("xlink:show", "show"), ("xlink:title", "title"),
   ("xlink:type", "type"), ("xml:lang", "lang"), ("xml:space", "space"),
   ("xmlns:xlink", "xlink")]

/-! ## Restoring names -/

/-- The spelling of the list that agrees with a name up to letter case. -/
def respell (spellings : List String) (name : String) : String :=
  (spellings.find? (·.toLower == name)).getD name

/-- The registered element label of graphics. -/
def graphicsLabel (label : String) : String :=
  respell graphicsLabels label

/-- The registered attribute name of graphics. -/
def graphicsAttribute (a : Attribute) : Attribute :=
  { a with name := respell graphicsAttributes a.name }

/-- The registered attribute name of mathematics. -/
def mathAttribute (a : Attribute) : Attribute :=
  { a with name := respell ["definitionURL"] a.name }

/-- The attribute without its qualifier. -/
def unqualifiedAttribute (a : Attribute) : Attribute :=
  { a with name := (qualifiedAttributes.lookup a.name).getD a.name }

/-- The attributes of a start tag as an element of the given vocabulary carries them. -/
def attributesIn (space : Namespace) (attributes : List Attribute) : List Attribute :=
  match space with
  | .html => attributes
  | .svg => attributes.map (unqualifiedAttribute ∘ graphicsAttribute)
  | .mathml => attributes.map (unqualifiedAttribute ∘ mathAttribute)

end TemplateImports.Markup.Foreign
