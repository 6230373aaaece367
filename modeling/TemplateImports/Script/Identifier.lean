import TemplateImports.Pattern.CharSet

/-!
# Characters of scripts

The characters that names, blanks and line ends of a script are made of.

Main results:

- Definitions `startsName` and `continuesName` are the characters of names.
- Theorem `continuesName_of_startsName` says that a character that starts a name may continue one.
-/

namespace TemplateImports.Script

open Pattern (CharSet categoryGroup inTable? categories)
open Text (inRanges)

/-! ## Names -/

/-- The characters beyond ASCII that may start a name. -/
def wideStarts : CharSet :=
  .diff
    (.union
      (.union (categoryGroup "l") ((inTable? categories "nl").getD .empty))
      (.ranges [(0x1885, 0x1886), (0x2118, 0x2118), (0x212E, 0x212E), (0x309B, 0x309C)]))
    (.single '\u2E2F')

/-- The characters beyond ASCII that may continue a name but not start one. -/
def wideContinuations : CharSet :=
  .union
    (Pattern.unions (["mn", "mc", "nd", "pc"].filterMap (inTable? categories)))
    (.ranges
      [(0xB7, 0xB7), (0x387, 0x387), (0x1369, 0x1371), (0x19DA, 0x19DA), (0x200C, 0x200D),
       (0x30FB, 0x30FB), (0xFF65, 0xFF65)])

/-- Whether a character may start a name. -/
def startsName (c : Char) : Bool :=
  if c.toNat < 0x80 then c.isAlpha || c == '$' || c == '_' else wideStarts.mem c

/-- Whether a character may continue a name. -/
def continuesName (c : Char) : Bool :=
  startsName c || (if c.toNat < 0x80 then c.isDigit else wideContinuations.mem c)

/-- A character that starts a name may continue one. -/
theorem continuesName_of_startsName {c : Char} (h : startsName c = true) :
    continuesName c = true := by
  simp [continuesName, h]

/-! ## Blanks -/

/-- Whether a character ends a line. -/
def endsLine (c : Char) : Bool :=
  c == '\n' || c == '\r' || c == '\u2028' || c == '\u2029'

/-- The code points of blanks within a line. -/
def blankRanges : List (Nat × Nat) :=
  [(0x9, 0x9), (0xB, 0xC), (0x20, 0x20), (0x85, 0x85), (0xA0, 0xA0), (0x1680, 0x1680),
   (0x2000, 0x200B), (0x202F, 0x202F), (0x205F, 0x205F), (0x3000, 0x3000), (0xFEFF, 0xFEFF)]

/-- Whether a character is a blank within a line. -/
def isBlank (c : Char) : Bool :=
  inRanges blankRanges c.toNat

end TemplateImports.Script
