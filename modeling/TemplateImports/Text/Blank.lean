import TemplateImports.Text.CodeRange

/-!
# Blank characters

White space of every script, as template texts and component attributes use it, with the trimming
and splitting that follow from it.  Markup has a narrower class of its own, the five ASCII blanks
`isAsciiBlank`.

Main results:

- Theorem `isBlank_of_isAsciiBlank` shows that the ASCII blanks are blanks.
- Definitions `trimEnd` and `splitBlank` cut at blanks.
-/

namespace TemplateImports.Text

/-! ## The two classes -/

/-- The code points of white space, as ascending closed ranges. -/
def blankRanges : List (Nat × Nat) :=
  [(0x9, 0xD), (0x20, 0x20), (0x85, 0x85), (0xA0, 0xA0), (0x1680, 0x1680), (0x2000, 0x200A),
   (0x2028, 0x2029), (0x202F, 0x202F), (0x205F, 0x205F), (0x3000, 0x3000)]

/-- White space of any script. -/
def isBlank (c : Char) : Bool :=
  inRanges blankRanges c.toNat

/-- The blanks of markup: tab, line feed, form feed, carriage return and space. -/
def isAsciiBlank (c : Char) : Bool :=
  c == ' ' || c == '\n' || c == '\t' || c == '\r' || c == '\x0c'

/-- Every ASCII blank is a blank. -/
theorem isBlank_of_isAsciiBlank {c : Char} (h : isAsciiBlank c = true) : isBlank c = true := by
  simp only [isAsciiBlank, Bool.or_eq_true, beq_iff_eq] at h
  rcases h with (((h | h) | h) | h) | h <;> subst h <;> decide

/-! ## Trimming and splitting -/

/-- The text without its trailing blanks. -/
def trimEnd (cs : List Char) : List Char :=
  (cs.reverse.dropWhile isBlank).reverse

/-- Whether a text holds blanks only. -/
def allBlank (cs : List Char) : Bool :=
  cs.all isBlank

/-- The maximal runs of characters that are not blank, in order. -/
def splitBlank : List Char → List (List Char)
  | [] => []
  | c :: cs =>
    if isBlank c then splitBlank cs
    else match cs with
      | [] => [[c]]
      | d :: _ =>
        if isBlank d then [c] :: splitBlank cs
        else match splitBlank cs with
          | [] => [[c]]
          | word :: words => (c :: word) :: words

end TemplateImports.Text
