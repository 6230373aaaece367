import TemplateImports.Text.LetterCase
import TemplateImports.Text.WordChar

/-!
# Name casing

A component is used as `v-list-item`, `VListItem` or `vListItem`.  This module converts between the
three spellings, character by character.  Only ASCII upper-case letters start a new word, so a name
that is already in kebab case is left as it is, up to lower case.

Main results:

- Definitions `hyphenate`, `camelize`, `capitalize` and `pascalize` are the four conversions.
- Theorems `toList_hyphenate`, `toList_camelize` and `toList_capitalize` reduce them to their
  characters.
-/

namespace TemplateImports.Casing

open Text

/-! ## Conversions of characters -/

/-- Lower case, with a dash before each ASCII capital that follows a word character. -/
def hyphenateAfter (afterWord : Bool) : List Char → List Char
  | [] => []
  | c :: cs =>
    (if c.isUpper && afterWord then ['-'] else []) ++ lower c ++ hyphenateAfter (isAsciiWord c) cs

/-- Removes each dash before a word character and puts that character in upper case. -/
def camelizeChars : List Char → List Char
  | '-' :: c :: cs =>
    if isAsciiWord c then upper c ++ camelizeChars cs else '-' :: camelizeChars (c :: cs)
  | c :: cs => c :: camelizeChars cs
  | [] => []

/-- Puts the first character in upper case. -/
def capitalizeChars : List Char → List Char
  | [] => []
  | c :: cs => upper c ++ cs

/-! ## Conversions of names -/

/-- The kebab-case spelling of a name. -/
def hyphenate (name : String) : String :=
  String.ofList (hyphenateAfter false name.toList)

/-- The camel-case spelling of a kebab-case name. -/
def camelize (name : String) : String :=
  String.ofList (camelizeChars name.toList)

/-- The name with its first character in upper case. -/
def capitalize (name : String) : String :=
  String.ofList (capitalizeChars name.toList)

/-- The Pascal-case spelling of a name. -/
def pascalize (name : String) : String :=
  capitalize (camelize name)

@[simp] theorem toList_hyphenate (name : String) :
    (hyphenate name).toList = hyphenateAfter false name.toList := by
  simp [hyphenate]

@[simp] theorem toList_camelize (name : String) :
    (camelize name).toList = camelizeChars name.toList := by
  simp [camelize]

@[simp] theorem toList_capitalize (name : String) :
    (capitalize name).toList = capitalizeChars name.toList := by
  simp [capitalize]

end TemplateImports.Casing
