import TemplateImports.Markup.ReferenceTable

/-!
# Character references

`&amp;`, `&#8594;` and `&#x2192;` stand for characters.  A reference is read right after its
ampersand.  The longest name of the table wins, and a few old names may stand without their
semicolon.  Inside an attribute value such a bare name counts only if neither a letter, a digit nor
an equals sign follows it, so that addresses keep their parameters.

Main results:

- Definition `read?` reads one reference; definition `decodeValue` decodes an attribute value.
- Theorem `length_read?_le` says that reading a reference never lengthens the text.
- Theorem `decodeValue_of_no_ampersand` says that text without an ampersand stands for itself.
-/

namespace TemplateImports.Markup.Reference

/-- A value that a reference stands for, with the text that follows the reference. -/
structure Reading where
  characters : List Char
  rest : List Char
deriving Repr, DecidableEq

/-! ## Numbers -/

/-- The characters that references to the control codes from 128 to 159 stand for. -/
def controlReplacements : List Nat :=
  [0x20AC, 0x81, 0x201A, 0x192, 0x201E, 0x2026, 0x2020, 0x2021, 0x2C6, 0x2030, 0x160, 0x2039,
   0x152, 0x8D, 0x17D, 0x8F, 0x90, 0x2018, 0x2019, 0x201C, 0x201D, 0x2022, 0x2013, 0x2014, 0x2DC,
   0x2122, 0x161, 0x203A, 0x153, 0x9D, 0x17E, 0x178]

/-- The character that a numeric reference stands for.  Zero, surrogates and numbers past the last
code point stand for the replacement character. -/
def numbered (n : Nat) : Char :=
  if n = 0 ∨ 0x10FFFF < n ∨ (0xD800 ≤ n ∧ n ≤ 0xDFFF) then '\uFFFD'
  else if 0x80 ≤ n ∧ n ≤ 0x9F then Char.ofNat (controlReplacements.getD (n - 0x80) n)
  else Char.ofNat n

/-- Whether a character is a hexadecimal digit. -/
def isHexDigit (c : Char) : Bool :=
  c.isDigit || ('a' ≤ c && c ≤ 'f') || ('A' ≤ c && c ≤ 'F')

/-- The number that digits of a base denote. -/
def number (base : Nat) (digits : List Char) : Nat :=
  digits.foldl (fun n c => n * base + hexValue c.toLower) 0

/-- The text without the semicolon that closes a reference. -/
def dropSemicolon : List Char → List Char
  | ';' :: cs => cs
  | cs => cs

/-- Reads digits of a base and the semicolon after them, if there is a digit. -/
def readNumber? (base : Nat) (isBaseDigit : Char → Bool) (cs : List Char) : Option Reading :=
  match cs.takeWhile isBaseDigit with
  | [] => none
  | digits => some ⟨[numbered (number base digits)], dropSemicolon (cs.dropWhile isBaseDigit)⟩

/-! ## Names -/

/-- The number of characters that an entry covers at the start of a text: its name, and the
semicolon where there is one; zero if it covers none. -/
def coverage (entry : Named) (cs : List Char) : Nat :=
  if entry.name.isPrefixOf cs then
    if cs[entry.name.length]? == some ';' then entry.name.length + 1
    else if entry.bare then entry.name.length else 0
  else 0

/-- The entry that covers most of the start of a text, with its coverage. -/
def longest? (cs : List Char) : Option (Named × Nat) :=
  named.foldl (fun best entry =>
    let n := coverage entry cs
    if n = 0 then best
    else match best with
      | some (_, m) => if m < n then some (entry, n) else best
      | none => some (entry, n)) none

/-- Whether a bare name inside an attribute value is plain text because of what follows it. -/
def staysText (cs : List Char) (covered : Nat) : Bool :=
  cs[covered - 1]? != some ';' &&
    match cs[covered]? with
    | some c => c == '=' || c.isAlphanum
    | none => false

/-- The reading that an entry with its coverage gives. -/
def covering? (inValue : Bool) (cs : List Char) : Option (Named × Nat) → Option Reading
  | none => none
  | some (entry, covered) =>
    if inValue && staysText cs covered then none else some ⟨entry.characters, cs.drop covered⟩

/-- Reads a name. -/
def readName? (inValue : Bool) (cs : List Char) : Option Reading :=
  covering? inValue cs (longest? cs)

/-! ## References -/

/-- Reads a reference from the text after its ampersand. -/
def read? (inValue : Bool) : List Char → Option Reading
  | '#' :: 'x' :: cs => readNumber? 16 isHexDigit cs
  | '#' :: 'X' :: cs => readNumber? 16 isHexDigit cs
  | '#' :: cs => readNumber? 10 Char.isDigit cs
  | cs => if (cs.head?.map Char.isAlphanum).getD false then readName? inValue cs else none

theorem length_dropSemicolon_le (cs : List Char) : (dropSemicolon cs).length ≤ cs.length := by
  unfold dropSemicolon
  split <;> simp

theorem length_readNumber?_le {base : Nat} {isBaseDigit : Char → Bool} {cs : List Char}
    {r : Reading} (h : readNumber? base isBaseDigit cs = some r) : r.rest.length ≤ cs.length := by
  unfold readNumber? at h
  split at h
  · simp at h
  · simp only [Option.some.injEq] at h
    subst h
    exact Nat.le_trans (length_dropSemicolon_le _) (List.dropWhile_sublist _).length_le

theorem length_covering?_le {inValue : Bool} {cs : List Char} {found : Option (Named × Nat)}
    {r : Reading} (h : covering? inValue cs found = some r) : r.rest.length ≤ cs.length := by
  unfold covering? at h
  split at h
  · simp at h
  · split at h
    · simp at h
    · simp only [Option.some.injEq] at h
      subst h
      simp

/-- Reading a reference never lengthens the text. -/
theorem length_read?_le {inValue : Bool} {cs : List Char} {r : Reading}
    (h : read? inValue cs = some r) : r.rest.length ≤ cs.length := by
  unfold read? at h
  split at h
  · exact Nat.le_trans (length_readNumber?_le h) (by simp; omega)
  · exact Nat.le_trans (length_readNumber?_le h) (by simp; omega)
  · exact Nat.le_trans (length_readNumber?_le h) (by simp)
  · split at h
    · exact length_covering?_le h
    · simp at h

/-! ## Attribute values -/

/-- Decodes the references of an attribute value. -/
def decodeValue : List Char → List Char
  | [] => []
  | c :: cs =>
    if c == '&' then
      match _h : read? true cs with
      | some r => r.characters ++ decodeValue r.rest
      | none => c :: decodeValue cs
    else c :: decodeValue cs
termination_by cs => cs.length
decreasing_by
  all_goals simp_wf
  · have := length_read?_le ‹_›
    omega

/-- Text without an ampersand stands for itself. -/
theorem decodeValue_of_no_ampersand {cs : List Char} (h : '&' ∉ cs) : decodeValue cs = cs := by
  induction cs with
  | nil => simp [decodeValue]
  | cons c cs ih =>
    simp only [List.mem_cons, not_or] at h
    have hc : (c == '&') = false := by simpa using Ne.symm h.1
    rw [decodeValue]
    simp [hc, ih h.2]

end TemplateImports.Markup.Reference
