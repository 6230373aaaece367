import TemplateImports.Text.Blank

/-!
# Document types

The declaration that may open a document.  It carries no content, but it decides whether the
document follows the compatibility rules of old pages, under which a table may stand inside a
paragraph.

Main results:

- Definition `Doctype.scan` reads a declaration after its keyword.
- Definition `Doctype.isQuirky` says which declarations ask for the compatibility rules.
- Theorem `length_scan_le` says that reading never lengthens the text.
-/

namespace TemplateImports.Markup

open Text

/-- A document type declaration. -/
structure Doctype where
  name : Option String := none
  publicId : Option String := none
  systemId : Option String := none
  broken : Bool := false
deriving Repr, DecidableEq

namespace Doctype

/-! ## Reading -/

/-- Replaces the null character. -/
def visible (c : Char) : Char :=
  if c == '\x00' then '\uFFFD' else c

/-- The text after the end of the declaration. -/
def skip (cs : List Char) : List Char :=
  (cs.dropWhile (· != '>')).drop 1

/-- Whether a text starts with a keyword, in any letter case. -/
def startsWithKeyword (keyword : String) (cs : List Char) : Bool :=
  (cs.take keyword.length).map Char.toLower == keyword.toList

/-- Reads a quoted identifier after its opening quote, with the text after the closing one.  The
identifier ends early at the end of the declaration or of the text. -/
def scanQuoted (quote : Char) : List Char → List Char × Bool × List Char
  | [] => ([], false, [])
  | c :: cs =>
    if c == quote then ([], true, cs)
    else if c == '>' then ([], false, c :: cs)
    else
      let (identifier, closed, rest) := scanQuoted quote cs
      (visible c :: identifier, closed, rest)

/-- Reads the system identifier, which may be missing. -/
def scanSystem (required : Bool) (d : Doctype) (cs : List Char) : Doctype × List Char :=
  match cs.dropWhile isAsciiBlank with
  | [] => ({ d with broken := true }, [])
  | c :: rest =>
    if c == '"' || c == '\x27' then
      let (identifier, closed, after) := scanQuoted c rest
      let d := { d with systemId := some (String.ofList identifier) }
      if closed then
        ({ d with broken := (after.dropWhile isAsciiBlank).isEmpty }, skip after)
      else ({ d with broken := true }, skip after)
    else if c == '>' then ({ d with broken := required }, rest)
    else ({ d with broken := true }, skip (c :: rest))

/-- Reads the public identifier and the system identifier after it. -/
def scanPublic (d : Doctype) (cs : List Char) : Doctype × List Char :=
  match cs.dropWhile isAsciiBlank with
  | [] => ({ d with broken := true }, [])
  | c :: rest =>
    if c == '"' || c == '\x27' then
      let (identifier, closed, after) := scanQuoted c rest
      let d := { d with publicId := some (String.ofList identifier) }
      if closed then scanSystem false d after else ({ d with broken := true }, skip after)
    else ({ d with broken := true }, skip (c :: rest))

/-- Reads the identifiers that may follow the name. -/
def scanIdentifiers (d : Doctype) (cs : List Char) : Doctype × List Char :=
  match cs.dropWhile isAsciiBlank with
  | [] => ({ d with broken := true }, [])
  | c :: rest =>
    if c == '>' then (d, rest)
    else if startsWithKeyword "public" (c :: rest) then scanPublic d (rest.drop 5)
    else if startsWithKeyword "system" (c :: rest) then scanSystem true d (rest.drop 5)
    else ({ d with broken := true }, skip (c :: rest))

/-- Reads a declaration from the text after its keyword. -/
def scan (cs : List Char) : Doctype × List Char :=
  match cs.dropWhile isAsciiBlank with
  | [] => ({ broken := true }, [])
  | c :: rest =>
    if c == '>' then ({ broken := true }, rest)
    else
      let inName := fun c => !isAsciiBlank c && c != '>'
      let name := (c :: rest.takeWhile inName).map fun c => (visible c).toLower
      scanIdentifiers { name := some (String.ofList name) } (rest.dropWhile inName)

/-! ## Lengths -/

theorem length_dropWhile_le {p : Char → Bool} (cs : List Char) :
    (cs.dropWhile p).length ≤ cs.length :=
  (List.dropWhile_sublist _).length_le

theorem length_skip_le (cs : List Char) : (skip cs).length ≤ cs.length := by
  have := length_dropWhile_le (p := (· != '>')) cs
  simp only [skip, List.length_drop]
  omega

theorem length_scanQuoted_le (quote : Char) (cs : List Char) :
    (scanQuoted quote cs).2.2.length ≤ cs.length := by
  induction cs with
  | nil => simp [scanQuoted]
  | cons c cs ih =>
    unfold scanQuoted
    split
    · simp
    · split
      · simp
      · dsimp only
        exact Nat.le_succ_of_le ih

theorem length_scanSystem_le (required : Bool) (d : Doctype) (cs : List Char) :
    (scanSystem required d cs).2.length ≤ cs.length := by
  have hblank := length_dropWhile_le (p := isAsciiBlank) cs
  unfold scanSystem
  split
  · simp
  · rename_i c rest heq
    rw [heq] at hblank
    simp only [List.length_cons] at hblank
    have hskip := length_skip_le (c :: rest)
    simp only [List.length_cons] at hskip
    split
    · have hquoted := length_scanQuoted_le c rest
      have hafter := length_skip_le (scanQuoted c rest).2.2
      generalize scanQuoted c rest = quoted at *
      obtain ⟨identifier, closed, after⟩ := quoted
      dsimp only at *
      split <;> dsimp only <;> omega
    · split <;> dsimp only <;> omega

theorem length_scanPublic_le (d : Doctype) (cs : List Char) :
    (scanPublic d cs).2.length ≤ cs.length := by
  have hblank := length_dropWhile_le (p := isAsciiBlank) cs
  unfold scanPublic
  split
  · simp
  · rename_i c rest heq
    rw [heq] at hblank
    simp only [List.length_cons] at hblank
    have hskip := length_skip_le (c :: rest)
    simp only [List.length_cons] at hskip
    split
    · have hquoted := length_scanQuoted_le c rest
      have hafter := length_skip_le (scanQuoted c rest).2.2
      have hsystem := fun d => length_scanSystem_le false d (scanQuoted c rest).2.2
      generalize scanQuoted c rest = quoted at *
      obtain ⟨identifier, closed, after⟩ := quoted
      dsimp only at *
      split
      · exact Nat.le_trans (hsystem _) (by omega)
      · dsimp only
        omega
    · dsimp only
      omega

theorem length_scanIdentifiers_le (d : Doctype) (cs : List Char) :
    (scanIdentifiers d cs).2.length ≤ cs.length := by
  have hblank := length_dropWhile_le (p := isAsciiBlank) cs
  unfold scanIdentifiers
  split
  · simp
  · rename_i c rest heq
    rw [heq] at hblank
    simp only [List.length_cons] at hblank
    have hpublic := length_scanPublic_le d (rest.drop 5)
    have hsystem := length_scanSystem_le true d (rest.drop 5)
    have hskip := length_skip_le (c :: rest)
    simp only [List.length_cons, List.length_drop] at hskip hpublic hsystem
    split
    · simp only
      omega
    · split
      · omega
      · split
        · omega
        · simp only
          omega

/-- Reading a declaration never lengthens the text. -/
theorem length_scan_le (cs : List Char) : (scan cs).2.length ≤ cs.length := by
  have hblank := length_dropWhile_le (p := isAsciiBlank) cs
  unfold scan
  split
  · simp
  · rename_i c rest heq
    rw [heq] at hblank
    simp only [List.length_cons] at hblank
    split
    · simp only
      omega
    · have hname := length_dropWhile_le (p := fun c => !isAsciiBlank c && c != '>') rest
      exact Nat.le_trans (length_scanIdentifiers_le _ _) (by omega)

/-! ## Compatibility rules -/

/-- Public identifiers that ask for the compatibility rules. -/
def quirkyPublicIds : List String :=
  ["-//w3o//dtd w3 html strict 3.0//en//", "-/w3c/dtd html 4.0 transitional/en", "html"]

/-- Beginnings of public identifiers that ask for the compatibility rules. -/
def quirkyBeginnings : List String :=
  ["+//silmaril//dtd html pro v0r11 19970101//", "-//advasoft ltd//dtd html 3.0 aswedit + extensions//",
   "-//as//dtd html 3.0 aswedit + extensions//", "-//ietf//dtd html 2.0 level 1//",
   "-//ietf//dtd html 2.0 level 2//", "-//ietf//dtd html 2.0 strict level 1//",
   "-//ietf//dtd html 2.0 strict level 2//", "-//ietf//dtd html 2.0 strict//",
   "-//ietf//dtd html 2.0//", "-//ietf//dtd html 2.1e//", "-//ietf//dtd html 3.0//",
   "-//ietf//dtd html 3.2 final//", "-//ietf//dtd html 3.2//", "-//ietf//dtd html 3//",
   "-//ietf//dtd html level 0//", "-//ietf//dtd html level 1//", "-//ietf//dtd html level 2//",
   "-//ietf//dtd html level 3//", "-//ietf//dtd html strict level 0//",
   "-//ietf//dtd html strict level 1//", "-//ietf//dtd html strict level 2//",
   "-//ietf//dtd html strict level 3//", "-//ietf//dtd html strict//", "-//ietf//dtd html//",
   "-//metrius//dtd metrius presentational//",
   "-//microsoft//dtd internet explorer 2.0 html strict//",
   "-//microsoft//dtd internet explorer 2.0 html//",
   "-//microsoft//dtd internet explorer 2.0 tables//",
   "-//microsoft//dtd internet explorer 3.0 html strict//",
   "-//microsoft//dtd internet explorer 3.0 html//",
   "-//microsoft//dtd internet explorer 3.0 tables//",
   "-//netscape comm. corp.//dtd html//", "-//netscape comm. corp.//dtd strict html//",
   "-//o'reilly and associates//dtd html 2.0//",
   "-//o'reilly and associates//dtd html extended 1.0//",
   "-//o'reilly and associates//dtd html extended relaxed 1.0//",
   "-//softquad software//dtd hotmetal pro 6.0::19990601::extensions to html 4.0//",
   "-//softquad//dtd hotmetal pro 4.0::19971010::extensions to html 4.0//",
   "-//spyglass//dtd html 2.0 extended//", "-//sq//dtd html 2.0 hotmetal + extensions//",
   "-//sun microsystems corp.//dtd hotjava html//",
   "-//sun microsystems corp.//dtd hotjava strict html//",
   "-//w3c//dtd html 3 1995-03-24//", "-//w3c//dtd html 3.2 draft//",
   "-//w3c//dtd html 3.2 final//", "-//w3c//dtd html 3.2//", "-//w3c//dtd html 3.2s draft//",
   "-//w3c//dtd html 4.0 frameset//", "-//w3c//dtd html 4.0 transitional//",
   "-//w3c//dtd html experimental 19960712//", "-//w3c//dtd html experimental 970421//",
   "-//w3c//dtd w3 html//", "-//w3o//dtd w3 html 3.0//", "-//webtechs//dtd mozilla html 2.0//",
   "-//webtechs//dtd mozilla html//"]

/-- Beginnings of public identifiers that ask for the compatibility rules when no system
identifier follows. -/
def quirkyWithoutSystem : List String :=
  ["-//w3c//dtd html 4.01 frameset//", "-//w3c//dtd html 4.01 transitional//"]

/-- The system identifier that asks for the compatibility rules. -/
def quirkySystemId : String :=
  "/".intercalate ["http:", "", "www.ibm.com", "data", "dtd", "v11", "ibmxhtml1-transitional.dtd"]

/-- Whether a declaration asks for the compatibility rules. -/
def isQuirky (d : Doctype) : Bool :=
  let publicId := d.publicId.map String.toLower
  let startsWith := fun (beginnings : List String) =>
    match publicId with
    | some identifier => beginnings.any fun b => b.toList.isPrefixOf identifier.toList
    | none => false
  d.broken || d.name != some "html" ||
    (publicId.map quirkyPublicIds.contains).getD false ||
    d.systemId.map String.toLower == some quirkySystemId ||
    startsWith quirkyBeginnings ||
    (startsWith quirkyWithoutSystem && d.systemId.isNone)

end Doctype

end TemplateImports.Markup
