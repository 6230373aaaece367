import TemplateImports.Proofs.Script.Phrases

/-!
# Reading imports

How an import is read from what is written: a name for the module's default, and the whole module
under a name or names in braces, each of them on its own or both, or the name of the module alone.

The name of the module is a quoted text of any kind.  Behind it the declaration has to end, which a
new line, a semicolon or the end of the script does.

Main results:

- Structure `ImportForm` is what stands between the first word of an import and the name of the
  module; definition `ImportForm.declared` lists the names that it declares.
- Theorem `readImportedNames_write` reads names in braces.
- Theorem `readItem?_import` reads an import of any form.
-/

namespace TemplateImports.Script

open Text (Stops stops_cons)

/-! ## Names of modules -/

/-- Behind the name of a module a declaration ends: another cursor stands behind its end. -/
structure Cursor.EndsImport (c after : Cursor) : Prop where
  not_with : c.isAtWord .with_ = false
  not_assert : c.isAtWord .assert = false
  ends : c.endStatement? = some after

/-- A new line ends a declaration. -/
theorem Cursor.AtLine.endsImport {c : Cursor} (h : c.AtLine) : c.EndsImport c where
  not_with := h.isAtWord_eq_false rfl
  not_assert := h.isAtWord_eq_false rfl
  ends := h.endStatement?_eq

/-- The word in front of the name of a module, with the quoted name. -/
def writeFrom (quoted rest : List Char) : List Char :=
  ' ' :: 'f' :: 'r' :: 'o' :: 'm' :: ' ' :: (quoted ++ rest)

section

variable {comments : List (List Char)} {pending : Nat} {quoted rest : List Char}
  {text : Option (List Char)} {after : Cursor}

/-- The name of a module is read up to the end of the declaration. -/
theorem readModuleName_quoted
    (hquoted : Cursor.enter comments pending (quoted ++ rest) =
      ⟨.string text, false, rest, comments, pending⟩)
    (hend : (Cursor.enter comments pending rest).EndsImport after) :
    readModuleName (Cursor.enter comments pending (quoted ++ rest)) = some after := by
  simp [hquoted, readModuleName, Cursor.next, hend.not_with, hend.not_assert, hend.ends]

/-- The word in front of the name of a module, in the text of an import. -/
theorem enter_writeFrom :
    Cursor.enter comments pending (writeFrom quoted rest) =
      ⟨.keyword .from_, false, ' ' :: (quoted ++ rest), comments, pending⟩ := by
  have hword : IsWord ['f', 'r', 'o', 'm'] := ⟨'f', ['r', 'o', 'm'], rfl, by decide, by decide⟩
  rw [writeFrom, Cursor.enter_space]
  exact Cursor.enter_word hword (by decide) (stops_cons (by decide) _) comments pending

/-- The name of a module is read behind the word in front of it. -/
theorem readFrom_writeFrom
    (hquoted : Cursor.enter comments pending (quoted ++ rest) =
      ⟨.string text, false, rest, comments, pending⟩)
    (hend : (Cursor.enter comments pending rest).EndsImport after) :
    readFrom (Cursor.enter comments pending (writeFrom quoted rest)) = some after := by
  have hname := readModuleName_quoted hquoted hend
  simp [enter_writeFrom, readFrom, Cursor.takeWord?, Cursor.isAtWord, Cursor.next, hname]

end

/-! ## Names in braces -/

/-- A name in the braces of an import, which may be declared under another one. -/
structure Specifier where
  name : List Char
  renamed : Option (List Char) := none
deriving Repr, DecidableEq

namespace Specifier

/-- The name that is declared. -/
def declared (s : Specifier) : List Char :=
  s.renamed.getD s.name

/-- The names that are written. -/
def names (s : Specifier) : List (List Char) :=
  s.name :: s.renamed.toList

/-- What stands behind the first name. -/
def writeBehind (s : Specifier) (rest : List Char) : List Char :=
  match s.renamed with
  | none => rest
  | some text => ' ' :: 'a' :: 's' :: ' ' :: (text ++ rest)

theorem suffix_writeBehind (s : Specifier) (rest : List Char) : rest <:+ s.writeBehind rest := by
  unfold writeBehind
  split
  · exact List.suffix_refl rest
  · rename_i text _
    exact ⟨' ' :: 'a' :: 's' :: ' ' :: text, by simp⟩

/-- The text of a name in braces. -/
def write (s : Specifier) (rest : List Char) : List Char :=
  s.name ++ s.writeBehind rest

end Specifier

/-- Names separated by commas, up to the closing brace, which blanks stand in front of. -/
def writeSpecifiers (blanks : Nat) (rest : List Char) : List Specifier → List Char
  | [] => List.replicate blanks ' ' ++ '\x7d' :: rest
  | [s] => s.write (List.replicate blanks ' ' ++ '\x7d' :: rest)
  | s :: specifiers => s.write (',' :: ' ' :: writeSpecifiers blanks rest specifiers)

variable {comments : List (List Char)} {pending : Nat}

theorem Cursor.enter_spaces (blanks : Nat) (rest : List Char) :
    Cursor.enter comments pending (List.replicate blanks ' ' ++ rest) =
      Cursor.enter comments pending rest := by
  induction blanks with
  | zero => rfl
  | succ blanks ih => rw [List.replicate_succ, List.cons_append, Cursor.enter_space, ih]

/-- A blank or a closing brace does not go on with a word. -/
theorem stops_spaces (blanks : Nat) (rest : List Char) :
    Stops goesOn (List.replicate blanks ' ' ++ '\x7d' :: rest) := by
  cases blanks with
  | zero => exact stops_cons (by decide) _
  | succ blanks => exact stops_cons (by decide) _

section

variable (comments pending)

theorem Cursor.enter_closeBrace (blanks : Nat) (rest : List Char) :
    Cursor.enter comments pending (List.replicate blanks ' ' ++ '\x7d' :: rest) =
      ⟨.sign .closeBrace, false, rest, comments, pending⟩ := by
  rw [Cursor.enter_spaces]
  exact Cursor.enter_sign (by decide) comments pending rest

theorem Cursor.enter_comma (rest : List Char) :
    Cursor.enter comments pending (',' :: rest) =
      ⟨.sign .comma, false, rest, comments, pending⟩ :=
  Cursor.enter_sign (by decide) comments pending rest

/-- The word in front of another name. -/
theorem Cursor.enter_as (rest : List Char) :
    Cursor.enter comments pending (' ' :: 'a' :: 's' :: ' ' :: rest) =
      ⟨.keyword .as, false, ' ' :: rest, comments, pending⟩ := by
  have hword : IsWord ['a', 's'] := ⟨'a', ['s'], rfl, by decide, by decide⟩
  rw [Cursor.enter_space]
  exact Cursor.enter_word hword (by decide) (stops_cons (by decide) _) comments pending

end

section

variable {s : Specifier} {rest : List Char}

/-- A name in braces is entered at its first word. -/
theorem Specifier.enter_write (hname : IsPlainWord s.name) (hstop : Stops goesOn rest) :
    Cursor.enter comments pending (s.write rest) =
      ⟨.name s.name, false, s.writeBehind rest, comments, pending⟩ := by
  refine hname.enter_eq ?_
  unfold writeBehind
  split
  · exact hstop
  · exact stops_cons (by decide) _

variable (comments pending) in
/-- A name in braces is read with the name under which it is declared. -/
theorem readImportedName_write (hs : ∀ name ∈ s.names, IsPlainWord name) (hstop : Stops goesOn rest)
    (has : (Cursor.enter comments pending rest).isAtWord .as = false) :
    readImportedName .top (Cursor.enter comments pending (s.write rest)) =
      some (s.declared, Cursor.enter comments pending rest) := by
  rw [Specifier.enter_write (hs s.name List.mem_cons_self) hstop]
  obtain ⟨name, renamed⟩ := s
  cases renamed with
  | none =>
    simp [readImportedName, Specifier.writeBehind, Specifier.declared, Cursor.next, has,
      Token.nameIn?]
  | some text =>
    have htext : Cursor.enter comments pending (text ++ rest) =
        ⟨.name text, false, rest, comments, pending⟩ :=
      (hs text (by simp [Specifier.names])).enter_eq hstop
    have hword := Cursor.enter_as comments pending (text ++ rest)
    simp [readImportedName, Specifier.writeBehind, Specifier.declared, Cursor.next, hword,
      Cursor.isAtWord, Token.linkName?, Token.word?, htext, Token.nameIn?]

end

variable (comments pending) in
/-- Names in braces are read one after the other. -/
theorem readImportedNames_write {specifiers : List Specifier}
    (hspecifiers : ∀ s ∈ specifiers, ∀ name ∈ s.names, IsPlainWord name) (blanks : Nat)
    (rest : List Char) {n : Nat} (hn : specifiers.length < n) :
    readImportedNames .top n
        (Cursor.enter comments pending (writeSpecifiers blanks rest specifiers)) =
      some (specifiers.map Specifier.declared, Cursor.enter comments pending rest) := by
  induction specifiers generalizing n with
  | nil =>
    obtain ⟨n, rfl⟩ := Nat.exists_eq_succ_of_ne_zero (Nat.ne_of_gt hn)
    simp [writeSpecifiers, Cursor.enter_closeBrace, readImportedNames, Cursor.isAt, Cursor.next]
  | cons s specifiers ih =>
    obtain ⟨n, rfl⟩ := Nat.exists_eq_succ_of_ne_zero (Nat.ne_of_gt (Nat.zero_lt_of_lt hn))
    have hs := hspecifiers s List.mem_cons_self
    -- A name is no closing brace, whatever stands behind it.
    have hname {behind : List Char} (hstop : Stops goesOn behind) :
        (Cursor.enter comments pending (s.write behind)).isAt .closeBrace = false := by
      rw [Specifier.enter_write (hs s.name List.mem_cons_self) hstop]
      rfl
    cases specifiers with
    | nil =>
      have hclose := Cursor.enter_closeBrace comments pending blanks rest
      have hstop := stops_spaces blanks rest
      have hread := readImportedName_write comments pending hs hstop (by rw [hclose]; rfl)
      rw [writeSpecifiers, readImportedNames, hname hstop, hread, hclose]
      simp [Cursor.isAt, Cursor.take?, Cursor.next]
    | cons other specifiers =>
      have hcomma := Cursor.enter_comma comments pending
        (' ' :: writeSpecifiers blanks rest (other :: specifiers))
      have hstop : Stops goesOn
          (',' :: ' ' :: writeSpecifiers blanks rest (other :: specifiers)) :=
        stops_cons (by decide) _
      have hread := readImportedName_write comments pending hs hstop (by rw [hcomma]; rfl)
      have hmore := ih (fun t ht => hspecifiers t (List.mem_cons_of_mem _ ht)) (n := n)
        (by simpa using hn)
      rw [writeSpecifiers, readImportedNames, hname hstop, hread, hcomma]
      · simp [Cursor.isAt, Cursor.next, hmore]
      · simp

/-- The text behind names in braces stands at the end. -/
theorem suffix_writeSpecifiers (blanks : Nat) (rest : List Char) (specifiers : List Specifier) :
    rest <:+ writeSpecifiers blanks rest specifiers := by
  have hclose : rest <:+ List.replicate blanks ' ' ++ '\x7d' :: rest :=
    ⟨List.replicate blanks ' ' ++ ['\x7d'], by simp⟩
  have hwrite (s : Specifier) {behind : List Char} (h : rest <:+ behind) :
      rest <:+ s.write behind :=
    (h.trans (s.suffix_writeBehind behind)).trans (List.suffix_append _ _)
  induction specifiers with
  | nil => exact hclose
  | cons s specifiers ih =>
    cases specifiers with
    | nil => exact hwrite s hclose
    | cons other specifiers =>
      exact hwrite s ((ih.trans (List.suffix_cons ' ' _)).trans (List.suffix_cons ',' _))

/-- No more names are written than characters. -/
theorem length_le_writeSpecifiers (blanks : Nat) (rest : List Char) {specifiers : List Specifier}
    (h : ∀ s ∈ specifiers, ∀ name ∈ s.names, IsPlainWord name) :
    specifiers.length ≤ (writeSpecifiers blanks rest specifiers).length := by
  induction specifiers with
  | nil => simp
  | cons s specifiers ih =>
    have hmore := ih fun t ht => h t (List.mem_cons_of_mem _ ht)
    obtain ⟨c, cs, hname, -⟩ := (h s List.mem_cons_self s.name List.mem_cons_self).isWord
    have hwrite (behind : List Char) : 0 < (s.write behind).length := by
      simp [Specifier.write, hname]
    cases specifiers with
    | nil => exact hwrite _
    | cons other specifiers =>
      have hle := (s.suffix_writeBehind
        (',' :: ' ' :: writeSpecifiers blanks rest (other :: specifiers))).length_le
      rw [writeSpecifiers, Specifier.write]
      · simp only [List.length_append, List.length_cons] at hle hmore ⊢
        omega
      · simp

/-! ## Clauses -/

/-- What an import declares besides the default of the module. -/
inductive ImportClause where
  /-- The whole module under a name. -/
  | whole (name : List Char)
  /-- Names in braces, with blanks behind the first brace and in front of the last one. -/
  | named (front back : Nat) (specifiers : List Specifier)
deriving Repr, DecidableEq

namespace ImportClause

/-- The names that are declared. -/
def declared : ImportClause → List (List Char)
  | .whole name => [name]
  | .named _ _ specifiers => specifiers.map Specifier.declared

/-- The names that are written. -/
def names : ImportClause → List (List Char)
  | .whole name => [name]
  | .named _ _ specifiers => specifiers.flatMap Specifier.names

/-- The text of a clause. -/
def write (rest : List Char) : ImportClause → List Char
  | .whole name => '*' :: ' ' :: 'a' :: 's' :: ' ' :: (name ++ rest)
  | .named front back specifiers =>
    '\x7b' :: (List.replicate front ' ' ++ writeSpecifiers back rest specifiers)

/-- The sign that a clause starts with. -/
def sign : ImportClause → Sign
  | .whole _ => .star
  | .named _ _ _ => .openBrace

/-- What stands behind the sign. -/
def writeBehind (rest : List Char) : ImportClause → List Char
  | .whole name => ' ' :: 'a' :: 's' :: ' ' :: (name ++ rest)
  | .named front back specifiers =>
    List.replicate front ' ' ++ writeSpecifiers back rest specifiers

/-- A clause is entered at its sign. -/
theorem enter_write (clause : ImportClause) (rest : List Char) :
    Cursor.enter comments pending (clause.write rest) =
      ⟨.sign clause.sign, false, clause.writeBehind rest, comments, pending⟩ := by
  cases clause with
  | whole name => exact Cursor.enter_of_isTokenStart (by decide) comments pending rfl
  | named front back specifiers =>
    exact Cursor.enter_sign (s := .openBrace) (by decide) comments pending _

/-- The text behind a clause stands at the end. -/
theorem suffix_write (clause : ImportClause) (rest : List Char) : rest <:+ clause.write rest := by
  cases clause with
  | whole name => exact ⟨'*' :: ' ' :: 'a' :: 's' :: ' ' :: name, by simp [write]⟩
  | named front back specifiers =>
    exact ((suffix_writeSpecifiers back rest specifiers).trans (List.suffix_append _ _)).trans
      (List.suffix_cons '\x7b' _)

end ImportClause

variable (comments pending) in
/-- There are no more names in braces than the reader allows for. -/
theorem length_lt_rest_enter (blanks : Nat) (rest : List Char) {specifiers : List Specifier}
    (h : ∀ s ∈ specifiers, ∀ name ∈ s.names, IsPlainWord name) :
    specifiers.length <
      (Cursor.enter comments pending (writeSpecifiers blanks rest specifiers)).rest.length + 2 := by
  cases specifiers with
  | nil => simp
  | cons s specifiers =>
    have hname := h s List.mem_cons_self s.name List.mem_cons_self
    cases specifiers with
    | nil => simp
    | cons other specifiers =>
      have hmore := length_le_writeSpecifiers blanks rest fun t ht =>
        h t (List.mem_cons_of_mem _ ht)
      rw [writeSpecifiers, Specifier.enter_write hname (stops_cons (by decide) _)]
      · have hle := (s.suffix_writeBehind
          (',' :: ' ' :: writeSpecifiers blanks rest (other :: specifiers))).length_le
        simp only [List.length_cons] at hle hmore ⊢
        omega
      · simp

/-- A clause is read up to the text behind it. -/
theorem readImportClause_write {clause : ImportClause}
    (h : ∀ name ∈ clause.names, IsPlainWord name) {rest : List Char} (hstop : Stops goesOn rest) :
    readImportClause .top (Cursor.enter comments pending (clause.write rest)) =
      some (clause.declared, Cursor.enter comments pending rest) := by
  rw [clause.enter_write]
  cases clause with
  | whole name =>
    have has := Cursor.enter_as comments pending (name ++ rest)
    have hname : Cursor.enter comments pending (name ++ rest) =
        ⟨.name name, false, rest, comments, pending⟩ := (h name List.mem_cons_self).enter_eq hstop
    simp [readImportClause, ImportClause.sign, ImportClause.writeBehind, ImportClause.declared,
      Cursor.isAt, Cursor.isAtWord, Cursor.takeWord?, Cursor.next, has, hname, Token.nameIn?]
  | named front back specifiers =>
    have hspecifiers : ∀ s ∈ specifiers, ∀ name ∈ s.names, IsPlainWord name :=
      fun s hs name hname => h name (List.mem_flatMap.2 ⟨s, hs, hname⟩)
    have hnames := readImportedNames_write comments pending hspecifiers back rest
      (length_lt_rest_enter comments pending back rest hspecifiers)
    simp [readImportClause, ImportClause.sign, ImportClause.writeBehind, ImportClause.declared,
      Cursor.isAt, Cursor.take?, Cursor.next, Cursor.enter_spaces, hnames]

/-! ## Imports -/

/-- What stands between the first word of an import and the name of the module. -/
structure ImportForm where
  /-- The name of the module's default. -/
  default? : Option (List Char) := none
  clause? : Option ImportClause := none
deriving Repr, DecidableEq

namespace ImportForm

/-- The names that are declared, in order. -/
def declared (f : ImportForm) : List (List Char) :=
  f.default?.toList ++ (f.clause?.map ImportClause.declared).getD []

/-- The names that are written. -/
def names (f : ImportForm) : List (List Char) :=
  f.default?.toList ++ (f.clause?.map ImportClause.names).getD []

/-- The text of an import behind its first word and a blank. -/
def write (f : ImportForm) (quoted rest : List Char) : List Char :=
  match f.default?, f.clause? with
  | none, none => quoted ++ rest
  | some name, none => name ++ writeFrom quoted rest
  | none, some clause => clause.write (writeFrom quoted rest)
  | some name, some clause => name ++ ',' :: ' ' :: clause.write (writeFrom quoted rest)

/-- The text behind an import stands at the end. -/
theorem suffix_write (f : ImportForm) (quoted rest : List Char) :
    rest <:+ f.write quoted rest := by
  have hfrom : rest <:+ writeFrom quoted rest :=
    ⟨' ' :: 'f' :: 'r' :: 'o' :: 'm' :: ' ' :: quoted, by simp [writeFrom]⟩
  unfold write
  split
  · exact List.suffix_append _ _
  · exact hfrom.trans (List.suffix_append _ _)
  · exact hfrom.trans (ImportClause.suffix_write _ _)
  · exact ((hfrom.trans (ImportClause.suffix_write _ _)).trans
      ((List.suffix_cons ' ' _).trans (List.suffix_cons ',' _))).trans (List.suffix_append _ _)

end ImportForm

section

variable {quoted rest : List Char} {text : Option (List Char)} {after : Cursor}

/-- No word goes on into the word in front of the name of a module. -/
theorem stops_writeFrom : Stops goesOn (writeFrom quoted rest) :=
  stops_cons (by decide) _

/-- An import of any form is read up to the end of the declaration. -/
theorem readItem?_import {f : ImportForm} (hf : ∀ name ∈ f.names, IsPlainWord name)
    (hquoted : Cursor.enter comments pending (quoted ++ rest) =
      ⟨.string text, false, rest, comments, pending⟩)
    (hend : (Cursor.enter comments pending rest).EndsImport after) (read : Reader)
    (hasLineEnd : Bool) :
    readItem? read
      ⟨.keyword .import_, hasLineEnd, ' ' :: f.write quoted rest, comments, pending⟩ =
        some (f.declared, [], after) := by
  have hfrom := readFrom_writeFrom hquoted hend
  have hname {name behind : List Char} (h : IsPlainWord name) (hstop : Stops goesOn behind) :
      Cursor.enter comments pending (name ++ behind) =
        ⟨.name name, false, behind, comments, pending⟩ := h.enter_eq hstop
  have hclause {clause : ImportClause} (h : ∀ name ∈ clause.names, IsPlainWord name) :
      readImportClause .top (Cursor.enter comments pending
        (clause.write (writeFrom quoted rest))) =
          some (clause.declared, Cursor.enter comments pending (writeFrom quoted rest)) :=
    readImportClause_write h stops_writeFrom
  suffices himport : readImport .top (Cursor.enter comments pending (f.write quoted rest)) =
        some (f.declared, after) ∧
      (Cursor.enter comments pending (f.write quoted rest)).isAt .openParen = false ∧
      (Cursor.enter comments pending (f.write quoted rest)).isAt .dot = false by
    simp [readItem?, Cursor.isAtWord, Cursor.next, himport]
  obtain ⟨default?, clause?⟩ := f
  have hdefault : ∀ name ∈ default?, IsPlainWord name :=
    fun name hname => hf name (by simp_all [ImportForm.names])
  have hclauses : ∀ clause ∈ clause?, ∀ name ∈ clause.names, IsPlainWord name :=
    fun clause hclause name hname => hf name (by simp_all [ImportForm.names])
  cases default? with
  | none =>
    cases clause? with
    | none =>
      have hmodule := readModuleName_quoted hquoted hend
      simp only [ImportForm.write, hquoted] at hmodule ⊢
      refine ⟨?_, rfl, rfl⟩
      simp [readImport, hmodule, ImportForm.declared]
    | some clause =>
      have hread := hclause (hclauses clause rfl)
      simp only [ImportForm.write, clause.enter_write] at hread ⊢
      refine ⟨?_, by cases clause <;> rfl, by cases clause <;> rfl⟩
      simp [readImport, skipImportPhase, Cursor.isAtWord, Token.nameIn?, hread, hfrom,
        ImportForm.declared]
  | some name =>
    cases clause? with
    | none =>
      have hcomma :
          (Cursor.enter comments pending (writeFrom quoted rest)).isAt .comma = false := by
        rw [enter_writeFrom]
        rfl
      simp only [ImportForm.write, hname (hdefault name rfl) stops_writeFrom]
      refine ⟨?_, rfl, rfl⟩
      simp [readImport, skipImportPhase, Cursor.isAtWord, Token.nameIn?, Cursor.next, hcomma, hfrom,
        ImportForm.declared]
    | some clause =>
      have hcomma := Cursor.enter_comma comments pending
        (' ' :: clause.write (writeFrom quoted rest))
      simp only [ImportForm.write, hname (hdefault name rfl) (stops_cons (c := ',') (by decide) _)]
      refine ⟨?_, rfl, rfl⟩
      simp [readImport, skipImportPhase, Cursor.isAtWord, Token.nameIn?, Cursor.next, hcomma,
        Cursor.isAt, hclause (hclauses clause rfl), hfrom, ImportForm.declared]

/-- The import of a module under a name is read up to the end of its line. -/
theorem readItem?_defaultImport {name : List Char} (hname : IsPlainWord name)
    (hquoted : Cursor.enter comments pending (quoted ++ rest) =
      ⟨.string text, false, rest, comments, pending⟩)
    (hline : (Cursor.enter comments pending rest).AtLine) (read : Reader) (hasLineEnd : Bool) :
    readItem? read
      ⟨.keyword .import_, hasLineEnd, ' ' :: (name ++ writeFrom quoted rest), comments, pending⟩ =
        some ([name], [], Cursor.enter comments pending rest) :=
  readItem?_import (f := ⟨some name, none⟩) (by simpa [ImportForm.names]) hquoted hline.endsImport
    read hasLineEnd

/-- The import of one name from a module is read up to the end of its line. -/
theorem readItem?_namedImport {key : List Char} (hkey : IsPlainWord key)
    (hquoted : Cursor.enter comments pending (quoted ++ rest) =
      ⟨.string text, false, rest, comments, pending⟩)
    (hline : (Cursor.enter comments pending rest).AtLine) (read : Reader) (hasLineEnd : Bool) :
    readItem? read
      ⟨.keyword .import_, hasLineEnd,
        ' ' :: '\x7b' :: ' ' :: (key ++ ' ' :: '\x7d' :: writeFrom quoted rest), comments,
        pending⟩ =
        some ([key], [], Cursor.enter comments pending rest) := by
  let f : ImportForm := ⟨none, some (.named 1 1 [⟨key, none⟩])⟩
  have hf : ∀ name ∈ f.names, IsPlainWord name := by
    simpa [f, ImportForm.names, ImportClause.names, Specifier.names]
  exact readItem?_import (f := f) hf hquoted hline.endsImport read hasLineEnd

end

end TemplateImports.Script
