import TemplateImports.Proofs.Script.Lines

/-!
# Scripts made of imports

Scripts that are nothing but imports, of any form and with line feeds or semicolons between them,
declare exactly the names that are written in the place of local names, in order.  The names of the
modules may hold the text of other imports, comments or braces.

The induction is on the imports.  Its invariant is a cursor in the gap in front of an import, with
or without a line end behind it.

Main results:

- Definition `joinImports` writes a script of imports.
- Theorem `readItems?_joinImports` reads such a script from any gap in front of it.
- Theorem `importedNames?_joinImports` lists the names that it declares.
-/

namespace TemplateImports.Script

/-! ## Written imports -/

/-- An import with the name of its module. -/
structure WrittenImport where
  form : ImportForm
  moduleName : List Char
deriving Repr, DecidableEq

namespace WrittenImport

/-- The names are capitalized words of letters and digits.  The name of the module is any text that
holds neither what ends it nor what stands for something else than itself. -/
structure WellFormed (i : WrittenImport) : Prop where
  names : ∀ name ∈ i.form.names, IsKeyWord name
  moduleName : ∀ c ∈ i.moduleName, c ≠ '\x27' ∧ c ≠ '\\' ∧ endsLine c = false

instance (i : WrittenImport) : Decidable i.WellFormed :=
  decidable_of_iff ((∀ name ∈ i.form.names, IsKeyWord name) ∧
      ∀ c ∈ i.moduleName, c ≠ '\x27' ∧ c ≠ '\\' ∧ endsLine c = false)
    ⟨fun h => ⟨h.1, h.2⟩, fun h => ⟨h.names, h.moduleName⟩⟩

/-- The text of an import behind its first word. -/
def writeBehind (i : WrittenImport) (rest : List Char) : List Char :=
  ' ' :: i.form.write ('\x27' :: i.moduleName ++ ['\x27']) rest

/-- The text of an import. -/
def write (i : WrittenImport) (rest : List Char) : List Char :=
  importWord ++ i.writeBehind rest

end WrittenImport

/-- What stands between two imports. -/
inductive Joint where
  /-- A line feed, and more of them. -/
  | lineFeed (more : Nat)
  /-- A semicolon, and line feeds behind it. -/
  | semicolon (lineFeeds : Nat)
deriving Repr, DecidableEq

/-- The text of a joint. -/
def Joint.write (rest : List Char) : Joint → List Char
  | .lineFeed more => '\n' :: (List.replicate more '\n' ++ rest)
  | .semicolon lineFeeds => ';' :: (List.replicate lineFeeds '\n' ++ rest)

/-- The text of imports, each with the joint behind it.  No joint stands behind the last one. -/
def joinImports : List (WrittenImport × Joint) → List Char
  | [] => []
  | (i, joint) :: imports =>
    i.write (if imports.isEmpty then [] else joint.write (joinImports imports))

/-! ## Gaps between imports -/

/-- The cursor in the gap in front of a text, with or without a line end behind it. -/
def Cursor.inGap (hasLineEnd : Bool) (cs : List Char) : Cursor :=
  .ofGap [] 0 (Gap.skip hasLineEnd [] .between cs)

theorem skip_lineFeeds (hasLineEnd : Bool) (comments : List (List Char)) (n : Nat)
    (cs : List Char) :
    Gap.skip hasLineEnd comments .between (List.replicate n '\n' ++ cs) =
      Gap.skip (hasLineEnd || decide (0 < n)) comments .between cs := by
  induction n generalizing hasLineEnd with
  | zero => simp
  | succ n ih => simp [List.replicate_succ, ih]

namespace Cursor

/-- An import is entered at its first word. -/
theorem inGap_write (i : WrittenImport) (rest : List Char) (hasLineEnd : Bool) :
    inGap hasLineEnd (i.write rest) =
      ⟨.keyword .import_, hasLineEnd, i.writeBehind rest, [], 0⟩ := by
  have hword : IsWord importWord :=
    ⟨'i', ['m', 'p', 'o', 'r', 't'], rfl, by decide, by decide⟩
  exact ofGap_word hword (by decide) (Text.stops_cons (by decide) _) [] [] hasLineEnd

/-- A new line starts with the next import, or the script ends. -/
theorem atLine_inGap (imports : List (WrittenImport × Joint)) {hasLineEnd : Bool}
    (h : hasLineEnd = true ∨ imports = []) : (inGap hasLineEnd (joinImports imports)).AtLine := by
  cases imports with
  | nil => exact ⟨rfl, Or.inr rfl⟩
  | cons import_ imports =>
    rw [joinImports, inGap_write]
    exact ⟨rfl, Or.inl (by simpa using h)⟩

/-- An import ends in front of a joint, and the next import is read behind it. -/
theorem endsImport_joint (joint : Joint) (imports : List (WrittenImport × Joint)) :
    ∃ hasLineEnd, (enter [] 0 (joint.write (joinImports imports))).EndsImport
      (inGap hasLineEnd (joinImports imports)) := by
  cases joint with
  | lineFeed more =>
    refine ⟨true, ?_⟩
    rw [Joint.write, enter_eq_ofGap, skip_lineFeed, skip_lineFeeds, Bool.true_or]
    exact (atLine_inGap imports (Or.inl rfl)).endsImport
  | semicolon lineFeeds =>
    refine ⟨decide (0 < lineFeeds), ?_⟩
    have hsign : enter [] 0 (Joint.write (joinImports imports) (.semicolon lineFeeds)) =
        ⟨.sign .semicolon, false, List.replicate lineFeeds '\n' ++ joinImports imports, [], 0⟩ :=
      enter_sign (s := .semicolon) (by decide) [] 0 _
    rw [hsign]
    refine ⟨rfl, rfl, ?_⟩
    rw [inGap, ← Bool.false_or (decide _), ← skip_lineFeeds, ← enter_eq_ofGap]
    rfl

/-- An import ends in front of the text behind it, and the next import is read from there. -/
theorem endsImport_behind (joint : Joint) (imports : List (WrittenImport × Joint)) :
    ∃ hasLineEnd,
      (enter [] 0 (if imports.isEmpty then [] else joint.write (joinImports imports))).EndsImport
        (inGap hasLineEnd (joinImports imports)) := by
  cases imports with
  | nil => exact ⟨false, (atLine_inGap [] (Or.inr rfl)).endsImport⟩
  | cons import_ imports => exact endsImport_joint joint (import_ :: imports)

end Cursor

/-! ## Reading imports -/

/-- A script of imports is read from any gap in front of it. -/
theorem readItems?_joinImports {imports : List (WrittenImport × Joint)}
    (himports : ∀ i ∈ imports, i.1.WellFormed) {n : Nat} (hn : imports.length < n)
    (read : Reader) (hasLineEnd : Bool) :
    readItems? read n (Cursor.inGap hasLineEnd (joinImports imports)) =
      some ⟨[], imports.flatMap fun i => i.1.form.declared, []⟩ := by
  induction imports generalizing n hasLineEnd with
  | nil =>
    obtain ⟨n, rfl⟩ := Nat.exists_eq_succ_of_ne_zero (Nat.ne_of_gt hn)
    simp [joinImports, Cursor.inGap, Gap.skip, Cursor.ofGap, readToken, readItems?]
  | cons import_ imports ih =>
    obtain ⟨i, joint⟩ := import_
    obtain ⟨n, rfl⟩ := Nat.exists_eq_succ_of_ne_zero (Nat.ne_of_gt (Nat.zero_lt_of_lt hn))
    have hi : i.WellFormed := himports (i, joint) List.mem_cons_self
    obtain ⟨lineEnd, hend⟩ := Cursor.endsImport_behind joint imports
    obtain ⟨text, hquoted⟩ := Cursor.enter_string (Or.inr rfl) hi.moduleName
      (if imports.isEmpty then [] else joint.write (joinImports imports)) []
    have hread := readItem?_import (fun name hname => (hi.names name hname).isPlainWord) hquoted
      hend read hasLineEnd
    have hmore := ih (fun t ht => himports t (List.mem_cons_of_mem _ ht)) (n := n)
      (by simpa using hn) lineEnd
    rw [joinImports, Cursor.inGap_write, WrittenImport.writeBehind, readItems?, hread]
    simp [hmore]

/-- No import is empty. -/
theorem length_le_joinImports (imports : List (WrittenImport × Joint)) :
    imports.length ≤ (joinImports imports).length := by
  induction imports with
  | nil => exact Nat.zero_le _
  | cons import_ imports ih =>
    obtain ⟨i, joint⟩ := import_
    have hwrite (rest : List Char) : rest.length + 1 ≤ (i.write rest).length := by
      have hle := (i.form.suffix_write ('\x27' :: i.moduleName ++ ['\x27']) rest).length_le
      simp only [WrittenImport.write, WrittenImport.writeBehind, importWord, List.length_append,
        List.length_cons] at hle ⊢
      omega
    have hjoint : (joinImports imports).length ≤ (joint.write (joinImports imports)).length := by
      cases joint <;> simp only [Joint.write, List.length_append, List.length_cons] <;> omega
    cases imports with
    | nil => exact Nat.le_trans (Nat.le_add_left _ _) (hwrite [])
    | cons import' imports =>
      exact Nat.le_trans (Nat.succ_le_succ (Nat.le_trans ih hjoint)) (hwrite _)

/-- A script of imports declares the local names of its imports, in order. -/
theorem importedNames?_joinImports {imports : List (WrittenImport × Joint)}
    (himports : ∀ i ∈ imports, i.1.WellFormed) :
    importedNames? (String.ofList (joinImports imports)) =
      some ((imports.flatMap fun i => i.1.form.declared).map String.ofList) := by
  have hstart : ∀ c ∈ (joinImports imports).head?, c ≠ '\uFEFF' ∧ c ≠ '#' := by
    cases imports <;> simp [joinImports, WrittenImport.write, importWord]
  have hread := readItems?_joinImports himports
    (Nat.lt_succ_of_le (length_le_joinImports imports))
    (grammar (depthOf (joinImports imports))) false
  rw [Cursor.inGap, ← Cursor.enter_eq_ofGap, ← Cursor.start_eq_enter hstart] at hread
  simp [importedNames?, read?, hread]

/-- Imports of all forms, from modules whose names look like other imports and comments. -/
def importsOfAllForms : List (WrittenImport × Joint) :=
  [(⟨⟨none, none⟩, "// import X from".toList⟩, .semicolon 0),
   (⟨⟨some "Icon".toList, none⟩, "\x7b Y \x7d".toList⟩, .lineFeed 0),
   (⟨⟨none, some (.whole "Lib".toList)⟩, "/*;import Z".toList⟩, .semicolon 1),
   (⟨⟨none, some (.named 1 0 [])⟩, "* as".toList⟩, .lineFeed 1),
   (⟨⟨some "D1".toList, some (.whole "N".toList)⟩, "".toList⟩, .semicolon 0),
   (⟨⟨some "E".toList, some (.named 1 1 [⟨"A".toList, none⟩, ⟨"B".toList, some "C2".toList⟩])⟩,
      "\"x\"".toList⟩, .lineFeed 0)]

theorem importedNames?_importsOfAllForms :
    String.ofList (joinImports importsOfAllForms) =
        "import '// import X from';import Icon from '\x7b Y \x7d'\n" ++
        "import * as Lib from '/*;import Z';\nimport \x7b \x7d from '* as'\n\n" ++
        "import D1, * as N from '';import E, \x7b A, B as C2 \x7d from '\"x\"'" ∧
      (∀ i ∈ importsOfAllForms, i.1.WellFormed) ∧
      importedNames? (String.ofList (joinImports importsOfAllForms)) =
        some ["Icon", "Lib", "D1", "N", "E", "A", "C2"] := by
  have himports : ∀ i ∈ importsOfAllForms, i.1.WellFormed := by decide
  refine ⟨by decide +kernel, himports, ?_⟩
  rw [importedNames?_joinImports himports]
  decide +kernel

end TemplateImports.Script
