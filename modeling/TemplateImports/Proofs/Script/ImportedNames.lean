import TemplateImports.Proofs.Script.Lines

/-!
# Names that imports declare

What a script imports is declared under words, whatever the script holds.  So an import that is
written with some text in the place of a name declares that text exactly if the text is a word,
keywords aside.

Main results:

- Theorem `isWord_of_nameIn?_readToken` says that only words are read as names.
- Theorem `isWord_of_mem_imported` says that the imports of a script declare words only.
- Theorem `importedNames?_namedImport_iff` says when the import of a text declares the text.
-/

namespace TemplateImports.Script

/-! ## Words that are read -/

instance : DecidablePred IsWord := fun word =>
  match word with
  | [] => isFalse (by rintro ⟨c, cs, h, -⟩; simp at h)
  | c :: cs =>
    decidable_of_iff (startsName c = true ∧ ∀ d ∈ cs, continuesName d = true)
      ⟨fun h => ⟨c, cs, rfl, h⟩, by rintro ⟨d, ds, h, hd⟩; cases h; exact hd⟩

/-- A character of a word with escapes fits in its place, and the rest of the word follows. -/
theorem readEscapedName?_cons {n : Nat} {isFirst : Bool} {c : Char} {cs text rest : List Char}
    (h : readEscapedName? (n + 1) isFirst (c :: cs) = some (text, rest)) :
    (isFirst = false ∧ text = []) ∨
      ∃ d ds behind, text = d :: ds ∧
        (if isFirst then startsName d else continuesName d) = true ∧
        readEscapedName? n false behind = some (ds, rest) := by
  unfold readEscapedName? at h
  extract_lets fits at h
  split at h
  · split at h
    · split at h
      · split at h
        · rename_i code behind _ hfits
          simp only [Bool.and_eq_true] at hfits
          simp only [Option.map_eq_some_iff, Prod.exists, Prod.mk.injEq] at h
          obtain ⟨ds, _, hds, rfl, rfl⟩ := h
          exact .inr ⟨_, ds, behind, rfl, hfits.2, hds⟩
        · cases h
      · cases h
    · cases h
  · split at h
    · rename_i hfits
      simp only [Option.map_eq_some_iff, Prod.exists, Prod.mk.injEq] at h
      obtain ⟨ds, _, hds, rfl, rfl⟩ := h
      exact .inr ⟨c, ds, cs, rfl, hfits, hds⟩
    · split at h
      · cases h
      · rename_i hfirst
        simp only [Option.some.injEq, Prod.mk.injEq] at h
        exact .inl ⟨by simpa using hfirst, h.1.symm⟩

/-- What is read behind the first character goes on with a name. -/
theorem continuesName_of_readEscapedName? {n : Nat} {cs text rest : List Char}
    (h : readEscapedName? n false cs = some (text, rest)) :
    ∀ c ∈ text, continuesName c = true := by
  induction n generalizing cs text rest with
  | zero => simp [readEscapedName?] at h
  | succ n ih =>
    cases cs with
    | nil =>
      simp only [readEscapedName?, Option.some.injEq, Prod.mk.injEq] at h
      simp [← h.1]
    | cons c cs =>
      obtain ⟨-, rfl⟩ | ⟨d, ds, behind, rfl, hd, hds⟩ := readEscapedName?_cons h
      · simp
      · exact List.forall_mem_cons.2 ⟨by simpa using hd, ih hds⟩

/-- A name with escapes stands for a word. -/
theorem isWord_of_readEscapedName? {n : Nat} {cs text rest : List Char} (hcs : cs ≠ [])
    (h : readEscapedName? n true cs = some (text, rest)) : IsWord text := by
  obtain ⟨c, cs, rfl⟩ := List.exists_cons_of_ne_nil hcs
  cases n with
  | zero => simp [readEscapedName?] at h
  | succ n =>
    obtain ⟨hfirst, -⟩ | ⟨d, ds, behind, rfl, hd, hds⟩ := readEscapedName?_cons h
    · cases hfirst
    · exact ⟨d, ds, rfl, by simpa using hd, continuesName_of_readEscapedName? hds⟩

/-- A word that is read is a word. -/
theorem isWord_of_readWord? {cs text rest : List Char} {isEscaped : Bool}
    (h : readWord? cs = some (text, isEscaped, rest)) : IsWord text := by
  cases cs with
  | nil => simp [readWord?] at h
  | cons c cs =>
    have hescaped {text' rest' : List Char} (h : (readEscapedName? ((c :: cs).length + 1) true
        (c :: cs)).map (fun word => (word.1, true, word.2)) = some (text', true, rest')) :
        IsWord text' := by
      simp only [Option.map_eq_some_iff, Prod.exists, Prod.mk.injEq] at h
      obtain ⟨_, _, hread, rfl, -, rfl⟩ := h
      exact isWord_of_readEscapedName? (List.cons_ne_nil c cs) hread
    rw [readWord?] at h
    split at h
    · rename_i hstart
      have hc : startsName c = true := by simpa using hstart
      split at h
      · cases isEscaped with
        | false => simp at h
        | true => exact hescaped h
      · simp only [Option.some.injEq, Prod.mk.injEq,
          List.takeWhile_cons_of_pos (continuesName_of_startsName hc)] at h
        obtain ⟨rfl, -⟩ := h
        exact ⟨c, _, rfl, hc, fun d hd => List.mem_takeWhile_imp hd⟩
    · split at h
      · cases isEscaped with
        | false => simp at h
        | true => exact hescaped h
      · cases h

/-! ## Names among tokens -/

/-- The text of a keyword is a word. -/
theorem isWord_text (k : Keyword) : IsWord k.text := by
  cases k <;> decide

/-- A token that is read without a word is no name. -/
theorem nameIn?_orInvalid_map {α : Type} {x : Context} {read : Option α}
    {f : α → Token × List Char} (h : ∀ a, (f a).1.nameIn? x = none) :
    (orInvalid (read.map f)).1.nameIn? x = none := by
  cases read with
  | none => rfl
  | some a => exact h a

/-- Only words are read as names. -/
theorem isWord_of_nameIn?_readToken {x : Context} {cs text : List Char}
    (h : (readToken cs).1.nameIn? x = some text) : IsWord text := by
  cases cs with
  | nil => simp [readToken, Token.nameIn?] at h
  | cons c cs =>
    rw [readToken] at h
    split at h
    · cases hread : readWord? (c :: cs) with
      | none => simp [hread, orInvalid, Token.nameIn?] at h
      | some word =>
        obtain ⟨written, isEscaped, rest⟩ := word
        have hword := isWord_of_readWord? hread
        simp only [hread, Option.map_some, orInvalid, Option.getD_some] at h
        cases isEscaped with
        | true =>
          simp only [↓reduceIte, Token.nameIn?, Option.ite_none_left_eq_some,
            Option.some.injEq] at h
          rwa [← h.2]
        | false =>
          simp only [Bool.false_eq_true, ↓reduceIte, Token.ofWord] at h
          split at h
          · simp only [Token.nameIn?, Option.ite_none_left_eq_some, Option.some.injEq] at h
            rw [← h.2]
            exact isWord_text _
          · simp only [Token.nameIn?, Option.some.injEq] at h
            rwa [← h]
    · -- No other token is a name.
      repeat' split at h
      all_goals
        rw [nameIn?_orInvalid_map fun _ => rfl] at h
        cases h

namespace Cursor

/-- A cursor that stands at a token which was read from a text. -/
def IsEntered (c : Cursor) : Prop :=
  ∃ comments pending cs, c = enter comments pending cs

theorem isEntered_next (c : Cursor) : c.next.IsEntered :=
  ⟨_, _, _, rfl⟩

theorem isEntered_of_take? {c d : Cursor} {s : Sign} (h : c.take? s = some d) : d.IsEntered := by
  simp only [take?, Option.ite_none_right_eq_some, Option.some.injEq] at h
  rw [← h.2]
  exact isEntered_next c

theorem isEntered_of_takeWord? {c d : Cursor} {k : Keyword} (h : c.takeWord? k = some d) :
    d.IsEntered := by
  simp only [takeWord?, Option.ite_none_right_eq_some, Option.some.injEq] at h
  rw [← h.2]
  exact isEntered_next c

/-- The name at a cursor is a word. -/
theorem IsEntered.isWord {c : Cursor} (hc : c.IsEntered) {x : Context} {text : List Char}
    (h : c.token.nameIn? x = some text) : IsWord text := by
  obtain ⟨comments, pending, cs, rfl⟩ := hc
  rw [enter_eq_ofGap] at h
  cases hgap : Gap.skip false comments .between cs with
  | none => simp [hgap, ofGap, Token.nameIn?] at h
  | some gap =>
    rw [hgap, ofGap] at h
    exact isWord_of_nameIn?_readToken h

end Cursor

/-! ## Names among imports -/

section

variable {x : Context} {c d : Cursor} {names : List (List Char)}

/-- The local name of an import is a word. -/
theorem isWord_of_readImportedName {text : List Char} (hc : c.IsEntered)
    (h : readImportedName x c = some (text, d)) : IsWord text := by
  unfold readImportedName at h
  split at h <;> simp only [Option.map_eq_some_iff, Prod.mk.injEq] at h
  · obtain ⟨name, hname, rfl, -⟩ := h
    exact (Cursor.isEntered_next _).isWord hname
  · obtain ⟨name, hname, rfl, -⟩ := h
    exact hc.isWord hname

/-- All local names of an import list are words. -/
theorem isWord_of_readImportedNames {n : Nat} (hc : c.IsEntered)
    (h : readImportedNames x n c = some (names, d)) : ∀ name ∈ names, IsWord name := by
  induction n generalizing c d names with
  | zero => simp [readImportedNames] at h
  | succ n ih =>
    rw [readImportedNames] at h
    split at h
    · simp only [Option.some.injEq, Prod.mk.injEq] at h
      simp [← h.1]
    · split at h
      · cases h
      · rename_i text after hname
        have hword := isWord_of_readImportedName hc hname
        split at h <;> simp only [Option.map_eq_some_iff, Prod.exists, Prod.mk.injEq] at h
        · obtain ⟨rest, _, hrest, rfl, -⟩ := h
          exact List.forall_mem_cons.2 ⟨hword, ih (Cursor.isEntered_next _) hrest⟩
        · obtain ⟨_, -, rfl, -⟩ := h
          exact List.forall_mem_singleton.2 hword

/-- All names that an import clause binds are words. -/
theorem isWord_of_readImportClause (h : readImportClause x c = some (names, d)) :
    ∀ name ∈ names, IsWord name := by
  unfold readImportClause at h
  split at h
  · simp only [Option.bind_eq_bind, Option.bind_eq_some_iff, Option.pure_def, Option.some.injEq,
      Prod.mk.injEq] at h
    obtain ⟨after, hafter, name, hname, rfl, -⟩ := h
    exact List.forall_mem_singleton.2 ((Cursor.isEntered_of_takeWord? hafter).isWord hname)
  · simp only [Option.bind_eq_bind, Option.bind_eq_some_iff] at h
    obtain ⟨after, hafter, hnames⟩ := h
    exact isWord_of_readImportedNames (Cursor.isEntered_of_take? hafter) hnames

/-- Behind the phase of an import the cursor stands at a token again. -/
theorem isEntered_skipImportPhase (hc : c.IsEntered) : (skipImportPhase x c).IsEntered := by
  unfold skipImportPhase
  split
  · exact Cursor.isEntered_next c
  · split
    · exact Cursor.isEntered_next c
    · exact hc

/-- All names that an import binds are words. -/
theorem isWord_of_readImport (hc : c.IsEntered) (h : readImport x c = some (names, d)) :
    ∀ name ∈ names, IsWord name := by
  unfold readImport at h
  split at h
  · simp only [Option.map_eq_some_iff, Prod.mk.injEq] at h
    obtain ⟨_, -, rfl, -⟩ := h
    simp
  · extract_lets after at h
    split at h
    · rename_i text hname
      have hword := (isEntered_skipImportPhase hc).isWord hname
      split at h
      · simp only [Option.bind_eq_bind, Option.bind_eq_some_iff, Option.pure_def, Option.some.injEq,
          Prod.exists, Prod.mk.injEq] at h
        obtain ⟨rest, _, hrest, _, -, rfl, -⟩ := h
        exact List.forall_mem_cons.2 ⟨hword, isWord_of_readImportClause hrest⟩
      · simp only [Option.map_eq_some_iff, Prod.mk.injEq] at h
        obtain ⟨_, -, rfl, -⟩ := h
        exact List.forall_mem_singleton.2 hword
    · simp only [Option.bind_eq_bind, Option.bind_eq_some_iff, Option.pure_def, Option.some.injEq,
        Prod.exists, Prod.mk.injEq] at h
      obtain ⟨_, _, hclause, _, -, rfl, -⟩ := h
      exact isWord_of_readImportClause hclause

/-- An item of a script imports words only, whatever the grammar of its statements. -/
theorem isWord_of_readItem? {read : Reader} {exported : List (List Char)}
    (h : readItem? read c = some (names, exported, d)) : ∀ name ∈ names, IsWord name := by
  unfold readItem? at h
  split at h
  · simp only [Option.map_eq_some_iff, Prod.exists, Prod.mk.injEq] at h
    obtain ⟨_, _, himport, rfl, -⟩ := h
    exact isWord_of_readImport (Cursor.isEntered_next c) himport
  · split at h <;> simp only [Option.map_eq_some_iff, Prod.exists, Prod.mk.injEq] at h <;>
      obtain ⟨_, _, -, rfl, -⟩ := h <;> simp

end

/-! ## Names among whole scripts -/

/-- All names that a script imports are words. -/
theorem isWord_of_readItems? {read : Reader} {n : Nat} {c : Cursor} {s : Script}
    (h : readItems? read n c = some s) : ∀ name ∈ s.imported, IsWord name := by
  induction n generalizing c s with
  | zero => simp [readItems?] at h
  | succ n ih =>
    rw [readItems?] at h
    split at h
    · simp only [Option.ite_none_right_eq_some, Option.some.injEq] at h
      simp [← h.2]
    · split at h
      · cases h
      · rename_i hitem
        simp only [Option.map_eq_some_iff] at h
        obtain ⟨rest, hrest, rfl⟩ := h
        exact List.forall_mem_append.2 ⟨isWord_of_readItem? hitem, ih hrest⟩

/-- The imports of a script declare words only. -/
theorem isWord_of_mem_imported {source : List Char} {s : Script} (h : read? source = some s) :
    ∀ name ∈ s.imported, IsWord name := by
  unfold read? at h
  split at h
  · rename_i hitems
    simp only [Option.ite_none_right_eq_some, Option.some.injEq] at h
    rw [← h.2]
    exact isWord_of_readItems? hitems
  · cases h

/-- All names that a statement imports are words. -/
theorem isWord_of_importedNames? {statement : String} {names : List String}
    (h : importedNames? statement = some names) : ∀ name ∈ names, IsWord name.toList := by
  simp only [importedNames?, Option.map_eq_some_iff] at h
  obtain ⟨s, hread, rfl⟩ := h
  intro name hname
  obtain ⟨text, htext, rfl⟩ := List.mem_map.1 hname
  rw [String.toList_ofList]
  exact isWord_of_mem_imported hread text htext

/-! ## The import of one name -/

/-- The import of a word that is no keyword declares the word. -/
theorem IsPlainWord.importedNames?_namedImport {key : List Char} (hkey : IsPlainWord key)
    {moduleName : List Char}
    (hmodule : ∀ c ∈ moduleName, c ≠ '\x27' ∧ c ≠ '\\' ∧ endsLine c = false) {statement : String}
    (h : statement.toList = (ScriptLine.namedImport key moduleName).write) :
    importedNames? statement = some [String.ofList key] := by
  obtain ⟨units, hunits⟩ := Cursor.enter_string (Or.inr rfl) hmodule [] []
  have hend : Cursor.enter [] 0 [] = ⟨.finish, false, [], [], 0⟩ := rfl
  have hstart : Cursor.start statement.toList = ⟨.keyword .import_, false,
      ' ' :: '\x7b' :: ' ' :: (key ++ ' ' :: '\x7d' :: writeFrom ('\x27' :: moduleName ++ ['\x27']) []),
      [], 0⟩ := by
    have himport : IsWord importWord := by decide
    rw [h, Cursor.start_eq_enter (by simp [ScriptLine.write, importWord]), ScriptLine.write,
      Cursor.enter_word himport (by decide) (Text.stops_cons (by decide) _)]
    rfl
  have hitem (n : Nat) := readItem?_namedImport hkey hunits (by rw [hend]; exact ⟨rfl, .inr rfl⟩)
    (grammar n) false
  obtain ⟨n, hn⟩ : ∃ n, statement.toList.length + 1 = n + 2 := by
    rw [h]
    exact ⟨_, rfl⟩
  rw [importedNames?, read?, hstart, hn, readItems?, hitem, hend]
  simp [readItems?]

/-- An import in which a text stands in the place of a name declares the text exactly if it is a
word. -/
theorem importedNames?_namedImport_iff {key moduleName : List Char}
    (hstart : ∀ c ∈ key.head?, isTokenStart c = true) (hkeyword : Keyword.ofText? key = none)
    (hmodule : ∀ c ∈ moduleName, c ≠ '\x27' ∧ c ≠ '\\' ∧ endsLine c = false) {statement : String}
    (h : statement.toList = (ScriptLine.namedImport key moduleName).write) :
    importedNames? statement = some [String.ofList key] ↔ IsWord key := by
  constructor
  · intro hnames
    simpa using isWord_of_importedNames? hnames (String.ofList key) (List.mem_singleton_self _)
  · intro hword
    have hplain : IsPlainWord key := ⟨hword, hstart, by rw [Token.ofWord, hkeyword]⟩
    exact hplain.importedNames?_namedImport hmodule h

end TemplateImports.Script
