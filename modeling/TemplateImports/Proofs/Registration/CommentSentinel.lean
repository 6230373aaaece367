import TemplateImports.Proofs.Registration.BlockContent
import TemplateImports.Proofs.Registration.InjectionRun
import TemplateImports.Proofs.Script.Lines

/-!
# Sentinels among comments

A sentinel that is written as a comment is found where a comment starts with it, and nowhere else:
no quoted text and no inside of another comment is mistaken for it.  Blocks that are put in front of
it leave a script of lines again, so that each step of a run finds the same comment.

The invariant of a run is the first comment that starts with the sentinel: a block holds no such
comment, and the lines in front of the comment stay as they are.

Main results:

- Structure `FirstComment` says which line the sentinel stands for.
- Theorem `locate?_writeLines_iff` says that the sentinel is found at the start of this line.
- Theorem `exists_blockLines` says that a block is made of lines.
- Theorem `injectRun_comment` says what a run leaves in a script of lines.
-/

namespace TemplateImports

open Text Script

/-! ## The first comment that starts with a sentinel -/

namespace Script

/-- The text in front of a line. -/
def writeFront (lines : List ScriptLine) : List Char :=
  lines.flatMap fun line => line.write ++ ['\n']

theorem writeFront_append (first second : List ScriptLine) :
    writeFront (first ++ second) = writeFront first ++ writeFront second :=
  List.flatMap_append

theorem writeLines_append_cons (before : List ScriptLine) (line : ScriptLine)
    (after : List ScriptLine) :
    writeLines (before ++ line :: after) = writeFront before ++ writeLines (line :: after) := by
  induction before with
  | nil => rfl
  | cons first before ih =>
    have hbehind : behind (before ++ line :: after) = '\n' :: writeLines (before ++ line :: after) := by
      cases before <;> rfl
    rw [List.cons_append, writeLines, hbehind, ih]
    simp [writeFront]

/-- A line is the first comment from whose start on the text starts with a sentinel. -/
structure FirstComment (sentinel : List Char) (before : List ScriptLine) (line : ScriptLine)
    (after : List ScriptLine) : Prop where
  isComment : line.isComment = true
  starts : sentinel <+: writeLines (line :: after)
  first : ∀ early earlier late, before = early ++ earlier :: late → earlier.isComment = true →
    ¬ sentinel <+: writeLines (earlier :: late ++ line :: after)

theorem firstComment_nil_iff {sentinel : List Char} {line : ScriptLine}
    {after : List ScriptLine} :
    FirstComment sentinel [] line after ↔
      line.isComment = true ∧ sentinel <+: writeLines (line :: after) := by
  constructor
  · intro h
    exact ⟨h.isComment, h.starts⟩
  · rintro ⟨hcomment, hstarts⟩
    exact ⟨hcomment, hstarts, by simp⟩

theorem firstComment_cons_iff {sentinel : List Char} {first line : ScriptLine}
    {before after : List ScriptLine} :
    FirstComment sentinel (first :: before) line after ↔
      ¬ (first.isComment = true ∧ sentinel <+: writeLines (first :: before ++ line :: after)) ∧
        FirstComment sentinel before line after := by
  constructor
  · intro h
    refine ⟨fun hfirst => h.first [] first before rfl hfirst.1 hfirst.2, h.isComment, h.starts, ?_⟩
    rintro early earlier late rfl
    exact h.first (first :: early) earlier late rfl
  · rintro ⟨hnot, h⟩
    refine ⟨h.isComment, h.starts, ?_⟩
    intro early earlier late hcut hcomment hstarts
    cases early with
    | nil =>
      simp only [List.nil_append, List.cons.injEq] at hcut
      obtain ⟨rfl, rfl⟩ := hcut
      exact hnot ⟨hcomment, hstarts⟩
    | cons e early =>
      simp only [List.cons_append, List.cons.injEq] at hcut
      exact h.first early earlier late hcut.2 hcomment hstarts

/-- The comment texts are those of the lines that are comments. -/
theorem mem_commentTexts_iff {text : List Char} {lines : List ScriptLine} :
    text ∈ commentTexts lines ↔
      ∃ before line after, lines = before ++ line :: after ∧ line.isComment = true ∧
        text = writeLines (line :: after) := by
  induction lines with
  | nil => simp [commentTexts]
  | cons first lines ih =>
    have hsplit : text ∈ commentTexts (first :: lines) ↔
        (first.isComment = true ∧ text = writeLines (first :: lines)) ∨
          text ∈ commentTexts lines := by
      cases hcomment : first.isComment <;> simp [commentTexts, hcomment]
    rw [hsplit, ih]
    constructor
    · rintro (⟨hcomment, htext⟩ | ⟨before, line, after, rfl, hline⟩)
      · exact ⟨[], first, lines, rfl, hcomment, htext⟩
      · exact ⟨first :: before, line, after, rfl, hline⟩
    · rintro ⟨before, line, after, hcut, hline⟩
      cases before with
      | nil =>
        simp only [List.nil_append, List.cons.injEq] at hcut
        obtain ⟨rfl, rfl⟩ := hcut
        exact Or.inl hline
      | cons e before =>
        simp only [List.cons_append, List.cons.injEq] at hcut
        exact Or.inr ⟨before, line, after, hcut.2, hline⟩

/-- The first comment text that starts with a sentinel belongs to the first such line. -/
theorem find?_commentTexts_iff {sentinel text : List Char} {lines : List ScriptLine} :
    (commentTexts lines).find? (sentinel.isPrefixOf ·) = some text ↔
      ∃ before line after, lines = before ++ line :: after ∧
        FirstComment sentinel before line after ∧ text = writeLines (line :: after) := by
  induction lines with
  | nil => simp [commentTexts]
  | cons first lines ih =>
    by_cases h : first.isComment = true ∧ sentinel <+: writeLines (first :: lines)
    · have hfind : (commentTexts (first :: lines)).find? (sentinel.isPrefixOf ·) =
          some (writeLines (first :: lines)) := by
        rw [commentTexts, if_pos h.1, List.find?_cons_of_pos (by simpa using h.2)]
      rw [hfind]
      constructor
      · rintro heq
        obtain rfl : writeLines (first :: lines) = text := by simpa using heq
        exact ⟨[], first, lines, rfl, firstComment_nil_iff.2 h, rfl⟩
      · rintro ⟨before, line, after, hcut, hfirst, rfl⟩
        cases before with
        | nil =>
          simp only [List.nil_append, List.cons.injEq] at hcut
          rw [hcut.1, hcut.2]
        | cons e before =>
          simp only [List.cons_append, List.cons.injEq] at hcut
          obtain ⟨rfl, rfl⟩ := hcut
          exact absurd h (firstComment_cons_iff.1 hfirst).1
    · have hfind : (commentTexts (first :: lines)).find? (sentinel.isPrefixOf ·) =
          (commentTexts lines).find? (sentinel.isPrefixOf ·) := by
        rw [commentTexts]
        split
        · rename_i hcomment
          rw [List.find?_cons_of_neg (by simpa [hcomment] using h)]
        · rfl
      rw [hfind, ih]
      constructor
      · rintro ⟨before, line, after, rfl, hfirst, htext⟩
        exact ⟨first :: before, line, after, rfl, firstComment_cons_iff.2 ⟨h, hfirst⟩, htext⟩
      · rintro ⟨before, line, after, hcut, hfirst, htext⟩
        cases before with
        | nil =>
          simp only [List.nil_append, List.cons.injEq] at hcut
          obtain ⟨rfl, rfl⟩ := hcut
          exact absurd (firstComment_nil_iff.1 hfirst) h
        | cons e before =>
          simp only [List.cons_append, List.cons.injEq] at hcut
          obtain ⟨rfl, rfl⟩ := hcut
          exact ⟨before, line, after, rfl, (firstComment_cons_iff.1 hfirst).2, htext⟩

end Script

/-- In a script of lines, a sentinel that is written as a comment is looked for among the lines. -/
theorem locate?_writeLines {lines : List ScriptLine}
    (hlines : ∀ line ∈ lines, line.WellFormed) {sentinel : List Char}
    (hsentinel : isCommentLike sentinel = true) :
    locate? (writeLines lines) sentinel =
      ((commentTexts lines).find? (sentinel.isPrefixOf ·)).map (offsetOfEnd (writeLines lines)) := by
  have hne : sentinel.isEmpty = false := by
    cases sentinel with
    | nil => simp [isCommentLike] at hsentinel
    | cons c cs => rfl
  simp [locate?, hne, hsentinel, read?_writeLines hlines, locateComment?]

/-- In a script of lines, a sentinel that is written as a comment is found at the start of the first
comment from which on the text starts with it. -/
theorem locate?_writeLines_iff {lines : List ScriptLine}
    (hlines : ∀ line ∈ lines, line.WellFormed) {sentinel : List Char}
    (hsentinel : isCommentLike sentinel = true) {p : Nat} :
    locate? (writeLines lines) sentinel = some p ↔
      ∃ before line after, lines = before ++ line :: after ∧
        FirstComment sentinel before line after ∧ p = byteSize (writeFront before) := by
  have hoffset (before : List ScriptLine) (line : ScriptLine) (after : List ScriptLine) :
      offsetOfEnd (writeLines (before ++ line :: after)) (writeLines (line :: after)) =
        byteSize (writeFront before) := by
    simp [offsetOfEnd, writeLines_append_cons]
  simp only [locate?_writeLines hlines hsentinel, Option.map_eq_some_iff, find?_commentTexts_iff]
  constructor
  · rintro ⟨text, ⟨before, line, after, rfl, hfirst, rfl⟩, rfl⟩
    exact ⟨before, line, after, rfl, hfirst, hoffset before line after⟩
  · rintro ⟨before, line, after, rfl, hfirst, rfl⟩
    exact ⟨_, ⟨before, line, after, rfl, hfirst, rfl⟩, hoffset before line after⟩

/-- In a script of lines, a sentinel that is written as a comment is not found exactly if the text
starts with it at no comment. -/
theorem locate?_writeLines_eq_none_iff {lines : List ScriptLine}
    (hlines : ∀ line ∈ lines, line.WellFormed) {sentinel : List Char}
    (hsentinel : isCommentLike sentinel = true) :
    locate? (writeLines lines) sentinel = none ↔
      ∀ before line after, lines = before ++ line :: after → line.isComment = true →
        ¬ sentinel <+: writeLines (line :: after) := by
  rw [locate?_writeLines hlines hsentinel, Option.map_eq_none_iff, List.find?_eq_none]
  simp only [List.isPrefixOf_iff_prefix, mem_commentTexts_iff]
  constructor
  · intro h before line after hcut hcomment
    exact h _ ⟨before, line, after, hcut, hcomment, rfl⟩
  · rintro h text ⟨before, line, after, hcut, hcomment, rfl⟩
    exact h before line after hcut hcomment

/-! ## Blocks as lines -/

/-- An import of one name from a module whose name needs no escapes. -/
def IsNamedImport (i : Import) : Prop :=
  ∃ key moduleName : String, IsKeyWord key.toList ∧
    (∀ c ∈ moduleName.toList, c ≠ '\x27' ∧ c ≠ '\\' ∧ endsLine c = false) ∧
    i = Library.namedImport key moduleName

theorem IsNamedImport.isKeyWord {i : Import} (h : IsNamedImport i) : IsKeyWord i.key.toList := by
  obtain ⟨key, moduleName, hkey, -, rfl⟩ := h
  simpa [Library.namedImport] using hkey

/-- The statement of an import is a line that imports its key. -/
theorem IsNamedImport.exists_line {i : Import} (h : IsNamedImport i) :
    ∃ line : ScriptLine, line.write = i.statement.toList ∧ line.WellFormed ∧
      line.isComment = false ∧ line.imported = [i.key.toList] := by
  obtain ⟨key, moduleName, hkey, hmodule, rfl⟩ := h
  refine ⟨.namedImport key.toList moduleName.toList, ?_, ⟨hkey, hmodule⟩, rfl, ?_⟩
  · simp [ScriptLine.write, importWord, writeFrom, Library.namedImport]
  · simp [ScriptLine.imported, Library.namedImport]

/-- The text of a line tells what the line imports. -/
theorem Script.imported_of_write_eq {first second : ScriptLine} (hfirst : first.WellFormed)
    (hsecond : second.WellFormed) (h : first.write = second.write) :
    first.imported = second.imported := by
  have hread : read? (writeLines [first]) = _ := read?_writeLines (by simpa using hfirst)
  have hread' : read? (writeLines [second]) = _ := read?_writeLines (by simpa using hsecond)
  simp only [writeLines, h] at hread hread'
  rw [hread] at hread'
  simp only [Option.some.injEq, Script.mk.injEq] at hread'
  simpa [importedNames] using hread'.2.1

/-- The statements of imports are lines that import their keys. -/
theorem exists_statementLines {imports : List Import} (h : ∀ i ∈ imports, IsNamedImport i) :
    ∃ lines : List ScriptLine,
      (statements imports).map String.toList = lines.map ScriptLine.write ∧
      (∀ line ∈ lines, line.WellFormed ∧ line.isComment = false) ∧
      ∀ i ∈ imports, i.key.toList ∈ importedNames lines := by
  have hlines (texts : List String)
      (htexts : ∀ text ∈ texts, ∃ line : ScriptLine,
        line.write = text.toList ∧ line.WellFormed ∧ line.isComment = false) :
      ∃ lines : List ScriptLine, texts.map String.toList = lines.map ScriptLine.write ∧
        ∀ line ∈ lines, line.WellFormed ∧ line.isComment = false := by
    induction texts with
    | nil => exact ⟨[], rfl, by simp⟩
    | cons text texts ih =>
      obtain ⟨lines, hwrite, hlines⟩ := ih fun t ht => htexts t (List.mem_cons_of_mem _ ht)
      obtain ⟨line, hline, hwell⟩ := htexts text (by simp)
      exact ⟨line :: lines, by simp [hwrite, hline], by simpa [hwell] using hlines⟩
  have hmem := (keepsFirst_statements imports).mem_iff
  obtain ⟨lines, hwrite, hwell⟩ := hlines (statements imports) (by
    intro text htext
    obtain ⟨i, hi, rfl⟩ := List.mem_map.1 ((hmem text).1 htext)
    obtain ⟨line, hline, hformed, hcomment, -⟩ := (h i hi).exists_line
    exact ⟨line, hline, hformed, hcomment⟩)
  refine ⟨lines, hwrite, hwell, ?_⟩
  intro i hi
  obtain ⟨line, hline, hformed, -, himported⟩ := (h i hi).exists_line
  have hstatement : i.statement.toList ∈ lines.map ScriptLine.write := by
    rw [← hwrite]
    exact List.mem_map_of_mem ((hmem _).2 (List.mem_map_of_mem hi))
  obtain ⟨other, hother, hsame⟩ := List.mem_map.1 hstatement
  have heq := Script.imported_of_write_eq hformed (hwell other hother).1 (hline.trans hsame.symm)
  exact List.mem_flatMap.2 ⟨other, hother, by simp [← heq, himported]⟩

theorem isPlainWord_helper (c : Category) : IsPlainWord c.helper.toList := by
  have hletters : ∃ d ds, c.helper.toList = d :: ds ∧ d.isAlpha = true ∧
      ∀ e ∈ ds, e.isAlphanum = true := by
    cases c <;> exact ⟨_, _, rfl, by decide, by decide⟩
  have hkeyword : Keyword.ofText? c.helper.toList = none := by
    cases c <;> decide +kernel
  obtain ⟨d, ds, hcs, hd, hds⟩ := hletters
  rw [hcs] at hkeyword ⊢
  exact isPlainWord_of_isAlpha hd hds hkeyword

theorem toList_intercalate_keys (keys : List String) :
    (",".intercalate keys).toList ++ ['\x7d', ')'] =
      writeKeys [')'] (keys.map String.toList) := by
  induction keys with
  | nil => rfl
  | cons key keys ih =>
    cases keys with
    | nil => simp [writeKeys]
    | cons other keys =>
      rw [String.intercalate_cons_cons]
      simpa [writeKeys] using ih

namespace Generator

theorem toList_helperImport (g : Generator) (c : Category) :
    (g.helperImport c).toList =
      (ScriptLine.defaultImport c.helper.toList ("!" ++ g.helperPaths.path c)).write := by
  simp [helperImport, ScriptLine.write, importWord, writeFrom]

theorem toList_registrationCall (c : Category) (keys : List String) :
    (registrationCall c keys).toList =
      (ScriptLine.call c.helper.toList (keys.map String.toList)).write := by
  simp [registrationCall, ScriptLine.write, writeArguments, componentName,
    ← toList_intercalate_keys]

theorem toList_joinLines (lines : List String) :
    (joinLines lines).toList = lines.flatMap fun line => line.toList ++ ['\n'] := by
  induction lines with
  | nil => rfl
  | cons line lines ih =>
    unfold joinLines at ih ⊢
    simp [String.join_cons, ih]

/-- The frame of a block is a comment that does not start with the sentinel, which is a comment
itself and stands on one line. -/
structure FramedByComments (g : Generator) (marker : ScriptLine) : Prop where
  isCommentLike : isCommentLike g.sentinel.toList = true
  oneLine : '\n' ∉ g.sentinel.toList
  write_marker : marker.write = g.marker.toList
  wellFormed : marker.WellFormed
  not_sentinel : ¬ g.sentinel.toList <+: marker.write

/-- Lines that can stand in front of the sentinel without being mistaken for it. -/
structure Precedes (g : Generator) (lines : List ScriptLine) : Prop where
  wellFormed : ∀ line ∈ lines, line.WellFormed
  not_sentinel : ∀ line ∈ lines, line.isComment = true → ¬ g.sentinel.toList <+: line.write

variable {g : Generator} {marker : ScriptLine}

/-- The block for imports, with the blank line behind it, is made of lines. -/
theorem exists_blockLines (hframe : g.FramedByComments marker) (c : Category)
    {imports : List Import} (hne : imports ≠ []) (himports : ∀ i ∈ imports, IsNamedImport i) :
    ∃ block lines, g.block? c imports = some block ∧
      block.toList ++ blankLine = writeFront lines ∧ g.Precedes lines ∧
      ∀ i ∈ imports, i.key.toList ∈ importedNames lines := by
  obtain ⟨imported, hwrite, himported, hkeys⟩ := exists_statementLines himports
  let helper : ScriptLine :=
    .defaultImport c.helper.toList ("!" ++ g.helperPaths.path c)
  let call : ScriptLine :=
    .call c.helper.toList ((registeredKeys imports).map String.toList)
  refine ⟨_, marker :: helper :: (imported ++ [call, .blank, .blank]),
    block?_of_ne_nil g c hne, ?_, ⟨?_, ?_⟩, ?_⟩
  · have hlines : ((statements imports).flatMap fun line => line.toList ++ ['\n']) =
        writeFront imported := by
      have hmap := congrArg (List.flatMap (· ++ ['\n'])) hwrite
      rw [List.flatMap_map, List.flatMap_map] at hmap
      exact hmap
    have hhelper : helper.write = (g.helperImport c).toList := (toList_helperImport g c).symm
    have hcall : call.write = (registrationCall c (registeredKeys imports)).toList :=
      (toList_registrationCall c _).symm
    have hblank : ScriptLine.write .blank = [] := rfl
    simp [blockText, toList_joinLines, hlines, writeFront, hframe.write_marker, hhelper, hcall,
      hblank, blankLine]
  · have hhelper : helper.WellFormed := isPlainWord_helper c
    have hcall : call.WellFormed := by
      refine ⟨isPlainWord_helper c, ?_⟩
      intro key hkey
      obtain ⟨name, hname, rfl⟩ := List.mem_map.1 hkey
      obtain ⟨i, hi, rfl⟩ := mem_registeredKeys.1 hname
      exact (himports i hi).isKeyWord
    have hblank : ScriptLine.WellFormed .blank := trivial
    simp only [List.mem_cons, List.mem_append, List.not_mem_nil, or_false]
    rintro line (rfl | rfl | hline | rfl | rfl | rfl)
    · exact hframe.wellFormed
    · exact hhelper
    · exact (himported line hline).1
    · exact hcall
    · exact hblank
    · exact hblank
  · simp only [List.mem_cons, List.mem_append, List.not_mem_nil, or_false]
    rintro line (rfl | rfl | hline | rfl | rfl | rfl) hcomment
    · exact hframe.not_sentinel
    · simp [helper, ScriptLine.isComment] at hcomment
    · simp [(himported line hline).2] at hcomment
    · simp [call, ScriptLine.isComment] at hcomment
    · simp [ScriptLine.isComment] at hcomment
    · simp [ScriptLine.isComment] at hcomment
  · intro i hi
    have hkey := hkeys i hi
    simp only [importedNames, List.flatMap_cons, List.flatMap_append, List.mem_append] at hkey ⊢
    exact Or.inr (Or.inr (Or.inl hkey))

/-! ## Runs -/

theorem Precedes.append {first second : List ScriptLine} (hfirst : g.Precedes first)
    (hsecond : g.Precedes second) : g.Precedes (first ++ second) := by
  constructor
  · intro line hline
    rcases List.mem_append.1 hline with hline | hline
    · exact hfirst.wellFormed line hline
    · exact hsecond.wellFormed line hline
  · intro line hline
    rcases List.mem_append.1 hline with hline | hline
    · exact hfirst.not_sentinel line hline
    · exact hsecond.not_sentinel line hline

/-- A sentinel on one line stands in one line. -/
theorem prefix_write_of_prefix_writeLines {sentinel : List Char} (h : '\n' ∉ sentinel)
    {line : ScriptLine} {lines : List ScriptLine}
    (hstart : sentinel <+: writeLines (line :: lines)) : sentinel <+: line.write := by
  cases lines with
  | nil => simpa [writeLines, behind] using hstart
  | cons other lines => exact prefix_of_prefix_append_cons h _ _ hstart

/-- Lines that precede the sentinel may stand in front of the first comment with it. -/
theorem Precedes.firstComment {before after : List ScriptLine} {line : ScriptLine}
    (hline : '\n' ∉ g.sentinel.toList) (hbefore : g.Precedes before)
    (hcomment : line.isComment = true)
    (hstarts : g.sentinel.toList <+: writeLines (line :: after)) :
    FirstComment g.sentinel.toList before line after := by
  refine ⟨hcomment, hstarts, ?_⟩
  rintro early earlier late rfl hearlier hstart
  exact hbefore.not_sentinel earlier (by simp) hearlier
    (prefix_write_of_prefix_writeLines hline hstart)

theorem Precedes.of_firstComment {before after : List ScriptLine} {line : ScriptLine}
    (hlines : ∀ l ∈ before, l.WellFormed)
    (h : FirstComment g.sentinel.toList before line after) : g.Precedes before := by
  refine ⟨hlines, ?_⟩
  intro earlier hmem hearlier hstart
  obtain ⟨early, late, rfl⟩ := List.append_of_mem hmem
  refine h.first early earlier late rfl hearlier (hstart.trans ?_)
  exact List.prefix_append _ _

/-- A step puts its block in front of the first comment that starts with the sentinel. -/
theorem toList_inject_of_precedes (hframe : g.FramedByComments marker) {source : String}
    {before after : List ScriptLine} {line : ScriptLine} (hbefore : g.Precedes before)
    (hafter : ∀ l ∈ line :: after, l.WellFormed) (hcomment : line.isComment = true)
    (hstarts : g.sentinel.toList <+: writeLines (line :: after))
    (hsource : source.toList = writeLines (before ++ line :: after)) {c : Category}
    {imports : List Import} {block : String} (hblock : g.block? c imports = some block) :
    (g.inject source c imports).toList =
      writeFront before ++ block.toList ++ blankLine ++ writeLines (line :: after) := by
  have hlines : ∀ l ∈ before ++ line :: after, l.WellFormed := by
    intro l hl
    rcases List.mem_append.1 hl with hl | hl
    · exact hbefore.wellFormed l hl
    · exact hafter l hl
  have hfirst := hbefore.firstComment hframe.oneLine hcomment hstarts
  have hoffset : locate? source.toList g.sentinel.toList = some (byteSize (writeFront before)) := by
    rw [hsource]
    exact (locate?_writeLines_iff hlines hframe.isCommentLike).2 ⟨before, line, after, rfl, hfirst, rfl⟩
  have hcut : cutAt? (byteSize (writeFront before)) source.toList =
      some (writeFront before, writeLines (line :: after)) :=
    cutAt?_eq_some_iff.2 ⟨by rw [hsource, writeLines_append_cons], rfl⟩
  simp [inject, injectAt, hblock, offset?, hoffset, splice, hcut, blankLine]

/-- A run puts its blocks in front of the first comment that starts with the sentinel, as lines that
precede the sentinel. -/
theorem exists_runLines (hframe : g.FramedByComments marker) {steps : List InjectionStep}
    (hsteps : ∀ step ∈ steps, ∀ i ∈ step.2, IsNamedImport i) {source : String}
    {before after : List ScriptLine} {line : ScriptLine} (hbefore : g.Precedes before)
    (hafter : ∀ l ∈ line :: after, l.WellFormed) (hcomment : line.isComment = true)
    (hstarts : g.sentinel.toList <+: writeLines (line :: after))
    (hsource : source.toList = writeLines (before ++ line :: after)) :
    ∃ inserted, g.Precedes inserted ∧
      (g.runBlocks steps).flatMap (fun block => block.toList ++ blankLine) = writeFront inserted ∧
      (g.injectRun source steps).toList = writeLines (before ++ inserted ++ line :: after) ∧
      ∀ step ∈ steps, ∀ i ∈ step.2, i.key.toList ∈ importedNames inserted := by
  induction steps generalizing source before with
  | nil => exact ⟨[], ⟨by simp, by simp⟩, rfl, by simpa [injectRun] using hsource, by simp⟩
  | cons step steps ih =>
    have hsteps' : ∀ s ∈ steps, ∀ i ∈ s.2, IsNamedImport i :=
      fun s hs => hsteps s (List.mem_cons_of_mem _ hs)
    have hrun : g.injectRun source (step :: steps) =
        g.injectRun (g.inject source step.1 step.2) steps := rfl
    rw [hrun, runBlocks_cons]
    by_cases hempty : step.2 = []
    · have hblock : g.block? step.1 step.2 = none := block?_eq_none_iff.2 hempty
      rw [inject_of_block?_eq_none hblock, hblock]
      obtain ⟨inserted, hinserted, hwrite, htext, hkeys⟩ := ih hsteps' hbefore hsource
      refine ⟨inserted, hinserted, hwrite, htext, ?_⟩
      intro s hs
      rcases List.mem_cons.1 hs with rfl | hs
      · simp [hempty]
      · exact hkeys s hs
    · obtain ⟨block, lines, hblock, hwrite, hlines, hkeys⟩ :=
        exists_blockLines hframe step.1 hempty (hsteps step (by simp))
      have hstep := toList_inject_of_precedes hframe hbefore hafter hcomment hstarts hsource hblock
      have hnext : (g.inject source step.1 step.2).toList =
          writeLines (before ++ lines ++ line :: after) := by
        rw [hstep, List.append_assoc _ block.toList, hwrite, writeLines_append_cons,
          writeFront_append]
      obtain ⟨inserted, hinserted, hwrite', htext, hkeys'⟩ :=
        ih hsteps' (hbefore.append hlines) hnext
      refine ⟨lines ++ inserted, hlines.append hinserted, ?_, ?_, ?_⟩
      · simp [hblock, hwrite', ← hwrite, writeFront_append]
      · rw [htext]
        simp
      · intro s hs i hi
        rw [importedNames, List.flatMap_append, List.mem_append]
        rcases List.mem_cons.1 hs with rfl | hs
        · exact Or.inl (hkeys i hi)
        · exact Or.inr (hkeys' s hs i hi)

/-- The usual frame is made of comments. -/
theorem framedByComments_of_usual (hsentinel : g.sentinel = "/* hot reload */")
    (hmarker : g.marker = "/* vuetify-loader */") :
    g.FramedByComments (.blockComment " vuetify-loader ".toList) where
  isCommentLike := by
    rw [hsentinel]
    decide
  oneLine := by
    rw [hsentinel]
    decide
  write_marker := by
    rw [hmarker]
    rfl
  wellFormed := by
    constructor <;> decide
  not_sentinel := by
    rw [hsentinel]
    decide

/-- In a script of lines, whatever its quoted texts and comments hold, a sentinel that is written as
a comment is found at the first comment from whose start on the text starts with it, and not at all
if there is none.  A run with the usual frame puts its blocks, each with a blank line behind it and
in the order of the steps, in front of just this comment.  It leaves a script, which imports what
was registered and in which the same comment is found. -/
theorem injectRun_comment (lines : List ScriptLine) (hlines : ∀ line ∈ lines, line.WellFormed) :
    (∀ sentinel, TemplateImports.isCommentLike sentinel = true →
      (∀ p, locate? (writeLines lines) sentinel = some p ↔
        ∃ before line after, lines = before ++ line :: after ∧
          FirstComment sentinel before line after ∧ p = byteSize (writeFront before)) ∧
      (locate? (writeLines lines) sentinel = none ↔
        ∀ before line after, lines = before ++ line :: after → line.isComment = true →
          ¬ sentinel <+: writeLines (line :: after))) ∧
    ∀ (g : Generator) (steps : List InjectionStep) (p : Nat),
      g.sentinel = "/* hot reload */" → g.marker = "/* vuetify-loader */" →
      (∀ step ∈ steps, ∀ i ∈ step.2, IsNamedImport i) →
      locate? (writeLines lines) g.sentinel.toList = some p →
      ∃ before after inserted result s, cutAt? p (writeLines lines) = some (before, after) ∧
        inserted = (g.runBlocks steps).flatMap (fun block => block.toList ++ blankLine) ∧
        result = (g.injectRun (String.ofList (writeLines lines)) steps).toList ∧
        result = before ++ inserted ++ after ∧
        locate? result g.sentinel.toList = some (p + byteSize inserted) ∧
        Script.read? result = some s ∧
        ∀ step ∈ steps, ∀ i ∈ step.2, i.key.toList ∈ s.imported := by
  constructor
  · intro sentinel hsentinel
    exact ⟨fun p => locate?_writeLines_iff hlines hsentinel,
      locate?_writeLines_eq_none_iff hlines hsentinel⟩
  · intro g steps p hsentinel hmarker hsteps hfound
    have hframe := framedByComments_of_usual hsentinel hmarker
    obtain ⟨before, line, after, rfl, hfirst, rfl⟩ :=
      (locate?_writeLines_iff hlines hframe.isCommentLike).1 hfound
    have hbefore : g.Precedes before :=
      .of_firstComment (fun l hl => hlines l (by simp [hl])) hfirst
    have hafter : ∀ l ∈ line :: after, l.WellFormed :=
      fun l hl => hlines l (List.mem_append_right _ hl)
    obtain ⟨inserted, hinserted, hwrite, hresult, hkeys⟩ := exists_runLines hframe hsteps hbefore
      hafter hfirst.isComment hfirst.starts (String.toList_ofList ..)
    -- No comment among the inserted lines starts with the sentinel, so that it is found where it
    -- was.
    have hfront := hbefore.append hinserted
    have hlines' : ∀ l ∈ before ++ inserted ++ line :: after, l.WellFormed := by
      intro l hl
      rcases List.mem_append.1 hl with hl | hl
      · exact hfront.wellFormed l hl
      · exact hafter l hl
    refine ⟨writeFront before, writeLines (line :: after), writeFront inserted, _, _,
      cutAt?_eq_some_iff.2 ⟨writeLines_append_cons .., rfl⟩, hwrite.symm, hresult.symm, ?_, ?_,
      read?_writeLines hlines', ?_⟩
    · rw [writeLines_append_cons, writeFront_append]
    · refine (locate?_writeLines_iff hlines' hframe.isCommentLike).2
        ⟨before ++ inserted, line, after, rfl, ?_, ?_⟩
      · exact hfront.firstComment hframe.oneLine hfirst.isComment hfirst.starts
      · rw [writeFront_append, byteSize_append]
    · intro step hstep i hi
      have hkey := hkeys step hstep i hi
      simp only [importedNames, List.flatMap_append, List.mem_append] at hkey ⊢
      exact Or.inl (Or.inr hkey)

/-- A script with the sentinel inside quoted texts and inside another comment. -/
def decoys : List ScriptLine :=
  [.declaration ['0'] '\x27' "/* hot reload */".toList,
    .lineComment " /* hot reload */".toList,
    .declaration ['1'] '\x60' "\"/* hot reload */".toList,
    .blockComment " hot reload ".toList,
    .declaration ['2'] '"' "/* hot reload */".toList]

/-- A run over a script with decoys, with one more of them in the name of a module. -/
theorem injectRun_comment_decoys :
    (injectRun {} (String.ofList (writeLines decoys))
      [(.tag, [Library.namedImport "VBtn" "a/* hot reload */"]), (.directive, [])]).toList =
    writeFront (decoys.take 3) ++
      (("/* vuetify-loader */\n" ++
        "import installComponents from \"!vuetify-loader/lib/runtime/installComponents\"\n" ++
        "import \x7b VBtn \x7d from 'a/* hot reload */'\n" ++
        "installComponents(component, \x7bVBtn\x7d)\n").toList ++ blankLine) ++
      writeLines (decoys.drop 3) := by
  have hlines : ∀ line ∈ decoys, line.WellFormed := by
    simp only [decoys, List.mem_cons, List.not_mem_nil, or_false]
    rintro line (rfl | rfl | rfl | rfl | rfl)
    · refine ⟨by decide, by decide, by decide, by decide⟩
    · show ∀ c ∈ _, _
      decide
    · refine ⟨by decide, by decide, by decide, by decide⟩
    · constructor <;> decide
    · refine ⟨by decide, by decide, by decide, by decide⟩
  have hfirst : FirstComment "/* hot reload */".toList (decoys.take 3)
      (.blockComment " hot reload ".toList) (decoys.drop 4) := by
    refine firstComment_cons_iff.2 ⟨by decide, firstComment_cons_iff.2 ⟨by decide,
      firstComment_cons_iff.2 ⟨by decide, firstComment_nil_iff.2 ⟨rfl, by decide⟩⟩⟩⟩
  have hnamed : ∀ step ∈ ([(.tag, [Library.namedImport "VBtn" "a/* hot reload */"]),
      (.directive, [])] : List InjectionStep), ∀ i ∈ step.2, IsNamedImport i := by
    simp only [List.mem_cons, List.not_mem_nil, or_false]
    rintro step (rfl | rfl) i hi
    · obtain rfl : i = Library.namedImport "VBtn" "a/* hot reload */" := by simpa using hi
      exact ⟨_, _, ⟨'V', ['B', 't', 'n'], rfl, by decide, by decide⟩, by decide, rfl⟩
    · simp at hi
  have hrun := injectRun_comment decoys hlines
  have hfound : locate? (writeLines decoys) "/* hot reload */".toList =
      some (byteSize (writeFront (decoys.take 3))) :=
    ((hrun.1 _ (by decide)).1 _).2 ⟨_, _, _, rfl, hfirst, rfl⟩
  obtain ⟨before, after, inserted, result, s, hcut, hinserted, hresult, hparts, -⟩ :=
    hrun.2 {} _ _ rfl rfl hnamed hfound
  have hborder : cutAt? (byteSize (writeFront (decoys.take 3))) (writeLines decoys) =
      some (writeFront (decoys.take 3), writeLines (decoys.drop 3)) :=
    cutAt?_eq_some_iff.2 ⟨writeLines_append_cons (decoys.take 3) _ _, rfl⟩
  rw [hborder, Option.some.injEq, Prod.mk.injEq] at hcut
  have hblocks : runBlocks {} [(.tag, [Library.namedImport "VBtn" "a/* hot reload */"]),
      (.directive, [])] =
      ["/* vuetify-loader */\n" ++
        "import installComponents from \"!vuetify-loader/lib/runtime/installComponents\"\n" ++
        "import \x7b VBtn \x7d from 'a/* hot reload */'\n" ++
        "installComponents(component, \x7bVBtn\x7d)\n"] := by
    cbv
  rw [← hresult, hparts, ← hcut.1, ← hcut.2, hinserted, hblocks,
    List.flatMap_singleton]

end Generator

end TemplateImports
