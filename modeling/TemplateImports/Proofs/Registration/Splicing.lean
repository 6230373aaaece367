import TemplateImports.Proofs.Registration.InjectionRun
import TemplateImports.Proofs.Script.ReaderPlaces
import TemplateImports.Proofs.Text.Insertion

/-!
# Steps that put blocks into a script

A step with imports makes one insertion into the text that it finds, and a step without imports
none.  So the source is got back from the text behind a run, however many steps there are and
wherever they put their blocks.

Wherever a sentinel is found, the text can be cut in front of it: a comment is known by the text
from its start on, which is an end of the source.

Main results:

- Theorem `startsWith_of_locate?` says that the sentinel stands where it is found.
- Relation `Generator.Puts` says where a step puts its block; relation `Generator.Makes` lists the
  insertions of a run.
- Theorems `exists_makes` and `Makes.removed` give the insertions of any run and take them out
  again.
- Theorem `placeAll_eq_self_iff` says when a run changes nothing.
-/

namespace TemplateImports

open Text

/-! ## Where the sentinel is found -/

/-- Where a sentinel is found the text can be cut, and the sentinel stands behind the cut. -/
theorem startsWith_of_locate? {source sentinel : List Char} {n : Nat}
    (h : locate? source sentinel = some n) :
    ∃ before after, source = before ++ after ∧ byteSize before = n ∧ sentinel <+: after := by
  have htext (hoffset : offsetOf? sentinel source = some n) :
      ∃ before after, source = before ++ after ∧ byteSize before = n ∧ sentinel <+: after := by
    obtain ⟨before, after, hcut, rfl, hfirst⟩ := offsetOf?_eq_some_iff.1 hoffset
    exact ⟨before, after, hcut, rfl, hfirst.occurs⟩
  unfold locate? at h
  split_ifs at h
  · split at h
    · rename_i s hs
      obtain ⟨comment, hfind, rfl⟩ := Option.map_eq_some_iff.1 h
      obtain ⟨before, hcut⟩ :=
        Script.suffix_of_mem_comments hs (List.mem_of_find?_eq_some hfind)
      refine ⟨before, comment, hcut.symm, ?_, ?_⟩
      · simp [Script.offsetOfEnd, ← hcut]
      · simpa using List.find?_some hfind
    · exact htext h
  · exact htext h

namespace Generator

/-! ## Runs with places -/

/-- What one step registers, and where. -/
structure PlacedStep where
  category : Category
  imports : List Import
  place : InsertionPlace
deriving Repr, DecidableEq

/-- The text after a step. -/
def placeStep (g : Generator) (text : String) (step : PlacedStep) : String :=
  g.injectAt text step.category step.imports step.place

/-- The text after a run, each step working on the text of the one before. -/
def placeAll (g : Generator) (source : String) (steps : List PlacedStep) : String :=
  steps.foldl g.placeStep source

/-- The insertion that puts a block where a place says. -/
inductive Puts (g : Generator) (text block : List Char) : InsertionPlace → Insertion → Prop
  /-- In front of the sentinel. -/
  | sentinel {before after : List Char} (hcut : text = before ++ after)
      (hfound : locate? text g.sentinel.toList = some (byteSize before))
      (hstands : g.sentinel.toList <+: after) :
      Puts g text block .sentinel ⟨byteSize before, block ++ blankLine⟩
  /-- At the end of a text in which the sentinel is not found. -/
  | noSentinel (hmissing : locate? text g.sentinel.toList = none) :
      Puts g text block .sentinel ⟨byteSize text, blankLine ++ block⟩
  /-- At an offset between two characters, or at either end of the text. -/
  | offset {before after : List Char} (hcut : text = before ++ after) :
      Puts g text block (.offset (byteSize before)) ⟨byteSize before, block ++ blankLine⟩
  /-- At the end for an offset behind it or inside of a character. -/
  | noOffset {n : Nat} (hoffset : byteSize text < n ∨ InsideCharacter n text) :
      Puts g text block (.offset n) ⟨byteSize text, blankLine ++ block⟩
  | atEnd : Puts g text block .atEnd ⟨byteSize text, blankLine ++ block⟩

/-- The insertions of a run in order.  A step without imports makes none and leaves its text as it
is; any other step makes one, of its block and a blank line. -/
inductive Makes (g : Generator) : String → List PlacedStep → List Insertion → Prop
  | done (text : String) : Makes g text [] []
  | skip {text : String} {step : PlacedStep} {steps : List PlacedStep} {insertions : List Insertion}
      (himports : step.imports = []) (hsame : g.placeStep text step = text)
      (hrest : Makes g text steps insertions) : Makes g text (step :: steps) insertions
  | insert {text block : String} {step : PlacedStep} {steps : List PlacedStep} {i : Insertion}
      {insertions : List Insertion} (hblock : g.block? step.category step.imports = some block)
      (hputs : g.Puts text.toList block.toList step.place i)
      (hinsert : i.insert? text.toList = some (g.placeStep text step).toList)
      (hrest : Makes g (g.placeStep text step) steps insertions) :
      Makes g text (step :: steps) (i :: insertions)

variable {g : Generator}

/-! ## One step -/

theorem placeStep_of_isEmpty {step : PlacedStep} (h : step.imports = []) (text : String) :
    g.placeStep text step = text := by
  rw [placeStep, h]
  rfl

/-- A splice at an offset where the text can be cut. -/
theorem splice_of_cut {block before after : List Char} {n : Nat} (h : byteSize before = n) :
    splice (before ++ after) block (some n) = before ++ (block ++ blankLine) ++ after := by
  have hcut : cutAt? n (before ++ after) = some (before, after) :=
    cutAt?_eq_some_iff.2 ⟨rfl, h⟩
  simp [splice, hcut, blankLine]

/-- A splice without an offset, or at one where the text cannot be cut. -/
theorem splice_of_no_cut {text block : List Char} {offset : Option Nat}
    (h : offset.bind (cutAt? · text) = none) :
    splice text block offset = text ++ (blankLine ++ block) := by
  simp [splice, h, blankLine]

/-- A step with imports puts its block where its place says, and changes nothing else. -/
theorem exists_puts {block : String} {step : PlacedStep} (text : String)
    (hblock : g.block? step.category step.imports = some block) :
    ∃ i, g.Puts text.toList block.toList step.place i ∧
      i.insert? text.toList = some (g.placeStep text step).toList := by
  have hstep : (g.placeStep text step).toList =
      splice text.toList block.toList (g.offset? text.toList step.place) := by
    simp [placeStep, injectAt, hblock]
  rw [hstep]
  have hcut {before after : List Char} {n : Nat} (h : text.toList = before ++ after)
      (hn : byteSize before = n) (piece : List Char) :
      (⟨n, piece⟩ : Insertion).insert? text.toList = some (before ++ piece ++ after) :=
    Insertion.insert?_eq_some_iff.2 ⟨before, after, h, hn, rfl⟩
  have hend (piece : List Char) : (⟨byteSize text.toList, piece⟩ : Insertion).insert? text.toList =
      some (text.toList ++ piece) := by
    rw [hcut (List.append_nil _).symm rfl, List.append_nil]
  -- Each place leads to a cut of the text, or else to its end.
  obtain ⟨c, imports, place⟩ := step
  cases place with
  | sentinel =>
    cases hlocate : locate? text.toList g.sentinel.toList with
    | none =>
      refine ⟨_, .noSentinel hlocate, ?_⟩
      rw [offset?, hlocate, splice_of_no_cut rfl, hend]
    | some n =>
      obtain ⟨before, after, htext, rfl, hstands⟩ := startsWith_of_locate? hlocate
      refine ⟨_, .sentinel htext hlocate hstands, ?_⟩
      rw [offset?, hlocate, hcut htext rfl, htext, splice_of_cut rfl]
  | offset n =>
    cases hat : cutAt? n text.toList with
    | none =>
      have hnone : (some n).bind (cutAt? · text.toList) = none := hat
      refine ⟨_, .noOffset (cutAt?_eq_none_iff.1 hat), ?_⟩
      rw [offset?, splice_of_no_cut hnone, hend]
    | some parts =>
      obtain ⟨before, after⟩ := parts
      obtain ⟨htext, rfl⟩ := cutAt?_eq_some_iff.1 hat
      refine ⟨_, .offset htext, ?_⟩
      rw [offset?, hcut htext rfl, htext, splice_of_cut rfl]
  | atEnd => exact ⟨_, .atEnd, by rw [offset?, splice_of_no_cut rfl, hend]⟩

/-! ## Whole runs -/

/-- Every run makes insertions. -/
theorem exists_makes (g : Generator) (source : String) (steps : List PlacedStep) :
    ∃ insertions, g.Makes source steps insertions := by
  induction steps generalizing source with
  | nil => exact ⟨[], .done source⟩
  | cons step steps ih =>
    cases hblock : g.block? step.category step.imports with
    | none =>
      have himports := block?_eq_none_iff.1 hblock
      obtain ⟨insertions, hrest⟩ := ih source
      exact ⟨insertions, .skip himports (placeStep_of_isEmpty himports source) hrest⟩
    | some block =>
      obtain ⟨i, hputs, hinsert⟩ := exists_puts source hblock
      obtain ⟨insertions, hrest⟩ := ih (g.placeStep source step)
      exact ⟨i :: insertions, .insert hblock hputs hinsert hrest⟩

namespace Makes

variable {source : String} {steps : List PlacedStep} {insertions : List Insertion}

/-- The insertions of a run are taken out in reverse order. -/
theorem removed (h : g.Makes source steps insertions) :
    insertions.foldrM Insertion.remove? (g.placeAll source steps).toList = some source.toList := by
  induction h with
  | done text => rfl
  | @skip text step steps insertions himports hsame _ ih =>
    rw [placeAll, List.foldl_cons, hsame]
    exact ih
  | @insert text block step steps i insertions hblock hputs hinsert _ ih =>
    rw [List.foldrM_cons, placeAll, List.foldl_cons]
    rw [placeAll] at ih
    rw [ih]
    exact Insertion.remove?_of_insert? hinsert

end Makes

/-! ## Runs that change nothing -/

/-- What a step puts into a text is not empty. -/
theorem Puts.byteSize_pos {text block : List Char} {place : InsertionPlace} {i : Insertion}
    (h : g.Puts text block place i) : 0 < byteSize i.piece := by
  have hblank : 0 < byteSize blankLine := by decide
  cases h <;> simp only [byteSize_append] <;> omega

/-- A step with imports makes its text longer. -/
theorem byteSize_lt_placeStep {step : PlacedStep} (h : step.imports ≠ []) (text : String) :
    byteSize text.toList < byteSize (g.placeStep text step).toList := by
  cases hblock : g.block? step.category step.imports with
  | none => exact absurd (block?_eq_none_iff.1 hblock) h
  | some block =>
    obtain ⟨i, hputs, hinsert⟩ := exists_puts text hblock
    have hpos := hputs.byteSize_pos
    have hsize := Insertion.byteSize_of_insert? hinsert
    omega

/-- No run makes its text shorter. -/
theorem byteSize_le_placeAll (source : String) (steps : List PlacedStep) :
    byteSize source.toList ≤ byteSize (g.placeAll source steps).toList := by
  induction steps generalizing source with
  | nil => exact Nat.le_refl _
  | cons step steps ih =>
    refine Nat.le_trans ?_ (ih (g.placeStep source step))
    by_cases himports : step.imports = []
    · rw [placeStep_of_isEmpty himports]
    · exact Nat.le_of_lt (byteSize_lt_placeStep himports source)

/-- A run changes nothing exactly if none of its steps has imports. -/
theorem placeAll_eq_self_iff {source : String} {steps : List PlacedStep} :
    g.placeAll source steps = source ↔ ∀ step ∈ steps, step.imports = [] := by
  induction steps generalizing source with
  | nil => simp [placeAll]
  | cons step steps ih =>
    have hrun : g.placeAll source (step :: steps) = g.placeAll (g.placeStep source step) steps :=
      rfl
    rw [hrun, List.forall_mem_cons]
    by_cases himports : step.imports = []
    · rw [placeStep_of_isEmpty himports, ih]
      simp [himports]
    · -- The text has become longer, and no later step undoes that.
      have hlt := byteSize_lt_placeStep (g := g) himports source
      have hle := byteSize_le_placeAll (g := g) (g.placeStep source step) steps
      simp only [himports, false_and, iff_false]
      intro hsame
      rw [hsame] at hle
      omega

end Generator

end TemplateImports
