import TemplateImports.Pattern.Search
import Mathlib

/-!
# Targets of steps

A program is unfolded from its end, and every step points at steps that exist: those unfolded before
it or, in the loop of a repetition, the step that is put in place of a gap afterwards.  A search
that follows the steps of a program never leaves it.

Main results:

- Structure `Fragment.WellFormed` says that the start and all targets of a fragment exist.
- Theorem `Expr.grows_emit` says that unfolding an expression keeps this and only adds steps.
- Theorem `wellFormed_ofExpr` says that this holds for the program of every expression.
-/

namespace TemplateImports.Pattern

/-- The steps that a step goes on at. -/
def Step.targets : Step → List Nat
  | .set _ next => [next]
  | .condition _ next => [next]
  | .fork first second => [first, second]
  | .mark _ next => [next]
  | .done => []

/-- All targets of the steps exist. -/
def Closed (steps : Array Step) : Prop :=
  ∀ step ∈ steps, ∀ target ∈ step.targets, target < steps.size

/-- The start and the targets of all steps exist. -/
structure Fragment.WellFormed (fragment : Fragment) : Prop where
  start_lt : fragment.start < fragment.steps.size
  targets_lt : Closed fragment.steps

/-- One fragment is well formed and has at least the steps of another one. -/
structure Fragment.Grows (before after : Fragment) : Prop where
  wellFormed : after.WellFormed
  size_le : before.steps.size ≤ after.steps.size

namespace Fragment

theorem WellFormed.grows {fragment : Fragment} (h : fragment.WellFormed) :
    fragment.Grows fragment :=
  ⟨h, le_rfl⟩

/-- A program that grows twice grows. -/
theorem Grows.trans {first second third : Fragment} (h : first.Grows second)
    (h' : second.Grows third) : first.Grows third :=
  ⟨h'.wellFormed, h.size_le.trans h'.size_le⟩

/-- A step whose targets exist can be added. -/
theorem WellFormed.push {fragment : Fragment} (h : fragment.WellFormed) {step : Step}
    (hstep : ∀ target ∈ step.targets, target < fragment.steps.size) :
    fragment.Grows (fragment.push step) := by
  refine ⟨⟨by simp [Fragment.push], ?_⟩, by simp [Fragment.push]⟩
  intro other hother target htarget
  simp only [Fragment.push, Array.mem_push, Array.size_push] at hother ⊢
  rcases hother with hother | rfl
  · exact (h.targets_lt other hother target htarget).trans (Nat.lt_succ_self _)
  · exact (hstep target htarget).trans (Nat.lt_succ_self _)

/-- A choice leads to one of its two ways. -/
theorem mem_targets_choice {greedy : Bool} {more enough target : Nat}
    (h : target ∈ (choice greedy more enough).targets) : target = more ∨ target = enough := by
  cases greedy <;> simp [choice, Step.targets] at h <;> tauto

section

variable {emit : Fragment → Fragment} (hemit : ∀ f : Fragment, f.WellFormed → f.Grows (emit f))
include hemit

/-- Copies of a part make a program grow. -/
theorem grows_copies (n : Nat) {fragment : Fragment} (h : fragment.WellFormed) :
    fragment.Grows (copies emit n fragment) := by
  induction n generalizing fragment with
  | zero => exact h.grows
  | succ n ih =>
    have hfirst := hemit fragment h
    exact hfirst.trans (ih hfirst.wellFormed)

/-- Optional copies of a part make a program grow. -/
theorem grows_optionalCopies (greedy : Bool) {enough : Nat} (n : Nat) {fragment : Fragment}
    (h : fragment.WellFormed) (henough : enough < fragment.steps.size) :
    fragment.Grows (optionalCopies emit greedy enough n fragment) := by
  induction n with
  | zero => exact h.grows
  | succ n ih =>
    have hinner := ih.trans (hemit _ ih.wellFormed)
    refine hinner.trans (hinner.wellFormed.push ?_)
    intro target htarget
    rcases mem_targets_choice htarget with rfl | rfl
    · exact hinner.wellFormed.start_lt
    · exact henough.trans_le hinner.size_le

/-- The gap that a loop leaves for its choice is filled with a step whose targets exist. -/
theorem grows_loop (greedy : Bool) {fragment : Fragment} (h : fragment.WellFormed) :
    fragment.Grows (loop emit greedy fragment).1 ∧
      (loop emit greedy fragment).2 < (loop emit greedy fragment).1.steps.size := by
  have hgap : fragment.Grows (fragment.push .done) := h.push (by simp [Step.targets])
  have hinner := hemit _ hgap.wellFormed
  have hsize : fragment.steps.size < (emit (fragment.push .done)).steps.size :=
    Nat.lt_of_lt_of_le (by simp [Fragment.push]) hinner.size_le
  refine ⟨⟨⟨by simpa [loop] using hinner.wellFormed.start_lt, ?_⟩, by simp [loop, hsize.le]⟩,
    by simpa [loop] using hsize⟩
  intro step hstep target htarget
  simp only [loop, Array.size_setIfInBounds]
  rcases Array.mem_or_eq_of_mem_setIfInBounds hstep with hstep | rfl
  · exact hinner.wellFormed.targets_lt step hstep target htarget
  · rcases mem_targets_choice htarget with rfl | rfl
    · exact hinner.wellFormed.start_lt
    · exact h.start_lt.trans hsize

/-- A part that is repeated makes a program grow. -/
theorem grows_plus (greedy : Bool) {fragment : Fragment} (h : fragment.WellFormed) :
    fragment.Grows (plus emit greedy fragment) :=
  (grows_loop hemit greedy h).1

/-- A part that may be repeated makes a program grow. -/
theorem grows_star (greedy : Bool) {fragment : Fragment} (h : fragment.WellFormed) :
    fragment.Grows (star emit greedy fragment) := by
  obtain ⟨hgrows, hback⟩ := grows_loop hemit greedy h
  exact ⟨⟨hback, hgrows.wellFormed.targets_lt⟩, hgrows.size_le⟩

end

end Fragment

/-- Unfolding an expression adds steps, and their targets exist. -/
theorem Expr.grows_emit (e : Expr) (fragment : Fragment) (h : fragment.WellFormed) :
    fragment.Grows (e.emit fragment) := by
  induction e generalizing fragment with
  | empty => exact h.grows
  | set s => exact h.push (by simp [Step.targets, h.start_lt])
  | condition c => exact h.push (by simp [Step.targets, h.start_lt])
  | group index e ih =>
    have hmark : fragment.Grows (fragment.push (.mark (2 * index + 1) fragment.start)) :=
      h.push (by simp [Step.targets, h.start_lt])
    have hinner := hmark.trans (ih _ hmark.wellFormed)
    exact hinner.trans (hinner.wellFormed.push (by simp [Step.targets, hinner.wellFormed.start_lt]))
  | seq a b iha ihb =>
    have hb := ihb fragment h
    exact hb.trans (iha _ hb.wellFormed)
  | alt a b iha ihb =>
    have hfirst := iha fragment h
    have hbetween : (Fragment.mk (a.emit fragment).steps fragment.start).WellFormed :=
      ⟨h.start_lt.trans_le hfirst.size_le, hfirst.wellFormed.targets_lt⟩
    have hsecond := ihb _ hbetween
    have hboth : fragment.Grows (b.emit ⟨(a.emit fragment).steps, fragment.start⟩) :=
      ⟨hsecond.wellFormed, hfirst.size_le.trans hsecond.size_le⟩
    refine hboth.trans (hboth.wellFormed.push ?_)
    intro target htarget
    simp only [Step.targets, List.mem_cons, List.not_mem_nil, or_false] at htarget
    rcases htarget with rfl | rfl
    · exact hfirst.wellFormed.start_lt.trans_le hsecond.size_le
    · exact hboth.wellFormed.start_lt
  | rep least most greedy e ih =>
    unfold Expr.emit
    split
    · split
      · have hinner := Fragment.grows_plus ih greedy h
        refine hinner.trans (hinner.wellFormed.push ?_)
        intro target htarget
        rcases Fragment.mem_targets_choice htarget with rfl | rfl
        · exact hinner.wellFormed.start_lt
        · exact h.start_lt.trans_le hinner.size_le
      · exact Fragment.grows_star ih greedy h
    · have hplus := Fragment.grows_plus ih greedy h
      exact hplus.trans (Fragment.grows_copies ih _ hplus.wellFormed)
    · rename_i most
      have hoptional := Fragment.grows_optionalCopies ih greedy (most - least) h h.start_lt
      exact hoptional.trans (Fragment.grows_copies ih _ hoptional.wellFormed)

/-- The start of a program and the targets of all its steps exist. -/
def Program.WellFormed (program : Program) : Prop :=
  Fragment.WellFormed ⟨program.steps, program.start⟩

theorem Program.WellFormed.closed {program : Program} (h : program.WellFormed) :
    Closed program.steps :=
  h.targets_lt

/-- The program of an expression is well formed. -/
theorem wellFormed_ofExpr (e : Expr) (groups : Nat) : (Program.ofExpr e groups).WellFormed := by
  have hdone : Fragment.WellFormed ⟨#[.done], 0⟩ := ⟨by simp, by simp [Closed, Step.targets]⟩
  exact ((Expr.group 0 e).grows_emit _ hdone).wellFormed

end TemplateImports.Pattern
