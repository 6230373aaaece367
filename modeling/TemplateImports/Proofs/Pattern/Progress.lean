import TemplateImports.Proofs.Pattern.Backtracking

/-!
# Programs that make progress

A program makes progress if it comes back to a step only behind a character that it took.  No way
through such a program meets a place twice, so that backtracking needs no memory of its way: what a
thread yields is what the threads yield that it goes on to, and the first of these counts.

Main results:

- Definition `Progresses` is the condition on the steps, with an order of them as its evidence.
- Relation `Yields` is backtracking without a memory; theorem `Yields.finds` says that it finds the
  same, and theorems such as `Yields.fork` say what a thread yields at each kind of step.
- Theorems `Spells.take` and `Spells.refuse` say what a thread yields at steps that spell a word.
- Theorem `search_eq_of_anchored` says what a search answers for a program that matches at the start
  of a text only.
-/

namespace TemplateImports.Pattern

/-- The steps that a step goes on at without taking a character. -/
def Step.waits : Step → List Nat
  | .set _ _ => []
  | .condition _ next => [next]
  | .fork first second => [first, second]
  | .mark _ next => [next]
  | .done => []

/-- Without taking a character, steps go on only to steps that come later in an order. -/
def Progresses (order : Nat → Nat) (steps : Array Step) : Prop :=
  ∀ i (h : i < steps.size), ∀ target ∈ steps[i].waits, order target < order i

instance (order : Nat → Nat) (steps : Array Step) : Decidable (Progresses order steps) :=
  inferInstanceAs (Decidable (∀ i (h : i < steps.size), ∀ target ∈ steps[i].waits, _))

/-- A place comes before another one on every way. -/
def Precedes (order : Nat → Nat) (p q : Nat × Nat) : Prop :=
  p.2 < q.2 ∨ p.2 = q.2 ∧ order q.1 < order p.1

theorem Precedes.trans {order : Nat → Nat} {p q r : Nat × Nat} (h : Precedes order p q)
    (h' : Precedes order q r) : Precedes order p r := by
  simp only [Precedes] at h h' ⊢
  omega

theorem Precedes.ne {order : Nat → Nat} {p q : Nat × Nat} (h : Precedes order p q) : p ≠ q := by
  rintro rfl
  simp [Precedes] at h

section

variable {steps : Array Step} {text : Array Char} {order : Nat → Nat}

/-- A thread goes on to places behind its own. -/
theorem Progresses.precedes (h : Progresses order steps) {t u : Thread} {next : List Thread}
    (hadvance : t.advance steps text = .inl next) (hu : u ∈ next) :
    Precedes order t.place u.place := by
  cases hstep : steps[t.step]? with
  | none =>
    simp only [Thread.advance, hstep, Sum.inl.injEq] at hadvance
    simp [← hadvance] at hu
  | some step =>
    obtain ⟨hlt, hget⟩ := Array.getElem?_eq_some_iff.1 hstep
    have hwaits := h t.step hlt
    rw [hget] at hwaits
    cases step with
    | done => simp [Thread.advance, hstep] at hadvance
    | set s target =>
      simp only [Thread.advance, hstep] at hadvance
      split at hadvance
      · obtain rfl := Sum.inl.inj hadvance
        split at hu
        · simp [List.mem_singleton.1 hu, Precedes, Thread.place]
        · simp at hu
      · obtain rfl := Sum.inl.inj hadvance
        simp at hu
    | condition c target =>
      simp only [Thread.advance, hstep, Sum.inl.injEq] at hadvance
      subst hadvance
      have htarget := hwaits target List.mem_cons_self
      split at hu
      · simp [List.mem_singleton.1 hu, Precedes, Thread.place, htarget]
      · simp at hu
    | fork first second =>
      simp only [Thread.advance, hstep, Sum.inl.injEq] at hadvance
      subst hadvance
      have htargets := List.forall_mem_cons.1 hwaits
      simp only [List.mem_cons, List.not_mem_nil, or_false] at hu
      rcases hu with rfl | rfl
      · simp [Precedes, Thread.place, htargets.1]
      · simp [Precedes, Thread.place, htargets.2 _ List.mem_cons_self]
    | mark slot target =>
      simp only [Thread.advance, hstep, Sum.inl.injEq] at hadvance
      subst hadvance
      have htarget := hwaits target List.mem_cons_self
      simp [List.mem_singleton.1 hu, Precedes, Thread.place, htarget]

end

/-! ## Backtracking without a memory -/

section

variable (steps : Array Step) (text : Array Char)

/-- What threads yield that are tried in order. -/
inductive Yields : List Thread → Option (Array (Option Nat)) → Prop where
  | nil : Yields [] none
  | done {t : Thread} {threads : List Thread} {ends : Array (Option Nat)}
    (h : t.advance steps text = .inr ends) : Yields (t :: threads) (some ends)
  | found {t : Thread} {threads next : List Thread} {ends : Array (Option Nat)}
    (h : t.advance steps text = .inl next) (hnext : Yields next (some ends)) :
    Yields (t :: threads) (some ends)
  | failed {t : Thread} {threads next : List Thread} {found : Option (Array (Option Nat))}
    (h : t.advance steps text = .inl next) (hnext : Yields next none)
    (hrest : Yields threads found) : Yields (t :: threads) found

end

section

variable {steps : Array Step} {text : Array Char} {t u v : Thread}
  {found found' : Option (Array (Option Nat))}

/-- In a program that makes progress, backtracking finds what the threads yield. -/
theorem Yields.finds {order : Nat → Nat} (hsteps : Progresses order steps) {threads : List Thread}
    (h : Yields steps text threads found) {path : List (Nat × Nat)}
    (hpath : ∀ q ∈ path, ∀ t ∈ threads, Precedes order q t.place) :
    Finds steps text path threads found := by
  have hnew : ∀ {path : List (Nat × Nat)} {t : Thread},
      (∀ q ∈ path, Precedes order q t.place) → t.place ∉ path :=
    fun hbefore hmem => (hbefore _ hmem).ne rfl
  have hlonger : ∀ {path : List (Nat × Nat)} {t : Thread} {next : List Thread},
      (∀ q ∈ path, Precedes order q t.place) → t.advance steps text = .inl next →
      ∀ q ∈ t.place :: path, ∀ u ∈ next, Precedes order q u.place := by
    intro path t next hbefore hadvance q hq u hu
    have hstep := hsteps.precedes hadvance hu
    rcases List.mem_cons.1 hq with rfl | hq
    · exact hstep
    · exact (hbefore q hq).trans hstep
  induction h generalizing path with
  | nil => exact .nil
  | done hdone => exact .done (hnew fun q hq => hpath q hq _ List.mem_cons_self) hdone
  | found hadvance _ ih =>
    have hbefore := fun q hq => hpath q hq _ List.mem_cons_self
    exact .found (hnew hbefore) hadvance (ih (hlonger hbefore hadvance))
  | failed hadvance _ _ ihnext ihrest =>
    have hbefore := fun q hq => hpath q hq _ List.mem_cons_self
    exact .failed (hnew hbefore) hadvance (ihnext (hlonger hbefore hadvance))
      (ihrest fun q hq u hu => hpath q hq u (List.mem_cons_of_mem _ hu))

/-- A thread that goes on in one way yields what that way yields. -/
theorem Yields.onward (h : t.advance steps text = .inl [u]) (hu : Yields steps text [u] found) :
    Yields steps text [t] found := by
  cases found with
  | none => exact .failed h hu .nil
  | some ends => exact .found h hu

/-- A thread that does not go on yields nothing. -/
theorem Yields.stuck (h : t.advance steps text = .inl []) : Yields steps text [t] none :=
  .failed h .nil .nil

theorem Yields.pair (hu : Yields steps text [u] found) (hv : Yields steps text [v] found') :
    Yields steps text [u, v] (found.or found') := by
  cases hu with
  | done h => exact .done h
  | found h hnext => exact .found h hnext
  | failed h hnext hrest =>
    cases hrest
    exact .failed h hnext hv

/-- A choice yields what its first way yields or else what its second way yields. -/
theorem Yields.fork {first second : Nat} (hstep : steps[t.step]? = some (.fork first second))
    (hfirst : Yields steps text [{ t with step := first }] found)
    (hsecond : Yields steps text [{ t with step := second }] found') :
    Yields steps text [t] (found.or found') := by
  have hadvance : t.advance steps text =
      .inl [{ t with step := first }, { t with step := second }] := by
    simp [Thread.advance, hstep]
  have hboth := Yields.pair hfirst hsecond
  cases hor : found.or found' with
  | none => exact .failed hadvance (hor ▸ hboth) .nil
  | some ends => exact .found hadvance (hor ▸ hboth)

/-- A character of the set is taken. -/
theorem Yields.take {s : CharSet} {next : Nat} {c : Char}
    (hstep : steps[t.step]? = some (.set s next)) (hc : text[t.position]? = some c)
    (hmem : s.mem c = true)
    (hnext : Yields steps text [{ t with step := next, position := t.position + 1 }] found) :
    Yields steps text [t] found :=
  .onward (by simp [Thread.advance, hstep, hc, hmem]) hnext

/-- Nothing is yielded at another character or at the end of the text. -/
theorem Yields.refuse {s : CharSet} {next : Nat} (hstep : steps[t.step]? = some (.set s next))
    (hc : ∀ c, text[t.position]? = some c → s.mem c = false) : Yields steps text [t] none := by
  refine .stuck ?_
  cases htext : text[t.position]? with
  | none => simp [Thread.advance, hstep, htext]
  | some c => simp [Thread.advance, hstep, htext, hc c htext]

theorem Yields.mark {slot next : Nat} (hstep : steps[t.step]? = some (.mark slot next))
    (hnext : Yields steps text
      [{ t with step := next, ends := t.ends.setIfInBounds slot (some t.position) }] found) :
    Yields steps text [t] found :=
  .onward (by simp [Thread.advance, hstep]) hnext

/-- A condition that holds is passed. -/
theorem Yields.hold {c : Condition} {next : Nat}
    (hstep : steps[t.step]? = some (.condition c next)) (hc : c.holds text t.position = true)
    (hnext : Yields steps text [{ t with step := next }] found) : Yields steps text [t] found :=
  .onward (by simp [Thread.advance, hstep, hc]) hnext

theorem Yields.deny {c : Condition} {next : Nat}
    (hstep : steps[t.step]? = some (.condition c next)) (hc : c.holds text t.position = false) :
    Yields steps text [t] none :=
  .stuck (by simp [Thread.advance, hstep, hc])

end

/-! ## Words -/

/-- The set of one character holds that character only. -/
theorem CharSet.mem_single {c d : Char} : (CharSet.single c).mem d = true ↔ d = c := by
  simp only [CharSet.single, CharSet.mem, Text.inRanges_iff, List.mem_singleton, Prod.exists]
  rw [← Char.toNat_inj]
  constructor
  · rintro ⟨low, high, heq, hlow, hhigh⟩
    simp only [Prod.mk.injEq] at heq
    omega
  · intro h
    exact ⟨_, _, rfl, h.ge, h.le⟩

section

variable {steps : Array Step} {text : Array Char} {t : Thread} {position : Nat} {rest : List Char}
  {found : Option (Array (Option Nat))}

/-- What a text holds from a position on. -/
def Ahead (text : Array Char) (position : Nat) (rest : List Char) : Prop :=
  text.toList.drop position = rest

theorem Ahead.getElem? (h : Ahead text position rest) : text[position]? = rest.head? := by
  rw [← h, List.head?_drop, Array.getElem?_toList]

theorem Ahead.drop (h : Ahead text position rest) (n : Nat) :
    Ahead text (position + n) (rest.drop n) := by
  rw [Ahead, ← h, List.drop_drop]

/-- Steps that take the characters of a word one after the other. -/
def Spells (steps : Array Step) : List Char → Nat → Nat → Prop
  | [], first, last => first = last
  | c :: word, first, last =>
    ∃ next, steps[first]? = some (.set (.single c) next) ∧ Spells steps word next last

/-- A word that is ahead is taken at the steps that spell it. -/
theorem Spells.take {word : List Char} {last : Nat} (h : Spells steps word t.step last)
    (hahead : Ahead text t.position (word ++ rest))
    (hnext : Yields steps text [{ t with step := last, position := t.position + word.length }]
      found) : Yields steps text [t] found := by
  induction word generalizing t with
  | nil =>
    obtain rfl : t.step = last := h
    exact hnext
  | cons c word ih =>
    obtain ⟨next, hstep, hspells⟩ := h
    refine .take hstep hahead.getElem? (CharSet.mem_single.2 rfl) (ih hspells (hahead.drop 1) ?_)
    rwa [List.length_cons, Nat.add_comm word.length, ← Nat.add_assoc] at hnext

/-- Nothing is yielded at steps that spell a word that is not ahead. -/
theorem Spells.refuse {word : List Char} {last : Nat} (h : Spells steps word t.step last)
    (hahead : Ahead text t.position rest) (hword : ¬ word <+: rest) :
    Yields steps text [t] none := by
  induction word generalizing t rest with
  | nil => exact absurd List.nil_prefix hword
  | cons c word ih =>
    obtain ⟨next, hstep, hspells⟩ := h
    by_cases hc : rest.head? = some c
    · obtain ⟨rest, rfl⟩ := List.head?_eq_some_iff.1 hc
      rw [List.cons_prefix_cons, eq_self, true_and] at hword
      exact .take hstep hahead.getElem? (CharSet.mem_single.2 rfl)
        (ih hspells (hahead.drop 1) hword)
    · refine .refuse hstep fun d hd => ?_
      rw [hahead.getElem?] at hd
      rw [← Bool.not_eq_true, CharSet.mem_single]
      rintro rfl
      exact hc hd

end

/-! ## Searching -/

/-- The search for a program that matches at the start of a text only. -/
theorem search_eq_of_anchored {program : Program} {text : Array Char} {order : Nat → Nat}
    (h : program.WellFormed) (hsteps : Progresses order program.steps)
    {found : Option (Array (Option Nat))}
    (hfirst : Yields program.steps text [program.threadAt 0] found)
    (hlater : ∀ start, 0 < start → Yields program.steps text [program.threadAt start] none) :
    search program text = found := by
  have hfinds : Finds program.steps text [] [program.threadAt 0] found :=
    hfirst.finds hsteps (by simp)
  refine (isAnswer_search h text).unique ?_
  cases found with
  | some ends => exact ⟨0, Nat.zero_le _, hfinds, by simp⟩
  | none =>
    intro start hstart
    rcases Nat.eq_zero_or_pos start with rfl | hpos
    · exact fails_of_finds h hstart hfinds
    · exact fails_of_finds h hstart ((hlater start hpos).finds hsteps (by simp))

end TemplateImports.Pattern
