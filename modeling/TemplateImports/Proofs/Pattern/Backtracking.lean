import TemplateImports.Proofs.Pattern.Targets

/-!
# Backtracking

What a search finds, said without the record of the pairs that it tried.  Backtracking goes on at
the first way it has; where that fails it takes the next one.  A way fails that comes back to a step
at a position where it has been already.

The search remembers all pairs of a step and a position that it tried, whatever led to them, and
passes over them.  This changes nothing: among the pairs that were tried, those that are not on the
current way have failed, and all ways on from them lead to pairs that were tried.  So no way from
them ends.

Main results:

- Relation `Leads` says that a way ends at the last step; relation `Finds` is backtracking.
- Theorem `explore_of_finds` says that the search with its record finds what backtracking finds.
- Theorem `search_eq_some_iff` says that a pattern matches at the first position from which a way
  ends, and that the match is the one that backtracking finds there.
-/

namespace TemplateImports

namespace Pattern

/-! ## Ways through a program -/

section

variable (steps : Array Step) (text : Array Char)

/-- Some way from a thread ends with the ends of its groups. -/
inductive Leads : Thread → Array (Option Nat) → Prop where
  | done {t : Thread} {ends : Array (Option Nat)} (h : t.advance steps text = .inr ends) :
    Leads t ends
  | step {t u : Thread} {next : List Thread} {ends : Array (Option Nat)}
    (h : t.advance steps text = .inl next) (hu : u ∈ next) (hends : Leads u ends) : Leads t ends

/-- The step and the position of a thread. -/
def Thread.place (t : Thread) : Nat × Nat :=
  (t.step, t.position)

/-- What backtracking finds: it tries threads in order, and it fails at the places that it came
through. -/
inductive Finds : List (Nat × Nat) → List Thread → Option (Array (Option Nat)) → Prop where
  | nil {path : List (Nat × Nat)} : Finds path [] none
  | seen {path : List (Nat × Nat)} {t : Thread} {threads : List Thread}
    {found : Option (Array (Option Nat))} (hseen : t.place ∈ path)
    (hrest : Finds path threads found) : Finds path (t :: threads) found
  | done {path : List (Nat × Nat)} {t : Thread} {threads : List Thread}
    {ends : Array (Option Nat)} (hnew : t.place ∉ path) (h : t.advance steps text = .inr ends) :
    Finds path (t :: threads) (some ends)
  | found {path : List (Nat × Nat)} {t : Thread} {threads next : List Thread}
    {ends : Array (Option Nat)} (hnew : t.place ∉ path) (h : t.advance steps text = .inl next)
    (hnext : Finds (t.place :: path) next (some ends)) : Finds path (t :: threads) (some ends)
  | failed {path : List (Nat × Nat)} {t : Thread} {threads next : List Thread}
    {found : Option (Array (Option Nat))} (hnew : t.place ∉ path)
    (h : t.advance steps text = .inl next) (hnext : Finds (t.place :: path) next none)
    (hrest : Finds path threads found) : Finds path (t :: threads) found

end

variable {steps : Array Step} {text : Array Char}

/-- Backtracking has one result. -/
theorem Finds.unique {path : List (Nat × Nat)} {threads : List Thread}
    {found found' : Option (Array (Option Nat))} (h : Finds steps text path threads found)
    (h' : Finds steps text path threads found') : found = found' := by
  induction h generalizing found' with
  | nil => cases h'; rfl
  | seen hseen _ ih =>
    cases h' with
    | seen _ hrest => exact ih hrest
    | done hnew _ => exact absurd hseen hnew
    | found hnew _ _ => exact absurd hseen hnew
    | failed hnew _ _ _ => exact absurd hseen hnew
  | done hnew h =>
    cases h' with
    | seen hseen _ => exact absurd hseen hnew
    | done _ h' => simp_all
    | found _ h' _ => simp_all
    | failed _ h' _ _ => simp_all
  | found hnew h _ ih =>
    cases h' with
    | seen hseen _ => exact absurd hseen hnew
    | done _ h' => simp_all
    | found _ h' hnext =>
      obtain rfl := Sum.inl.inj (h.symm.trans h')
      exact ih hnext
    | failed _ h' hnext _ =>
      obtain rfl := Sum.inl.inj (h.symm.trans h')
      exact absurd (ih hnext) (by simp)
  | failed hnew h _ _ ihnext ihrest =>
    cases h' with
    | seen hseen _ => exact absurd hseen hnew
    | done _ h' => simp_all
    | found _ h' hnext =>
      obtain rfl := Sum.inl.inj (h.symm.trans h')
      exact absurd (ihnext hnext) (by simp)
    | failed _ h' _ hrest => exact ihrest hrest

/-- What backtracking finds is the end of a way. -/
theorem Finds.exists_leads {path : List (Nat × Nat)} {threads : List Thread}
    {ends : Array (Option Nat)} (h : Finds steps text path threads (some ends)) :
    ∃ t ∈ threads, Leads steps text t ends := by
  generalize hfound : some ends = found at h
  induction h with
  | nil => simp at hfound
  | seen _ _ ih =>
    obtain ⟨t, ht, hleads⟩ := ih hfound
    exact ⟨t, List.mem_cons_of_mem _ ht, hleads⟩
  | done _ h =>
    obtain rfl := Option.some.inj hfound
    exact ⟨_, List.mem_cons_self, .done h⟩
  | found _ h _ ih =>
    obtain ⟨u, hu, hleads⟩ := ih hfound
    exact ⟨_, List.mem_cons_self, .step h hu hleads⟩
  | failed _ _ _ _ _ ih =>
    obtain ⟨t, ht, hleads⟩ := ih hfound
    exact ⟨t, List.mem_cons_of_mem _ ht, hleads⟩

/-! ## Threads within a program -/

/-- The step and the position of a thread exist. -/
structure Thread.Within (steps : Array Step) (text : Array Char) (t : Thread) : Prop where
  step_lt : t.step < steps.size
  position_le : t.position ≤ text.size

theorem Thread.within_iff {t : Thread} :
    t.Within steps text ↔ t.step < steps.size ∧ t.position ≤ text.size :=
  ⟨fun h => ⟨h.1, h.2⟩, fun h => ⟨h.1, h.2⟩⟩

/-- A thread goes on in at most two ways, and within the program. -/
theorem Thread.Within.advance {t : Thread} {next : List Thread} (ht : t.Within steps text)
    (hsteps : Closed steps) (h : t.advance steps text = .inl next) :
    next.length ≤ 2 ∧ ∀ u ∈ next, u.Within steps text := by
  have hstep_lt := ht.step_lt
  have htarget := hsteps _ (Array.getElem_mem hstep_lt)
  rw [Thread.advance, Array.getElem?_eq_getElem hstep_lt] at h
  cases hstep : steps[t.step] with
  | done => simp [hstep] at h
  | set s target =>
    simp only [hstep, Step.targets, List.mem_singleton, forall_eq] at h htarget
    split at h
    · rename_i c hc
      have hposition : t.position < text.size := (Array.getElem?_eq_some_iff.1 hc).1
      obtain rfl := Sum.inl.inj h
      split <;> simp [Thread.within_iff, htarget, hposition]
    · obtain rfl := Sum.inl.inj h
      simp
  | condition c target =>
    simp only [hstep, Step.targets, List.mem_singleton, forall_eq] at h htarget
    obtain rfl := Sum.inl.inj h
    split <;> simp [Thread.within_iff, htarget, ht.position_le]
  | fork first second =>
    simp only [hstep, Step.targets, List.mem_cons, List.not_mem_nil, or_false, forall_eq_or_imp,
      forall_eq] at h htarget
    obtain rfl := Sum.inl.inj h
    simp [Thread.within_iff, htarget, ht.position_le]
  | mark slot target =>
    simp only [hstep, Step.targets, List.mem_singleton, forall_eq] at h htarget
    obtain rfl := Sum.inl.inj h
    simp [Thread.within_iff, htarget, ht.position_le]

/-- Where a thread goes on depends on its place only. -/
theorem Thread.advance_of_place_eq {t u : Thread} {next : List Thread} (hplace : u.place = t.place)
    (h : t.advance steps text = .inl next) :
    ∃ next', u.advance steps text = .inl next' ∧
      next'.map Thread.place = next.map Thread.place := by
  obtain ⟨step, position, ends⟩ := t
  obtain ⟨step', position', ends'⟩ := u
  simp only [Thread.place, Prod.mk.injEq] at hplace
  obtain ⟨rfl, rfl⟩ := hplace
  cases hstep : steps[step']? with
  | none => simp_all [Thread.advance]
  | some step =>
    cases step with
    | done => simp [Thread.advance, hstep] at h
    | set s target =>
      cases hc : text[position']? with
      | none => simp_all [Thread.advance]
      | some c =>
        simp only [Thread.advance, hstep, hc, Sum.inl.injEq, exists_eq_left'] at h ⊢
        subst h
        split <;> rfl
    | condition c target =>
      simp only [Thread.advance, hstep, Sum.inl.injEq, exists_eq_left'] at h ⊢
      subst h
      split <;> rfl
    | fork first second =>
      simp only [Thread.advance, hstep, Sum.inl.injEq, exists_eq_left'] at h ⊢
      subst h
      rfl
    | mark slot target =>
      simp only [Thread.advance, hstep, Sum.inl.injEq, exists_eq_left'] at h ⊢
      subst h
      rfl

/-! ## The record of a search -/

/-- The place of a thread in the record. -/
def Thread.pair (steps : Array Step) (t : Thread) : Nat :=
  t.position * steps.size + t.step

/-- The record says that a thread was tried. -/
def IsTried (steps : Array Step) (tried : Array Bool) (t : Thread) : Prop :=
  tried[t.pair steps]?.getD true = true

/-- The record with a thread that is tried now. -/
def record (steps : Array Step) (tried : Array Bool) (t : Thread) : Array Bool :=
  tried.setIfInBounds (t.pair steps) true

/-- The place of a thread in the record is within it. -/
theorem Thread.Within.pair_lt {t : Thread} (ht : t.Within steps text) :
    t.pair steps < steps.size * (text.size + 1) := by
  calc t.position * steps.size + t.step
      < t.position * steps.size + steps.size := Nat.add_lt_add_left ht.step_lt _
    _ = steps.size * (t.position + 1) := by ring
    _ ≤ steps.size * (text.size + 1) :=
      Nat.mul_le_mul_left _ (Nat.add_le_add_right ht.position_le 1)

/-- Threads have one place in the record if they are at one place of the search. -/
theorem Thread.Within.pair_eq_iff {t u : Thread} (ht : t.Within steps text)
    (hu : u.Within steps text) : t.pair steps = u.pair steps ↔ t.place = u.place := by
  constructor
  · intro h
    have hstep : t.step = u.step := by
      have := congrArg (· % steps.size) h
      simpa [Thread.pair, Nat.mul_add_mod_of_lt, Nat.mul_add_mod', Nat.mod_eq_of_lt ht.step_lt,
        Nat.mod_eq_of_lt hu.step_lt] using this
    have hpos : 0 < steps.size := Nat.zero_lt_of_lt ht.step_lt
    have hposition : t.position = u.position := by
      simp only [Thread.pair, hstep, Nat.add_right_cancel_iff] at h
      exact Nat.eq_of_mul_eq_mul_right hpos h
    rw [Thread.place, Thread.place, hstep, hposition]
  · intro h
    simp only [Thread.place, Prod.mk.injEq] at h
    rw [Thread.pair, Thread.pair, h.1, h.2]

section

variable {tried : Array Bool} {t u : Thread}

/-- The record tells threads apart by their places only. -/
theorem isTried_of_place_eq (hplace : t.place = u.place) (h : IsTried steps tried t) :
    IsTried steps tried u := by
  simp only [Thread.place, Prod.mk.injEq] at hplace
  rw [IsTried, Thread.pair, hplace.1, hplace.2] at h
  exact h

/-- The record forgets nothing. -/
theorem isTried_record (h : IsTried steps tried u) : IsTried steps (record steps tried t) u := by
  rw [IsTried, record, Array.getElem?_setIfInBounds]
  split
  · split <;> rfl
  · exact h

/-- The record grows by the place of the thread. -/
theorem isTried_record_iff (hsize : tried.size = steps.size * (text.size + 1))
    (ht : t.Within steps text) (hu : u.Within steps text) :
    IsTried steps (record steps tried t) u ↔ t.place = u.place ∨ IsTried steps tried u := by
  have htlt : t.pair steps < tried.size := hsize ▸ ht.pair_lt
  rw [← ht.pair_eq_iff hu, IsTried, IsTried, record, Array.getElem?_setIfInBounds]
  by_cases h : t.pair steps = u.pair steps
  · rw [if_pos h, if_pos htlt]
    simp [h]
  · simp [h]

/-- Recording a new thread leaves one place less to be tried. -/
theorem count_record (hsize : tried.size = steps.size * (text.size + 1))
    (ht : t.Within steps text) (hnew : ¬ IsTried steps tried t) :
    (record steps tried t).count false + 1 = tried.count false := by
  have htlt : t.pair steps < tried.size := hsize ▸ ht.pair_lt
  have hold : tried[t.pair steps] = false := by
    simpa [IsTried, htlt] using hnew
  have hpos : 0 < tried.count false := Array.count_pos_iff.2 (hold ▸ Array.getElem_mem htlt)
  rw [record, Array.setIfInBounds, dif_pos htlt, Array.count_set, hold]
  simp
  omega

end

/-- The bound on the number of threads covers the waiting threads, and two more for each pair that
was not tried. -/
def Covers (n : Nat) (threads : List Thread) (tried : Array Bool) : Prop :=
  2 * tried.count false + threads.length < n

section

variable {tried : Array Bool} {t : Thread} {threads next : List Thread} {n : Nat}

/-- A thread at a place that was tried is dropped. -/
theorem explore_of_isTried (htried : IsTried steps tried t) :
    explore steps text (n + 1) (t :: threads) tried = explore steps text n threads tried := by
  simp only [IsTried, Thread.pair] at htried
  simp [explore, htried]

/-- A thread that has reached the end is the answer. -/
theorem explore_of_done {ends : Array (Option Nat)} (hnew : ¬ IsTried steps tried t)
    (h : t.advance steps text = .inr ends) :
    explore steps text (n + 1) (t :: threads) tried = (some ends, tried) := by
  simp only [IsTried, Thread.pair] at hnew
  simp [explore, hnew, h]

/-- A new thread is replaced by those that follow it, and recorded. -/
theorem explore_of_next (hnew : ¬ IsTried steps tried t) (h : t.advance steps text = .inl next) :
    explore steps text (n + 1) (t :: threads) tried =
      explore steps text n (next ++ threads) (record steps tried t) := by
  simp only [IsTried, Thread.pair] at hnew
  simp [explore, hnew, h, record, Thread.pair]

theorem explore_nil {tried : Array Bool} : explore steps text n [] tried = (none, tried) := by
  cases n <;> rfl

/-- The steps that are left cover the search if a thread is dropped. -/
theorem Covers.skip (h : Covers (n + 1) (t :: threads) tried) : Covers n threads tried := by
  simp only [Covers, List.length_cons] at h ⊢
  omega

/-- The steps that are left cover the search if a thread goes on. -/
theorem Covers.expand (h : Covers (n + 1) (t :: threads) tried)
    (hcount : (record steps tried t).count false + 1 = tried.count false)
    (hnext : next.length ≤ 2) : Covers n (next ++ threads) (record steps tried t) := by
  simp only [Covers, List.length_cons, List.length_append] at h ⊢
  omega

end

/-- A record fits a way: all places on the way were tried, and what was tried besides them goes on
to threads that were tried as well. -/
structure Fits (steps : Array Step) (text : Array Char) (path : List (Nat × Nat))
    (tried : Array Bool) : Prop where
  size_eq : tried.size = steps.size * (text.size + 1)
  isTried : ∀ t : Thread, t.Within steps text → t.place ∈ path → IsTried steps tried t
  goes_on : ∀ t : Thread, t.Within steps text → IsTried steps tried t → t.place ∉ path →
    ∃ next, t.advance steps text = .inl next ∧ ∀ u ∈ next, IsTried steps tried u

namespace Fits

variable {path : List (Nat × Nat)} {tried : Array Bool} {t : Thread} {next : List Thread}

/-- A thread that is tried now joins the way. -/
theorem record (h : Fits steps text path tried) (ht : t.Within steps text) :
    Fits steps text (t.place :: path) (Pattern.record steps tried t) := by
  have hrecord := fun {u : Thread} (hu : u.Within steps text) =>
    isTried_record_iff h.size_eq ht hu
  refine ⟨by simpa [Pattern.record] using h.size_eq, ?_, ?_⟩
  · intro u hu hplace
    rw [hrecord hu]
    rcases List.mem_cons.1 hplace with hplace | hplace
    · exact Or.inl hplace.symm
    · exact Or.inr (h.isTried u hu hplace)
  · intro u hu htried hplace
    simp only [List.mem_cons, not_or] at hplace
    have hbefore := ((hrecord hu).1 htried).resolve_left (Ne.symm hplace.1)
    obtain ⟨next, hnext, hall⟩ := h.goes_on u hu hbefore hplace.2
    exact ⟨next, hnext, fun v hv => isTried_record (hall v hv)⟩

/-- A thread leaves the way once all threads that it goes on to were tried. -/
theorem leave (h : Fits steps text (t.place :: path) tried)
    (hadvance : t.advance steps text = .inl next) (hnext : ∀ u ∈ next, IsTried steps tried u) :
    Fits steps text path tried := by
  refine ⟨h.size_eq, fun u hu hplace => h.isTried u hu (List.mem_cons_of_mem _ hplace), ?_⟩
  intro u hu htried hplace
  by_cases hsame : u.place = t.place
  · obtain ⟨next', hadvance', hplaces⟩ := Thread.advance_of_place_eq hsame hadvance
    refine ⟨next', hadvance', fun v hv => ?_⟩
    obtain ⟨w, hw, hplace⟩ := List.mem_map.1 (hplaces ▸ List.mem_map_of_mem hv)
    exact isTried_of_place_eq hplace (hnext w hw)
  · exact h.goes_on u hu htried (by simp [hsame, hplace])

/-- A thread that was tried before may join the way. -/
theorem enter (h : Fits steps text path tried) (htried : IsTried steps tried t) :
    Fits steps text (t.place :: path) tried := by
  refine ⟨h.size_eq, ?_, ?_⟩
  · intro u hu hplace
    rcases List.mem_cons.1 hplace with hplace | hplace
    · exact isTried_of_place_eq hplace.symm htried
    · exact h.isTried u hu hplace
  · intro u hu hbefore hplace
    exact h.goes_on u hu hbefore fun hmem => hplace (List.mem_cons_of_mem _ hmem)

/-- No way ends that starts at a thread that was tried before. -/
theorem not_leads (h : Fits steps text [] tried) (hsteps : Closed steps)
    {ends : Array (Option Nat)} (hleads : Leads steps text t ends) (ht : t.Within steps text) :
    ¬ IsTried steps tried t := by
  induction hleads with
  | done hdone =>
    intro htried
    obtain ⟨next, hnext, -⟩ := h.goes_on _ ht htried (by simp)
    simp [hnext] at hdone
  | step hadvance hu _ ih =>
    intro htried
    obtain ⟨next, hnext, hall⟩ := h.goes_on _ ht htried (by simp)
    obtain rfl := Sum.inl.inj (hadvance.symm.trans hnext)
    exact ih ((ht.advance hsteps hnext).2 _ hu) (hall _ hu)

/-- Backtracking does not succeed with threads that were all tried before. -/
theorem exists_not_isTried {threads : List Thread} {ends : Array (Option Nat)}
    (h : Fits steps text path tried) (hsteps : Closed steps)
    (hfinds : Finds steps text path threads (some ends))
    (hthreads : ∀ t ∈ threads, t.Within steps text) : ∃ t ∈ threads, ¬ IsTried steps tried t := by
  by_contra! htried
  generalize hfound : some ends = found at hfinds
  induction hfinds with
  | nil => simp at hfound
  | seen _ _ ih =>
    rw [List.forall_mem_cons] at hthreads htried
    exact ih h hthreads.2 htried.2 hfound
  | done hnew hdone =>
    rw [List.forall_mem_cons] at hthreads htried
    obtain ⟨next, hnext, -⟩ := h.goes_on _ hthreads.1 htried.1 hnew
    simp [hnext] at hdone
  | found hnew hadvance _ ih =>
    rw [List.forall_mem_cons] at hthreads htried
    obtain ⟨next, hnext, hall⟩ := h.goes_on _ hthreads.1 htried.1 hnew
    obtain rfl := Sum.inl.inj (hadvance.symm.trans hnext)
    exact ih (h.enter htried.1) (hthreads.1.advance hsteps hnext).2 hall hfound
  | failed _ _ _ _ _ ih =>
    rw [List.forall_mem_cons] at hthreads htried
    exact ih h hthreads.2 htried.2 hfound

/-- Before the search, nothing was tried. -/
theorem fresh (steps : Array Step) (text : Array Char) :
    Fits steps text [] (Array.replicate (steps.size * (text.size + 1)) false) := by
  refine ⟨by simp, by simp, ?_⟩
  intro t ht htried
  simp [IsTried, ht.pair_lt] at htried

end Fits

/-! ## The search with its record -/

/-- The search gives up some threads: it goes on with those below, its record fits the way, keeps
what was tried and holds the threads that were given up. -/
structure GivesUp (steps : Array Step) (text : Array Char) (path : List (Nat × Nat))
    (threads below : List Thread) (n : Nat) (tried : Array Bool) (m : Nat) (tried' : Array Bool) :
    Prop where
  explore_eq :
    explore steps text n (threads ++ below) tried = explore steps text m below tried'
  covers : Covers m below tried'
  fits : Fits steps text path tried'
  keeps : ∀ u : Thread, IsTried steps tried u → IsTried steps tried' u
  isTried : ∀ t ∈ threads, IsTried steps tried' t

/-- Where backtracking finds nothing, the search gives up. -/
theorem exists_givesUp {path : List (Nat × Nat)} {threads : List Thread} (hsteps : Closed steps)
    (hfinds : Finds steps text path threads none) (below : List Thread) {n : Nat}
    {tried : Array Bool} (hfits : Fits steps text path tried)
    (hthreads : ∀ t ∈ threads, t.Within steps text) (hcovers : Covers n (threads ++ below) tried) :
    ∃ m tried', GivesUp steps text path threads below n tried m tried' := by
  generalize hfound : none = found at hfinds
  induction hfinds generalizing below n tried with
  | nil => exact ⟨n, tried, rfl, hcovers, hfits, fun _ h => h, by simp⟩
  | @seen path t threads found hseen _ ih =>
    rw [List.forall_mem_cons] at hthreads
    obtain ⟨k, rfl⟩ := Nat.exists_eq_succ_of_ne_zero (Nat.ne_zero_of_lt hcovers)
    have htried := hfits.isTried t hthreads.1 hseen
    obtain ⟨m, tried', hup⟩ := ih below hfits hthreads.2 hcovers.skip hfound
    exact ⟨m, tried', (explore_of_isTried htried).trans hup.explore_eq, hup.covers, hup.fits,
      hup.keeps, List.forall_mem_cons.2 ⟨hup.keeps t htried, hup.isTried⟩⟩
  | done => simp at hfound
  | found => simp at hfound
  | @failed path t threads next found _ hadvance _ _ ihnext ihrest =>
    rw [List.forall_mem_cons] at hthreads
    obtain ⟨k, rfl⟩ := Nat.exists_eq_succ_of_ne_zero (Nat.ne_zero_of_lt hcovers)
    by_cases htried : IsTried steps tried t
    · obtain ⟨m, tried', hup⟩ := ihrest below hfits hthreads.2 hcovers.skip hfound
      exact ⟨m, tried', (explore_of_isTried htried).trans hup.explore_eq, hup.covers, hup.fits,
        hup.keeps, List.forall_mem_cons.2 ⟨hup.keeps t htried, hup.isTried⟩⟩
    · obtain ⟨hlength, hwithin⟩ := hthreads.1.advance hsteps hadvance
      have hcount := count_record hfits.size_eq hthreads.1 htried
      obtain ⟨m, tried', hup⟩ := ihnext (threads ++ below) (hfits.record hthreads.1) hwithin
        (hcovers.expand hcount hlength) rfl
      have ht : IsTried steps tried' t :=
        hup.fits.isTried t hthreads.1 List.mem_cons_self
      obtain ⟨m', tried'', hup'⟩ := ihrest below (hup.fits.leave hadvance hup.isTried) hthreads.2
        hup.covers hfound
      refine ⟨m', tried'', ?_, hup'.covers, hup'.fits,
        fun u hu => hup'.keeps u (hup.keeps u (isTried_record hu)),
        List.forall_mem_cons.2 ⟨hup'.keeps t ht, hup'.isTried⟩⟩
      calc explore steps text (k + 1) (t :: (threads ++ below)) tried
          = explore steps text k (next ++ (threads ++ below)) (record steps tried t) :=
            explore_of_next htried hadvance
        _ = explore steps text m (threads ++ below) tried' := hup.explore_eq
        _ = explore steps text m' below tried'' := hup'.explore_eq

/-- What backtracking finds, the search finds. -/
theorem explore_of_finds {path : List (Nat × Nat)} {threads : List Thread}
    {ends : Array (Option Nat)} (hsteps : Closed steps)
    (hfinds : Finds steps text path threads (some ends)) (below : List Thread) {n : Nat}
    {tried : Array Bool} (hfits : Fits steps text path tried)
    (hthreads : ∀ t ∈ threads, t.Within steps text) (hcovers : Covers n (threads ++ below) tried) :
    (explore steps text n (threads ++ below) tried).1 = some ends := by
  generalize hfound : some ends = found at hfinds
  induction hfinds generalizing below n tried with
  | nil => simp at hfound
  | @seen path t threads found hseen _ ih =>
    rw [List.forall_mem_cons] at hthreads
    obtain ⟨k, rfl⟩ := Nat.exists_eq_succ_of_ne_zero (Nat.ne_zero_of_lt hcovers)
    have htried := hfits.isTried t hthreads.1 hseen
    rw [List.cons_append, explore_of_isTried htried]
    exact ih below hfits hthreads.2 hcovers.skip hfound
  | @done path t threads ends' hnew hdone =>
    rw [List.forall_mem_cons] at hthreads
    obtain ⟨k, rfl⟩ := Nat.exists_eq_succ_of_ne_zero (Nat.ne_zero_of_lt hcovers)
    have htried : ¬ IsTried steps tried t := by
      intro htried
      obtain ⟨next, hnext, -⟩ := hfits.goes_on t hthreads.1 htried hnew
      simp [hnext] at hdone
    rw [List.cons_append, explore_of_done htried hdone]
  | @found path t threads next ends' hnew hadvance hnext ih =>
    rw [List.forall_mem_cons] at hthreads
    obtain ⟨k, rfl⟩ := Nat.exists_eq_succ_of_ne_zero (Nat.ne_zero_of_lt hcovers)
    obtain ⟨hlength, hwithin⟩ := hthreads.1.advance hsteps hadvance
    have htried : ¬ IsTried steps tried t := by
      intro htried
      obtain ⟨next', hnext', hall⟩ := hfits.goes_on t hthreads.1 htried hnew
      obtain rfl := Sum.inl.inj (hadvance.symm.trans hnext')
      -- Had the thread been tried, then so had all that follows it, but the way to the end had
      -- not.
      obtain ⟨u, hu, hnot⟩ := (hfits.enter htried).exists_not_isTried hsteps hnext hwithin
      exact hnot (hall u hu)
    have hcount := count_record hfits.size_eq hthreads.1 htried
    rw [List.cons_append, explore_of_next htried hadvance]
    exact ih (threads ++ below) (hfits.record hthreads.1) hwithin
      (hcovers.expand hcount hlength) hfound
  | @failed path t threads next found _ hadvance hnext _ _ ihrest =>
    rw [List.forall_mem_cons] at hthreads
    obtain ⟨k, rfl⟩ := Nat.exists_eq_succ_of_ne_zero (Nat.ne_zero_of_lt hcovers)
    by_cases htried : IsTried steps tried t
    · rw [List.cons_append, explore_of_isTried htried]
      exact ihrest below hfits hthreads.2 hcovers.skip hfound
    · obtain ⟨hlength, hwithin⟩ := hthreads.1.advance hsteps hadvance
      have hcount := count_record hfits.size_eq hthreads.1 htried
      obtain ⟨m, tried', hup⟩ := exists_givesUp hsteps hnext (threads ++ below)
        (hfits.record hthreads.1) hwithin (hcovers.expand hcount hlength)
      rw [List.cons_append, explore_of_next htried hadvance, hup.explore_eq]
      exact ihrest below (hup.fits.leave hadvance hup.isTried) hthreads.2 hup.covers hfound

/-! ## Backtracking comes to an end -/

/-- The places of a program and a text that are not on a way. -/
def placesBeside (steps : Array Step) (text : Array Char) (path : List (Nat × Nat)) :
    Finset (Nat × Nat) :=
  (Finset.range steps.size ×ˢ Finset.range (text.size + 1)).filter (· ∉ path)

/-- A longer way leaves fewer places beside it. -/
theorem card_placesBeside_lt {path : List (Nat × Nat)} {t : Thread} (ht : t.Within steps text)
    (hnew : t.place ∉ path) :
    (placesBeside steps text (t.place :: path)).card < (placesBeside steps text path).card := by
  apply Finset.card_lt_card
  refine Finset.ssubset_iff_of_subset ?_ |>.2 ⟨t.place, ?_, ?_⟩
  · intro place hplace
    simp only [placesBeside, Finset.mem_filter, List.mem_cons, not_or] at hplace ⊢
    exact ⟨hplace.1, hplace.2.2⟩
  · simp only [placesBeside, Finset.mem_filter, Finset.mem_product, Finset.mem_range]
    exact ⟨⟨ht.step_lt, Nat.lt_succ_of_le ht.position_le⟩, hnew⟩
  · simp [placesBeside]

/-- Backtracking has a result: each way is longer than the one it goes on from. -/
theorem exists_finds (hsteps : Closed steps) (path : List (Nat × Nat)) (threads : List Thread)
    (hthreads : ∀ t ∈ threads, t.Within steps text) :
    ∃ found, Finds steps text path threads found := by
  induction hn : (placesBeside steps text path).card using Nat.strong_induction_on
    generalizing path threads with
  | _ n ih =>
    induction threads with
    | nil => exact ⟨none, .nil⟩
    | cons t threads ihrest =>
      rw [List.forall_mem_cons] at hthreads
      obtain ⟨rest, hrest⟩ := ihrest hthreads.2
      by_cases hseen : t.place ∈ path
      · exact ⟨rest, .seen hseen hrest⟩
      · cases hadvance : t.advance steps text with
        | inr ends => exact ⟨some ends, .done hseen hadvance⟩
        | inl next =>
          obtain ⟨found, hfound⟩ := ih _ (hn ▸ card_placesBeside_lt hthreads.1 hseen)
            (t.place :: path) next (hthreads.1.advance hsteps hadvance).2 rfl
          cases found with
          | none => exact ⟨rest, .failed hseen hadvance hfound hrest⟩
          | some ends => exact ⟨some ends, .found hseen hadvance hfound⟩

/-! ## The first match -/

/-- The thread with which a program starts at a position. -/
def Program.threadAt (program : Program) (start : Nat) : Thread :=
  ⟨program.start, start, Array.replicate program.slots none⟩

section

variable {program : Program}

/-- No way through a program ends that starts at a position. -/
def Fails (program : Program) (text : Array Char) (start : Nat) : Prop :=
  ∀ ends, ¬ Leads program.steps text (program.threadAt start) ends

/-- The first match of a program: it starts at the first position from which a way ends, and it is
the one that backtracking finds there. -/
structure IsFirstMatch (program : Program) (text : Array Char) (start : Nat)
    (ends : Array (Option Nat)) : Prop where
  start_le : start ≤ text.size
  finds : Finds program.steps text [] [program.threadAt start] (some ends)
  first : ∀ earlier < start, Fails program text earlier

/-- What a search for a program should answer. -/
def IsAnswer (program : Program) (text : Array Char) : Option (Array (Option Nat)) → Prop
  | none => ∀ start ≤ text.size, Fails program text start
  | some ends => ∃ start, IsFirstMatch program text start ends

/-- Where there is a first match, the search does not fail. -/
theorem IsFirstMatch.not_fails {start : Nat} {ends : Array (Option Nat)}
    (h : IsFirstMatch program text start ends) : ¬ Fails program text start := by
  obtain ⟨t, ht, hleads⟩ := h.finds.exists_leads
  obtain rfl := List.mem_singleton.1 ht
  exact fun hfails => hfails ends hleads

/-- There is one first match at most. -/
theorem IsFirstMatch.unique {start start' : Nat} {ends ends' : Array (Option Nat)}
    (h : IsFirstMatch program text start ends) (h' : IsFirstMatch program text start' ends') :
    start = start' ∧ ends = ends' := by
  have hstart : start = start' := by
    rcases Nat.lt_trichotomy start start' with hlt | heq | hgt
    · exact absurd (h'.first start hlt) h.not_fails
    · exact heq
    · exact absurd (h.first start' hgt) h'.not_fails
  subst hstart
  exact ⟨rfl, Option.some.inj (h.finds.unique h'.finds)⟩

/-- A search has one answer. -/
theorem IsAnswer.unique {answer answer' : Option (Array (Option Nat))}
    (h : IsAnswer program text answer) (h' : IsAnswer program text answer') :
    answer = answer' := by
  cases answer with
  | none =>
    cases answer' with
    | none => rfl
    | some ends' =>
      obtain ⟨start, hmatch⟩ := h'
      exact absurd (h start hmatch.start_le) hmatch.not_fails
  | some ends =>
    obtain ⟨start, hmatch⟩ := h
    cases answer' with
    | none => exact absurd (h' start hmatch.start_le) hmatch.not_fails
    | some ends' =>
      obtain ⟨start', hmatch'⟩ := h'
      rw [(hmatch.unique hmatch').2]

/-- A thread that starts in a text is within the program. -/
theorem within_threadAt (h : program.WellFormed) {start : Nat} (hstart : start ≤ text.size) :
    (program.threadAt start).Within program.steps text :=
  ⟨h.start_lt, hstart⟩

/-- The bound of a search covers its first thread. -/
theorem covers_start (t : Thread) (tried : Array Bool) :
    Covers (2 * tried.size + 2) ([t] ++ []) tried := by
  have hcount : tried.count false ≤ tried.size := Array.count_le_size
  simp only [Covers, List.append_nil, List.length_singleton]
  omega

/-- Where backtracking finds nothing, no way ends. -/
theorem fails_of_finds (h : program.WellFormed) {start : Nat} (hstart : start ≤ text.size)
    (hfinds : Finds program.steps text [] [program.threadAt start] none) :
    Fails program text start := by
  have hwithin := within_threadAt h hstart
  obtain ⟨m, tried, hup⟩ := exists_givesUp h.closed hfinds [] (.fresh _ _)
    (List.forall_mem_singleton.2 hwithin) (covers_start _ _)
  intro ends hleads
  exact hup.fits.not_leads h.closed hleads hwithin (hup.isTried _ List.mem_cons_self)

/-- A search from one place goes on to the next one if it fails. -/
theorem searchFrom_succ (n start : Nat) (tried : Array Bool) :
    searchFrom program text start (n + 1) tried =
      match explore program.steps text (2 * tried.size + 2) ([program.threadAt start] ++ [])
        tried with
      | (some ends, _) => some ends
      | (none, tried) => searchFrom program text (start + 1) n tried :=
  rfl

/-- The positions are tried one after the other, each with the record of those before. -/
theorem isAnswer_searchFrom (h : program.WellFormed) (n start : Nat) (tried : Array Bool)
    (hn : start + n = text.size + 1) (hfits : Fits program.steps text [] tried)
    (hfirst : ∀ earlier < start, Fails program text earlier) :
    IsAnswer program text (searchFrom program text start n tried) := by
  induction n generalizing start tried with
  | zero =>
    intro i hi
    exact hfirst i (by omega)
  | succ n ih =>
    have hwithin := within_threadAt h (show start ≤ text.size by omega)
    have hthreads := List.forall_mem_singleton.2 hwithin
    have hcovers := covers_start (program.threadAt start) tried
    obtain ⟨found, hfinds⟩ := exists_finds h.closed [] _ hthreads
    rw [searchFrom_succ]
    cases found with
    | some ends =>
      have hexplore := explore_of_finds h.closed hfinds [] hfits hthreads hcovers
      split
      · rename_i ends' tried' hresult
        rw [hresult] at hexplore
        obtain rfl := Option.some.inj hexplore
        exact ⟨start, by omega, hfinds, hfirst⟩
      · rename_i tried' hresult
        rw [hresult] at hexplore
        simp at hexplore
    | none =>
      obtain ⟨m, tried', hup⟩ := exists_givesUp h.closed hfinds [] hfits hthreads hcovers
      have hfails : Fails program text start := fun ends hleads =>
        hup.fits.not_leads h.closed hleads hwithin (hup.isTried _ List.mem_cons_self)
      rw [hup.explore_eq, explore_nil]
      refine ih (start + 1) tried' (by omega) hup.fits fun earlier hearlier => ?_
      rcases Nat.lt_succ_iff_lt_or_eq.1 hearlier with hlt | rfl
      · exact hfirst earlier hlt
      · exact hfails

/-- A search answers as it should. -/
theorem isAnswer_search (h : program.WellFormed) (text : Array Char) :
    IsAnswer program text (search program text) :=
  isAnswer_searchFrom h _ _ _ (by omega) (.fresh _ _) (by simp)

/-- A search finds the first match. -/
theorem search_eq_some_iff (h : program.WellFormed) {ends : Array (Option Nat)} :
    search program text = some ends ↔ ∃ start, IsFirstMatch program text start ends := by
  constructor
  · intro hsearch
    have hanswer := isAnswer_search h text
    rwa [hsearch] at hanswer
  · intro hmatch
    exact (isAnswer_search h text).unique hmatch

end

end Pattern

/-! ## Patterns -/

namespace Pattern

/-- The program of a pattern is well formed. -/
theorem wellFormed_of_compile? {source : String} {p : Pattern} (h : compile? source = some p) :
    p.program.WellFormed := by
  unfold compile? at h
  split at h
  · split at h
    · obtain rfl := Option.some.inj h
      exact wellFormed_ofExpr _ _
    · simp at h
  · simp at h

/-- A pattern matches a text if some way through its program ends, from some position on. -/
def Matches (p : Pattern) (text : String) : Prop :=
  ∃ start ≤ text.toList.toArray.size, ¬ Fails p.program text.toList.toArray start

/-- What a group holds: the text between its two ends, if both were recorded. -/
def groupText? (text : String) (ends : Array (Option Nat)) (index : Nat) : Option String :=
  match ends[2 * index]?.getD none, ends[2 * index + 1]?.getD none with
  | some first, some last => some (String.ofList ((text.toList.drop first).take (last - first)))
  | _, _ => none

/-- The captures of a pattern are the texts of its groups where the search matches. -/
theorem captures?_eq (p : Pattern) (text : String) :
    p.captures? text = (search p.program text.toList.toArray).map fun ends =>
      (List.range (ends.size / 2)).map (groupText? text ends) := by
  have hextract : ∀ first last, (text.toList.toArray.extract first last).toList =
      (text.toList.drop first).take (last - first) :=
    fun first last => Array.toList_extract.trans rfl
  rw [captures?]
  congr 1
  funext ends
  apply List.map_congr_left
  intro index _
  simp only [hextract]
  rfl

/-- A group that is missing from the captures has no text. -/
theorem getD_groupText? (text : String) (ends : Array (Option Nat)) (index : Nat) :
    ((List.range (ends.size / 2)).map (groupText? text ends))[index]?.getD none =
      groupText? text ends index := by
  by_cases h : index < ends.size / 2
  · simp [h]
  · have hlast : ends[2 * index + 1]? = none := Array.getElem?_eq_none (by omega)
    simp [h, groupText?, hlast]

/-- A pattern matches the texts in which the search for it finds a match. -/
theorem matches_iff {source : String} {p : Pattern} (h : compile? source = some p)
    {text : String} :
    p.Matches text ↔ ∃ ends, search p.program text.toList.toArray = some ends := by
  constructor
  · rintro ⟨start, hstart, hleads⟩
    have hanswer := isAnswer_search (wellFormed_of_compile? h) text.toList.toArray
    cases hsearch : search p.program text.toList.toArray with
    | some ends => exact ⟨ends, rfl⟩
    | none =>
      rw [hsearch] at hanswer
      exact absurd (hanswer start hstart) hleads
  · rintro ⟨ends, hsearch⟩
    obtain ⟨start, hfirst⟩ := (search_eq_some_iff (wellFormed_of_compile? h)).1 hsearch
    exact ⟨start, hfirst.start_le, hfirst.not_fails⟩

/-- A text that a pattern matches is captured: the groups hold what the first match records. -/
theorem exists_captures? {source : String} {p : Pattern} (h : compile? source = some p)
    {text : String} (hmatch : p.Matches text) :
    ∃ groups start ends, p.captures? text = some groups ∧
      IsFirstMatch p.program text.toList.toArray start ends ∧
      ∀ index, groups[index]?.getD none = groupText? text ends index := by
  obtain ⟨ends, hsearch⟩ := (matches_iff h).1 hmatch
  obtain ⟨start, hfirst⟩ := (search_eq_some_iff (wellFormed_of_compile? h)).1 hsearch
  exact ⟨_, start, ends, by rw [captures?_eq, hsearch]; rfl, hfirst, getD_groupText? text ends⟩

end Pattern

end TemplateImports
