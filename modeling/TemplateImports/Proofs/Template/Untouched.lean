import TemplateImports.Proofs.Template.Passes

/-!
# Texts that a pass leaves alone

Three passes of the preparation cut a text at its opening brackets and look at the beginning of each
stretch.  A text is left as it is if none of its stretches begins with a tag that the pass rewrites,
and whether a stretch does is decided in front of the next quote or bracket.

Main results:

- Theorem `mapTags_eq_self` says when a pass over tags changes nothing.
- Theorems `expandTag_eq_self`, `neutralizeTag_eq_self` and `markTag_eq_self` say which tags the
  three passes leave alone.
- Theorem `stretchOf_quote` decides about a stretch in front of a quote.
-/

namespace TemplateImports.Template

open Text

/-! ## Passes that change nothing -/

/-- The text up to the next opening bracket. -/
def stretchOf (cs : List Char) : List Char :=
  cs.takeWhile (· != '<')

/-- The texts behind the opening brackets of a text. -/
def behindBrackets : List Char → List (List Char)
  | [] => []
  | c :: cs => if c == '<' then cs :: behindBrackets cs else behindBrackets cs

/-- The first stretch is what stands before the first bracket. -/
theorem stretches_fst (cs : List Char) : (stretches cs).1 = stretchOf cs := by
  induction cs with
  | nil => rfl
  | cons c cs ih =>
    by_cases hc : c = '<'
    · simp [stretches, stretchOf, hc]
    · simp only [stretchOf] at ih
      simp [stretches, stretchOf, hc, ih]

/-- A text is left as it is if each of its stretches is. -/
theorem mapTags_eq_self {f : List Char → List Char} {cs : List Char}
    (h : ∀ after ∈ behindBrackets cs, f (stretchOf after) = stretchOf after) :
    mapTags f cs = cs := by
  induction cs with
  | nil => rfl
  | cons c cs ih =>
    by_cases hc : c = '<'
    · subst hc
      rw [behindBrackets, if_pos (by decide)] at h
      have hrest := ih fun after hafter => h after (List.mem_cons_of_mem _ hafter)
      have hstretch := h cs List.mem_cons_self
      rw [← stretches_fst] at hstretch
      rw [mapTags] at hrest
      simp [mapTags, stretches, hstretch, hrest]
    · rw [behindBrackets, if_neg (by simpa using hc)] at h
      rw [mapTags_cons_of_ne f hc, ih h]

/-- The brackets of a longer text are those of both parts. -/
theorem behindBrackets_append (cs rest : List Char) :
    behindBrackets (cs ++ rest) =
      (behindBrackets cs).map (· ++ rest) ++ behindBrackets rest := by
  induction cs with
  | nil => rfl
  | cons c cs ih =>
    rw [List.cons_append, behindBrackets, behindBrackets, ih]
    split <;> simp

/-- What stands behind a bracket is an end of the text. -/
theorem exists_append_of_mem_behindBrackets {cs after : List Char}
    (h : after ∈ behindBrackets cs) : ∃ before, cs = before ++ '<' :: after := by
  induction cs with
  | nil => simp [behindBrackets] at h
  | cons c cs ih =>
    rw [behindBrackets] at h
    split at h
    · rename_i hc
      rcases List.mem_cons.1 h with rfl | h
      · exact ⟨[], by simpa using hc⟩
      · obtain ⟨before, hbefore⟩ := ih h
        exact ⟨c :: before, by rw [hbefore, List.cons_append]⟩
    · obtain ⟨before, hbefore⟩ := ih h
      exact ⟨c :: before, by rw [hbefore, List.cons_append]⟩

/-- A text goes on behind its stretch with a bracket, if at all. -/
theorem stretchOf_eq_or (cs : List Char) :
    stretchOf cs = cs ∨ ∃ rest, cs = stretchOf cs ++ '<' :: rest := by
  induction cs with
  | nil => exact Or.inl rfl
  | cons c cs ih =>
    by_cases hc : c = '<'
    · exact Or.inr ⟨cs, by simp [stretchOf, hc]⟩
    · have hcons : stretchOf (c :: cs) = c :: stretchOf cs := by simp [stretchOf, hc]
      rw [hcons]
      rcases ih with ih | ⟨rest, ih⟩
      · exact Or.inl (by rw [ih])
      · exact Or.inr ⟨rest, by rw [List.cons_append, ← ih]⟩

/-- The first stretch does not reach beyond a bracket. -/
theorem stretchOf_append_of_mem {cs : List Char} (h : '<' ∈ cs) (rest : List Char) :
    stretchOf (cs ++ rest) = stretchOf cs := by
  obtain ⟨before, after, rfl, hbefore⟩ := List.eq_append_cons_of_mem h
  have hrun : ∀ c ∈ before, (c != '<') = true := by
    intro c hc
    rw [bne_iff_ne]
    rintro rfl
    exact hbefore hc
  have hstop : ∀ cs, Stops (· != '<') ('<' :: cs) := fun cs => stops_cons (by decide) cs
  rw [stretchOf, stretchOf, List.append_assoc, List.cons_append,
    takeWhile_append_stop hrun (hstop _), takeWhile_append_stop hrun (hstop _)]

/-- A text is cut at the first occurrence of a character in only one way. -/
theorem eq_of_append_cons_eq {c : Char} {first second rest rest' : List Char} (h : c ∉ first)
    (h' : c ∉ second) (heq : first ++ c :: rest = second ++ c :: rest') : first = second := by
  have hrun : ∀ cs : List Char, c ∉ cs → ∀ rest, (cs ++ c :: rest).takeWhile (· != c) = cs := by
    intro cs hcs rest
    refine takeWhile_append_stop (fun d hd => ?_) (stops_cons (by simp) rest)
    rw [bne_iff_ne]
    rintro rfl
    exact hcs hd
  rw [← hrun first h rest, heq, hrun second h' rest']

/-! ## What the passes rewrite -/

/-- Whether a text goes on with the rest of a tag of a selection. -/
def writesSelection (after : List Char) : Bool :=
  ["select".toList, "/select".toList].any fun word =>
    word.isPrefixOf after && endsName (after.drop word.length)

/-- Whether a text goes on with the rest of a tag of a component. -/
def writesComponent (after : List Char) : Bool :=
  (after.head?.map Char.isUpper).getD false &&
    (((after.dropWhile isComponentChar).head?.map fun c => isBlank c || c == '>').getD false)

/-- A tag that writes no selection keeps its name. -/
theorem neutralizeTag_eq_self {stretch : List Char} (h : writesSelection stretch = false) :
    neutralizeTag stretch = stretch := by
  simp only [writesSelection, List.any_cons, List.any_nil, Bool.or_false, Bool.or_eq_false_iff]
    at h
  unfold neutralizeTag
  rw [show 6 = "select".toList.length from rfl, show 7 = "/select".toList.length from rfl, h.1,
    h.2]
  rfl

/-- A tag that writes no component gets no marker. -/
theorem markTag_eq_self {stretch : List Char} (h : writesComponent stretch = false) :
    markTag stretch = stretch := by
  unfold markTag
  cases hrest : stretch.dropWhile isComponentChar with
  | nil => simp
  | cons c rest =>
    simp only [writesComponent, hrest, List.head?_cons, Option.map_some, Option.getD_some] at h
    simp only [h, Bool.false_eq_true, if_false]

/-- A self-closed tag ends with a slash. -/
theorem exists_of_selfClosedAttributes? {inside : List Char}
    (h : selfClosedAttributes? inside ≠ none) : ∃ start, inside = start ++ ['/'] := by
  apply List.getLast?_eq_some_iff.1
  by_contra hlast
  simp [selfClosedAttributes?, hlast] at h

/-- A tag is self-closed only if its closing bracket stands right behind a slash. -/
theorem expandTag_eq_self {stretch : List Char}
    (h : startsWithLetter stretch = true →
      ∀ before, before ++ ['/', '>'] <+: stretch → '>' ∈ before) :
    expandTag stretch = stretch := by
  let rest := stretch.dropWhile isNameChar
  have hnone : startsWithLetter stretch = true → ∀ c after,
      rest.dropWhile (· != '>') = c :: after →
        selfClosedAttributes? (rest.takeWhile (· != '>')) = none := by
    intro hletter c after hafter
    by_contra hsome
    obtain ⟨inside, hinside⟩ := exists_of_selfClosedAttributes? hsome
    have hc : c = '>' := by
      have hhead := List.head_dropWhile_not (· != '>') (l := rest) (by simp [hafter])
      simpa [hafter] using hhead
    have hcut : (stretch.takeWhile isNameChar ++ inside) ++ ['/', '>'] ++ after = stretch := by
      have hrest : inside ++ ['/'] ++ '>' :: after = rest := by
        subst hc
        rw [← hinside, ← hafter, List.takeWhile_append_dropWhile]
      calc (stretch.takeWhile isNameChar ++ inside) ++ ['/', '>'] ++ after
          = stretch.takeWhile isNameChar ++ (inside ++ ['/'] ++ '>' :: after) := by simp
        _ = stretch := by rw [hrest, List.takeWhile_append_dropWhile]
    rcases List.mem_append.1 (h hletter _ ⟨after, hcut⟩) with hmem | hmem
    · exact absurd (List.all_eq_true.1 List.all_takeWhile _ hmem) (by decide)
    · have hrun := List.all_eq_true.1 (List.all_takeWhile (p := (· != '>')) (l := rest)) '>'
        (by rw [hinside]; exact List.mem_append_left _ hmem)
      exact absurd hrun (by decide)
  unfold expandTag
  dsimp only
  split
  · rfl
  · rename_i hcond
    have hletter : startsWithLetter stretch = true := by
      by_contra hletter
      simp [hletter] at hcond
    split
    · rfl
    · rename_i c after hafter
      rw [hnone hletter c after hafter]

/-! ## Tags behind a quote -/

/-- Whether a text writes a tag is decided in front of a quote or a bracket. -/
theorem writesSelection_append {c : Char} (hc : c = '"' ∨ c = '<') (cs rest : List Char) :
    writesSelection (cs ++ c :: rest) = writesSelection cs := by
  have hword : ∀ word : List Char, c ∉ word → ∀ cs : List Char,
      (word.isPrefixOf (cs ++ c :: rest) && endsName ((cs ++ c :: rest).drop word.length)) =
        (word.isPrefixOf cs && endsName (cs.drop word.length)) := by
    intro word
    induction word with
    | nil =>
      intro _ cs
      cases cs with
      | nil => rcases hc with rfl | rfl <;> rfl
      | cons d cs => rfl
    | cons x word ih =>
      intro hnot cs
      simp only [List.mem_cons, not_or] at hnot
      cases cs with
      | nil => simp [List.isPrefixOf_cons_cons, Ne.symm hnot.1]
      | cons d cs => simp [List.isPrefixOf_cons_cons, Bool.and_assoc, ih hnot.2 cs]
  have hnot : c ∉ "select".toList ∧ c ∉ "/select".toList := by
    rcases hc with rfl | rfl <;> decide
  simp only [writesSelection, List.any_cons, List.any_nil, Bool.or_false, hword _ hnot.1,
    hword _ hnot.2]

/-- Whether a tag writes a component is decided before its first quote or bracket. -/
theorem writesComponent_append {c : Char} (hc : c = '"' ∨ c = '<') (cs rest : List Char) :
    writesComponent (cs ++ c :: rest) = writesComponent cs := by
  have hstop : Stops isComponentChar (c :: rest) := by
    rcases hc with rfl | rfl <;> exact stops_cons (by decide) rest
  have hends : (isBlank c || c == '>') = false := by
    rcases hc with rfl | rfl <;> decide
  cases cs with
  | nil => rcases hc with rfl | rfl <;> rfl
  | cons d cs =>
    rw [writesComponent, writesComponent, dropWhile_append_of_stops hstop]
    cases (d :: cs).dropWhile isComponentChar with
    | nil => simp [hends]
    | cons e es => simp

/-- What is decided in front of a quote or a bracket is decided in the stretch up to it. -/
theorem stretchOf_quote {writes : List Char → Bool}
    (h : ∀ {c : Char}, c = '"' ∨ c = '<' → ∀ cs rest, writes (cs ++ c :: rest) = writes cs)
    (cs rest : List Char) : writes (stretchOf (cs ++ '"' :: rest)) = writes cs := by
  rw [← h (Or.inl rfl) cs rest]
  rcases stretchOf_eq_or (cs ++ '"' :: rest) with hsame | ⟨others, hothers⟩
  · rw [hsame]
  · conv_rhs => rw [hothers, h (Or.inr rfl)]

end TemplateImports.Template
