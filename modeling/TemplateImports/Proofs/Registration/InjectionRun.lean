import TemplateImports.Proofs.Text.Occurrence
import TemplateImports.Registration.Injection

/-!
# Runs of injections

Blocks are put into a script one after the other, and each step looks for the sentinel in the text
that the step before has left.  While the sentinel is looked for as text, no junction of old text,
block and blank line may hold an occurrence that is earlier than the one in front of which the
first block was put.

The invariant of a run is the border in front of the first occurrence: a step moves it behind the
new block and changes nothing after it.

Main results:

- Definition `Generator.injectRun` is a run; definition `Generator.runBlocks` lists its blocks.
- Theorem `occursFirst_append_block` says that a block moves the border of the sentinel behind it.
- Theorem `injectRun_textual` says what a run leaves when the sentinel is looked for as text.
-/

namespace TemplateImports.Generator

open Text

/-! ## Runs -/

/-- The imports that one step registers. -/
abbrev InjectionStep := Category × List Import

/-- The text after a run of injections, each working on the text of the one before. -/
def injectRun (g : Generator) (source : String) (steps : List InjectionStep) : String :=
  steps.foldl (fun text step => g.inject text step.1 step.2) source

/-- The blocks of a run, in order.  A step without imports has none. -/
def runBlocks (g : Generator) (steps : List InjectionStep) : List String :=
  steps.filterMap fun step => g.block? step.1 step.2

/-- The sentinel is looked for as text: it is not written as a comment, or the text is no script. -/
def LooksForText (g : Generator) (source : String) : Prop :=
  isCommentLike g.sentinel.toList = false ∨ Script.read? source.toList = none

/-- The sentinel is looked for as text at each step of a run. -/
def RunLooksForText (g : Generator) : String → List InjectionStep → Prop
  | _, [] => True
  | source, step :: steps =>
    g.LooksForText source ∧ g.RunLooksForText (g.inject source step.1 step.2) steps

/-- No suffix of the sentinel that the marker starts with can complete an occurrence of the
sentinel: such a suffix is a beginning of the sentinel as well. -/
def BordersAgree (g : Generator) : Prop :=
  ∀ border, border ≠ [] → border ≠ g.sentinel.toList → border <:+ g.sentinel.toList →
    border <+: g.marker.toList → border <+: g.sentinel.toList

/-- The line feeds between a block and the text around it. -/
def blankLine : List Char :=
  ['\n', '\n']

instance (g : Generator) (source : String) : Decidable (g.LooksForText source) :=
  inferInstanceAs (Decidable (_ ∨ _))

variable {g : Generator}

theorem runBlocks_cons (step : InjectionStep) (steps : List InjectionStep) :
    g.runBlocks (step :: steps) = (g.block? step.1 step.2).toList ++ g.runBlocks steps := by
  unfold runBlocks
  cases h : g.block? step.1 step.2 <;> simp [h]

/-- Whether borders agree can be checked on the suffixes of the sentinel. -/
theorem bordersAgree_iff :
    g.BordersAgree ↔ ∀ border ∈ g.sentinel.toList.tails, border ≠ [] →
      border ≠ g.sentinel.toList → border <+: g.marker.toList → border <+: g.sentinel.toList := by
  simp only [BordersAgree, List.mem_tails]
  constructor
  · intro h border hsuffix hnil hproper hmarker
    exact h border hnil hproper hsuffix hmarker
  · intro h border hnil hproper hsuffix hmarker
    exact h border hsuffix hnil hproper hmarker

instance (g : Generator) : Decidable g.BordersAgree :=
  decidable_of_iff _ bordersAgree_iff.symm

/-- The borders of the default sentinel agree. -/
example : BordersAgree {} := by decide

/-! ## The shape of a block -/

/-- A block opens with the marker on a line of its own. -/
theorem toList_of_block? {c : Category} {imports : List Import} {block : String}
    (h : g.block? c imports = some block) :
    ∃ rest, block.toList = g.marker.toList ++ '\n' :: rest := by
  unfold block? at h
  split at h
  · simp at h
  · simp only [Option.some.injEq] at h
    subst h
    refine ⟨("\n".intercalate (g.helperImport c :: (statements imports ++
      [registrationCall c (registeredKeys imports)])) ++ "\n").toList, ?_⟩
    simp [blockLines, String.intercalate_cons_cons]

/-! ## The border of the sentinel -/

/-- No occurrence of the sentinel starts in a block without it, or in the blank line behind it. -/
theorem not_prefix_of_block {block front late after : List Char}
    (hne : g.sentinel.toList ≠ []) (hline : '\n' ∉ g.sentinel.toList)
    (hfree : ¬ g.sentinel.toList <:+: block) (hlate : late ≠ [])
    (hfront : block ++ blankLine = front ++ late) : ¬ g.sentinel.toList <+: late ++ after := by
  intro hp
  rcases List.append_eq_append_iff.1 hfront with ⟨gap, -, hgap⟩ | ⟨new, rfl, rfl⟩
  · have hempty : g.sentinel.toList <+: [] := by
      cases late with
      | nil => exact absurd rfl hlate
      | cons d late =>
        have hd : d = '\n' := by
          have hmem : d ∈ blankLine := by rw [hgap]; simp
          simpa [blankLine] using hmem
        subst hd
        exact prefix_of_prefix_append_cons hline [] _ hp
    exact hne (List.prefix_nil.1 hempty)
  · have hnew : g.sentinel.toList <+: new :=
      prefix_of_prefix_append_cons hline new ('\n' :: after) (by simpa [blankLine] using hp)
    exact hfree (hnew.isInfix.trans (List.suffix_append front new).isInfix)

/-- An occurrence that starts in the text before a block and goes on into it ends in the marker, so
that there is an occurrence without the block as well. -/
theorem prefix_of_prefix_block {old block rest behind after : List Char}
    (hline : '\n' ∉ g.sentinel.toList) (hborders : g.BordersAgree)
    (hblock : block = g.marker.toList ++ '\n' :: rest) (hfree : ¬ g.sentinel.toList <:+: block)
    (hafter : g.sentinel.toList <+: after) (hold : old <+: g.sentinel.toList)
    (hp : g.sentinel.toList <+: old ++ (block ++ behind)) :
    old ≠ [] ∧ g.sentinel.toList <+: old ++ after := by
  obtain ⟨border, hborder⟩ := hold
  rw [← hborder, List.prefix_append_right_inj, hblock] at hp
  have hborderLine : '\n' ∉ border := fun hmem =>
    hline (hborder ▸ List.mem_append_right old hmem)
  have hm : border <+: g.marker.toList :=
    prefix_of_prefix_append_cons hborderLine _ (rest ++ behind) (by simpa using hp)
  have hold : old ≠ [] := by
    rintro rfl
    rw [List.nil_append] at hborder
    apply hfree
    rw [hblock, ← hborder]
    exact (hm.trans (List.prefix_append _ _)).isInfix
  refine ⟨hold, ?_⟩
  have hsuffix : border <:+ g.sentinel.toList := ⟨old, hborder⟩
  have hproper : border ≠ g.sentinel.toList := by
    intro heq
    rw [← heq] at hborder
    exact hold (List.append_left_eq_self.1 hborder)
  have hstart : border <+: g.sentinel.toList := by
    by_cases hnil : border = []
    · simp [hnil]
    · exact hborders border hnil hproper hsuffix hm
  rw [← hborder, List.prefix_append_right_inj]
  exact hstart.trans hafter

/-- A block moves the border in front of the first occurrence of the sentinel behind itself. -/
theorem occursFirst_append_block {before after block rest : List Char}
    (hne : g.sentinel.toList ≠ []) (hline : '\n' ∉ g.sentinel.toList) (hborders : g.BordersAgree)
    (hblock : block = g.marker.toList ++ '\n' :: rest) (hfree : ¬ g.sentinel.toList <:+: block)
    (h : OccursFirst g.sentinel.toList before after) :
    OccursFirst g.sentinel.toList (before ++ block ++ blankLine) after := by
  refine ⟨h.occurs, ?_⟩
  intro early late hcut hlate hp
  rw [List.append_assoc] at hcut
  rcases List.append_eq_append_iff.1 hcut with ⟨front, rfl, hfront⟩ | ⟨old, rfl, rfl⟩
  · exact not_prefix_of_block hne hline hfree hlate hfront hp
  · rw [List.append_assoc, List.append_assoc] at hp
    rcases List.prefix_or_prefix_of_prefix hp (List.prefix_append old _) with hold | hold
    · by_cases hnil : old = []
      · subst hnil
        exact hne (List.prefix_nil.1 hold)
      · exact h.first early old rfl hnil (hold.trans (List.prefix_append old after))
    · obtain ⟨hnil, hearly⟩ :=
        prefix_of_prefix_block hline hborders hblock hfree h.occurs hold hp
      exact h.first early old rfl hnil hearly

/-- A block at the end of a text without the sentinel adds no occurrence. -/
theorem not_infix_append_block {source block : List Char} (hline : '\n' ∉ g.sentinel.toList)
    (hfree : ¬ g.sentinel.toList <:+: block) (h : ¬ g.sentinel.toList <:+: source) :
    ¬ g.sentinel.toList <:+: source ++ blankLine ++ block := by
  intro hinfix
  rw [List.append_assoc] at hinfix
  rcases infix_of_infix_append_cons hline _ ('\n' :: block) hinfix with hi | hi
  · exact h hi
  · rcases infix_of_infix_append_cons hline [] _ hi with hi | hi
    · rw [List.infix_nil.1 hi] at h
      exact h List.nil_infix
    · exact hfree hi

/-! ## One step -/

/-- While the sentinel is looked for as text, the offset of a step is that of its first
occurrence. -/
theorem locate?_of_looksForText {source : String} (hne : g.sentinel.toList ≠ [])
    (h : g.LooksForText source) :
    locate? source.toList g.sentinel.toList = offsetOf? g.sentinel.toList source.toList := by
  unfold locate?
  rw [if_neg (by simpa using hne)]
  split
  · rename_i hcomment
    rcases h with h | h
    · simp [h] at hcomment
    · rw [h]
  · rfl

/-- A step puts its block in front of the first occurrence of the sentinel. -/
theorem toList_inject_of_occursFirst {source block : String} {c : Category}
    {imports : List Import} {before after : List Char} (hne : g.sentinel.toList ≠ [])
    (htext : g.LooksForText source) (hblock : g.block? c imports = some block)
    (hcut : source.toList = before ++ after) (h : OccursFirst g.sentinel.toList before after) :
    (g.inject source c imports).toList = before ++ block.toList ++ blankLine ++ after := by
  have hoffset : offsetOf? g.sentinel.toList source.toList = some (byteSize before) :=
    offsetOf?_eq_some_iff.2 ⟨before, after, hcut, rfl, h⟩
  have hcutAt : cutAt? (byteSize before) source.toList = some (before, after) :=
    cutAt?_eq_some_iff.2 ⟨hcut, rfl⟩
  simp [inject, injectAt, hblock, offset?, locate?_of_looksForText hne htext, hoffset, splice,
    hcutAt, blankLine]

/-- A step puts its block at the end of a text without the sentinel. -/
theorem toList_inject_of_not_infix {source block : String} {c : Category}
    {imports : List Import} (hne : g.sentinel.toList ≠ []) (htext : g.LooksForText source)
    (hblock : g.block? c imports = some block) (h : ¬ g.sentinel.toList <:+: source.toList) :
    (g.inject source c imports).toList = source.toList ++ blankLine ++ block.toList := by
  have hoffset : offsetOf? g.sentinel.toList source.toList = none := offsetOf?_eq_none_iff.2 h
  simp [inject, injectAt, hblock, offset?, locate?_of_looksForText hne htext, hoffset, splice,
    blankLine]

theorem inject_of_block?_eq_none {source : String} {c : Category} {imports : List Import}
    (h : g.block? c imports = none) : g.inject source c imports = source := by
  simp [inject, injectAt, h]

/-! ## Whole runs -/

/-- A run that finds the sentinel puts its blocks in front of the first occurrence, in order. -/
theorem toList_injectRun_of_occursFirst (hne : g.sentinel.toList ≠ [])
    (hline : '\n' ∉ g.sentinel.toList) (hborders : g.BordersAgree) {steps : List InjectionStep}
    {source : String} {before after : List Char}
    (hfree : ∀ block ∈ g.runBlocks steps, ¬ g.sentinel.toList <:+: block.toList)
    (htext : g.RunLooksForText source steps) (hcut : source.toList = before ++ after)
    (h : OccursFirst g.sentinel.toList before after) :
    (g.injectRun source steps).toList =
      before ++ (g.runBlocks steps).flatMap (fun block => block.toList ++ blankLine) ++ after := by
  induction steps generalizing source before with
  | nil => simpa [injectRun, runBlocks] using hcut
  | cons step steps ih =>
    rw [runBlocks_cons] at hfree ⊢
    have hfree' : ∀ block ∈ g.runBlocks steps, ¬ g.sentinel.toList <:+: block.toList :=
      fun block hmem => hfree block (List.mem_append_right _ hmem)
    have hrun : g.injectRun source (step :: steps) =
        g.injectRun (g.inject source step.1 step.2) steps := rfl
    rw [hrun]
    cases hblock : g.block? step.1 step.2 with
    | none =>
      have hsame : (g.inject source step.1 step.2).toList = before ++ after := by
        rw [inject_of_block?_eq_none hblock, hcut]
      rw [ih hfree' htext.2 hsame h]
      simp
    | some block =>
      have hfreeBlock : ¬ g.sentinel.toList <:+: block.toList := hfree block (by simp [hblock])
      obtain ⟨rest, hshape⟩ := toList_of_block? hblock
      have hstep := toList_inject_of_occursFirst hne htext.1 hblock hcut h
      have hborder := occursFirst_append_block hne hline hborders hshape hfreeBlock h
      rw [ih hfree' htext.2 hstep hborder]
      simp

/-- A run that does not find the sentinel puts its blocks at the end, in order. -/
theorem toList_injectRun_of_not_infix (hne : g.sentinel.toList ≠ [])
    (hline : '\n' ∉ g.sentinel.toList) {steps : List InjectionStep} {source : String}
    (hfree : ∀ block ∈ g.runBlocks steps, ¬ g.sentinel.toList <:+: block.toList)
    (htext : g.RunLooksForText source steps) (h : ¬ g.sentinel.toList <:+: source.toList) :
    (g.injectRun source steps).toList =
      source.toList ++ (g.runBlocks steps).flatMap fun block => blankLine ++ block.toList := by
  induction steps generalizing source with
  | nil => simp [injectRun, runBlocks]
  | cons step steps ih =>
    rw [runBlocks_cons] at hfree ⊢
    have hfree' : ∀ block ∈ g.runBlocks steps, ¬ g.sentinel.toList <:+: block.toList :=
      fun block hmem => hfree block (List.mem_append_right _ hmem)
    have hrun : g.injectRun source (step :: steps) =
        g.injectRun (g.inject source step.1 step.2) steps := rfl
    rw [hrun]
    cases hblock : g.block? step.1 step.2 with
    | none =>
      have hsame : g.inject source step.1 step.2 = source := inject_of_block?_eq_none hblock
      rw [ih hfree' htext.2 (by rw [hsame]; exact h), hsame]
      simp
    | some block =>
      have hfreeBlock : ¬ g.sentinel.toList <:+: block.toList := hfree block (by simp [hblock])
      have hstep := toList_inject_of_not_infix hne htext.1 hblock h
      have habsent := not_infix_append_block hline hfreeBlock h
      rw [ih hfree' htext.2 (by rw [hstep]; exact habsent), hstep]
      simp

/-- While the sentinel is looked for as text, a run puts the blocks of its steps in front of the
first occurrence of the sentinel, or at the end of a text without it, each set off by a blank
line and in the order of the steps. -/
theorem injectRun_textual (g : Generator) (source : String) (steps : List InjectionStep)
    (hne : g.sentinel.toList ≠ []) (hline : '\n' ∉ g.sentinel.toList)
    (hfree : ∀ block ∈ g.runBlocks steps, ¬ g.sentinel.toList <:+: block.toList)
    (hborders : g.BordersAgree) (htext : g.RunLooksForText source steps) :
    (∀ p before after, cutAt? p source.toList = some (before, after) →
      OccursFirst g.sentinel.toList before after →
      (g.injectRun source steps).toList =
        before ++ (g.runBlocks steps).flatMap (fun block => block.toList ++ blankLine) ++
          after) ∧
    (¬ g.sentinel.toList <:+: source.toList →
      (g.injectRun source steps).toList =
        source.toList ++ (g.runBlocks steps).flatMap fun block => blankLine ++ block.toList) := by
  constructor
  · intro p before after hcut h
    exact toList_injectRun_of_occursFirst hne hline hborders hfree htext
      (cutAt?_eq_some_iff.1 hcut).1 h
  · intro h
    exact toList_injectRun_of_not_infix hne hline hfree htext h

/-- A sentinel that overlaps with itself and with the marker, in a run with an empty step. -/
theorem injectRun_textual_overlapping :
    (injectRun ⟨⟨"c", "d", "i"⟩, "ab@ab", "abc"⟩ "xab@ab@ab"
      [(.tag, [⟨"V", "import V"⟩]), (.directive, []), (.icon, [⟨"m", "import m"⟩])]).toList =
    ("xabc\nimport installComponents from \"!c\"\nimport V\n" ++
      "installComponents(component, \x7bV\x7d)\n\n\nabc\nimport installIcons from \"!i\"\n" ++
      "import m\ninstallIcons(component, \x7bm\x7d)\n\n\nab@ab@ab").toList := by
  have hblocks : runBlocks ⟨⟨"c", "d", "i"⟩, "ab@ab", "abc"⟩
      [(.tag, [⟨"V", "import V"⟩]), (.directive, []), (.icon, [⟨"m", "import m"⟩])] =
      ["abc\nimport installComponents from \"!c\"\nimport V\n" ++
        "installComponents(component, \x7bV\x7d)\n",
        "abc\nimport installIcons from \"!i\"\nimport m\ninstallIcons(component, \x7bm\x7d)\n"] := by
    cbv
  have hfirst : OccursFirst "ab@ab".toList "x".toList "ab@ab@ab".toList :=
    occursFirst_cons_iff.2 ⟨by decide, occursFirst_nil (by decide)⟩
  have h := (injectRun_textual ⟨⟨"c", "d", "i"⟩, "ab@ab", "abc"⟩ "xab@ab@ab"
    [(.tag, [⟨"V", "import V"⟩]), (.directive, []), (.icon, [⟨"m", "import m"⟩])]
    (by decide) (by decide) (by rw [hblocks]; decide +kernel) (by decide)
    ⟨Or.inl rfl, Or.inl rfl, Or.inl rfl, trivial⟩).1 1 "x".toList "ab@ab@ab".toList rfl hfirst
  rw [h, hblocks]
  decide_cbv

end TemplateImports.Generator
