import TemplateImports.Proofs.Pattern.Progress
import TemplateImports.Proofs.Text.Run
import TemplateImports.Template.Icon

/-!
# Icons and their pattern

The name of an icon is what a pattern captures: it starts behind an opening and a quote and goes on
greedily.  With backtracking, the loop over its characters comes to rest at the last end on the
line.

Main results:

- Definition `IsIconText` says what is captured in a value, without a search; theorem
  `iconText?_eq_some_iff` says that it is what is found.
- Definition `iconProgram` is the program of the pattern; theorem `exists_compile?_iconPattern` says
  that the pattern is compiled to it.
- Theorem `yieldsName_loop` says that the loop of the program comes to rest at the last end.
- Theorem `icon?_characterized` says that the name of an icon is what the pattern captures, and
  where it stands.
-/

namespace TemplateImports.Template

open Pattern Text

/-! ## Last places -/

section

variable {test : List Char → Bool} {cs before : List Char}

theorem beforeLast_cons (c : Char) (cs : List Char) :
    beforeLast test (c :: cs) =
      ((beforeLast test cs).map (c :: ·)).or (if test (c :: cs) then some [] else none) := by
  rw [beforeLast]
  cases beforeLast test cs <;> rfl

/-- A place is the last one if the rest of the text satisfies a test there and nowhere behind. -/
structure IsLastPlace (test : List Char → Prop) (cs before : List Char) : Prop where
  holds : ∃ after, cs = before ++ after ∧ test after
  last : ∀ early late, cs = early ++ late → test late → early.length ≤ before.length

theorem isLastPlace_of_beforeLast (hnil : test [] = false) (h : beforeLast test cs = some before) :
    IsLastPlace (test · = true) cs before := by
  induction cs generalizing before with
  | nil => simp [beforeLast] at h
  | cons c cs ih =>
    rw [beforeLast] at h
    cases hcs : beforeLast test cs with
    | some behind =>
      rw [hcs] at h
      obtain rfl := Option.some.inj h
      obtain ⟨⟨after, rfl, htest⟩, hlast⟩ := ih hcs
      refine ⟨⟨after, rfl, htest⟩, ?_⟩
      intro early late hcut hholds
      cases early with
      | nil => simp
      | cons d early =>
        have hbound := hlast early late (List.cons.inj hcut).2 hholds
        simpa using hbound
    | none =>
      rw [hcs] at h
      simp only [Option.ite_none_right_eq_some, Option.some.injEq] at h
      obtain ⟨htest, rfl⟩ := h
      refine ⟨⟨c :: cs, rfl, htest⟩, ?_⟩
      intro early late hcut hholds
      cases early with
      | nil => simp
      | cons d early =>
        exfalso
        cases late with
        | nil => simp [hnil] at hholds
        | cons e late =>
          have hplace := beforeLast_isSome_iff.2 ⟨early, e, late, (List.cons.inj hcut).2, hholds⟩
          simp [hcs] at hplace

theorem IsLastPlace.unique {test : List Char → Prop} {before' : List Char}
    (h : IsLastPlace test cs before) (h' : IsLastPlace test cs before') : before = before' := by
  obtain ⟨after, rfl, htest⟩ := h.holds
  obtain ⟨after', hcut, htest'⟩ := h'.holds
  have hle := h'.last before after rfl htest
  have hge := h.last before' after' hcut htest'
  exact (List.append_inj hcut (Nat.le_antisymm hle hge)).1

/-- A search for the last place finds it. -/
theorem beforeLast_eq_some_iff (hnil : test [] = false) :
    beforeLast test cs = some before ↔ IsLastPlace (test · = true) cs before := by
  refine ⟨isLastPlace_of_beforeLast hnil, fun h => ?_⟩
  obtain ⟨after, hcut, htest⟩ := h.holds
  cases after with
  | nil => simp [hnil] at htest
  | cons c after =>
    obtain ⟨before', hbefore'⟩ := Option.isSome_iff_exists.1
      (beforeLast_isSome_iff.2 ⟨before, c, after, hcut, htest⟩)
    rw [hbefore', (isLastPlace_of_beforeLast hnil hbefore').unique h]

end

/-! ## Names of icons -/

/-- What ends the name of an icon: a double quote, or a single quote before a parenthesis. -/
def IsIconEnd (cs : List Char) : Prop :=
  ['"'] <+: cs ∨ ['\x27', ')'] <+: cs

theorem endsIconName_iff (cs : List Char) : endsIconName cs = true ↔ IsIconEnd cs := by
  simp [endsIconName, IsIconEnd]

/-- The part of a text in front of its first line break, if there is one. -/
structure IsFirstLine (cs line : List Char) : Prop where
  no_break : '\n' ∉ line
  behind : ∃ rest, cs = line ++ rest ∧ ∀ c ∈ rest.head?, c = '\n'

theorem isFirstLine_iff {cs line : List Char} :
    IsFirstLine cs line ↔ cs.takeWhile (· != '\n') = line := by
  constructor
  · rintro ⟨hbreak, rest, rfl, hrest⟩
    refine takeWhile_append_stop ?_ ?_
    · intro c hc
      simpa using ne_of_mem_of_not_mem hc hbreak
    · intro c hc
      simpa using hrest c hc
  · rintro rfl
    refine ⟨?_, cs.dropWhile (· != '\n'), List.takeWhile_append_dropWhile.symm, ?_⟩
    · intro hmem
      simpa using List.mem_takeWhile_imp hmem
    · intro c hc
      have hstop := List.head?_dropWhile_not (· != '\n') cs
      rw [Option.mem_def.1 hc] at hstop
      simpa using hstop

/-- What is captured in a value: the text behind an opening and a quote, up to the last end on the
line. -/
def IsIconText (cs name : List Char) : Prop :=
  ∃ quote rest line, cs = iconOpening ++ quote :: rest ∧ (quote = '"' ∨ quote = '\x27') ∧
    IsFirstLine rest line ∧ IsLastPlace IsIconEnd line name

/-- The text that is captured behind the opening. -/
def quotedText? : List Char → Option (List Char)
  | [] => none
  | quote :: rest =>
    if quote == '"' || quote == '\x27' then
      beforeLast endsIconName (rest.takeWhile (· != '\n'))
    else none

/-- The text that is captured in a value. -/
def iconText? (cs : List Char) : Option (List Char) :=
  if iconOpening.isPrefixOf cs then quotedText? (cs.drop iconOpening.length) else none

theorem quotedText?_eq_some_iff {cs name : List Char} :
    quotedText? cs = some name ↔ ∃ quote rest line, cs = quote :: rest ∧
      (quote = '"' ∨ quote = '\x27') ∧ IsFirstLine rest line ∧ IsLastPlace IsIconEnd line name := by
  have hlast : ∀ line, beforeLast endsIconName line = some name ↔
      IsLastPlace IsIconEnd line name := by
    intro line
    rw [beforeLast_eq_some_iff rfl]
    simp only [endsIconName_iff]
  cases cs with
  | nil => simp [quotedText?]
  | cons quote rest =>
    simp only [quotedText?, Option.ite_none_right_eq_some, Bool.or_eq_true, beq_iff_eq, hlast]
    constructor
    · rintro ⟨hquote, hname⟩
      exact ⟨quote, rest, _, rfl, hquote, isFirstLine_iff.2 rfl, hname⟩
    · rintro ⟨quote, rest, line, hcut, hquote, hline, hname⟩
      obtain ⟨rfl, rfl⟩ := List.cons.inj hcut
      obtain rfl := isFirstLine_iff.1 hline
      exact ⟨hquote, hname⟩

/-- The captured text stands where it should. -/
theorem iconText?_eq_some_iff {cs name : List Char} :
    iconText? cs = some name ↔ IsIconText cs name := by
  simp only [iconText?, Option.ite_none_right_eq_some, List.isPrefixOf_iff_prefix,
    quotedText?_eq_some_iff, IsIconText]
  constructor
  · rintro ⟨⟨behind, rfl⟩, hquoted⟩
    simpa using hquoted
  · rintro ⟨quote, rest, line, rfl, hquote⟩
    refine ⟨List.prefix_append _ _, quote, rest, line, List.drop_left, hquote⟩

/-- The captured text starts behind the quote. -/
theorem IsIconText.prefix_drop {cs name : List Char} (h : IsIconText cs name) :
    name <+: cs.drop 10 := by
  obtain ⟨quote, rest, line, rfl, -, ⟨-, behind, rfl, -⟩, ⟨after, rfl, -⟩, -⟩ := h
  have hlength : (iconOpening ++ [quote]).length = 10 := by
    rw [List.length_append]
    rfl
  have hcut : iconOpening ++ quote :: (name ++ after ++ behind) =
      (iconOpening ++ [quote]) ++ (name ++ after ++ behind) := by simp
  rw [hcut, List.drop_left' hlength, List.append_assoc]
  exact List.prefix_append _ _

/-- The name of an icon is the captured text, unless that is empty. -/
theorem icon?_eq (value : String) :
    icon? value = ((iconText? value.toList).filter (!·.isEmpty)).map String.ofList := by
  simp only [icon?, iconText?]
  split
  · cases value.toList.drop iconOpening.length with
    | nil => rfl
    | cons quote rest =>
      simp only [quotedText?]
      split
      · cases beforeLast endsIconName (rest.takeWhile (· != '\n')) with
        | none => rfl
        | some name => cases name <;> rfl
      · rfl
  · rfl

/-! ## The pattern -/

/-- The pattern of the values that ask for an icon by its name. -/
def iconPattern : String :=
  "^\\$getIcon\\([\"'](.*)(?:\"|'\\))"

/-- The quotes that open the name of an icon. -/
def openingQuote : CharSet :=
  .union (.union .empty (.single '"')) (.single '\x27')

/-- The characters of a line. -/
def lineChar : CharSet :=
  .compl (.single '\n')

/-- The program of the pattern, the last step first. -/
def iconProgram : Program where
  steps := #[
    .done, .mark 1 0,
    -- the end of a name
    .set (.single '"') 1, .set (.single ')') 1, .set (.single '\x27') 3, .fork 2 4, .mark 3 5,
    -- the name
    .fork 8 6, .set lineChar 7, .mark 2 7,
    -- the opening
    .set openingQuote 9, .set (.single '(') 10, .set (.single 'n') 11, .set (.single 'o') 12,
    .set (.single 'c') 13, .set (.single 'I') 14, .set (.single 't') 15, .set (.single 'e') 16,
    .set (.single 'g') 17, .set (.single '$') 18, .condition .textStart 19, .mark 0 20]
  start := 21
  slots := 4

/-- The pattern is compiled to the program. -/
theorem exists_compile?_iconPattern :
    ∃ p, Pattern.compile? iconPattern = some p ∧ p.program = iconProgram := by
  have hcompile : (Pattern.compile? iconPattern).map
      (fun p => (p.program.steps, p.program.start, p.program.slots)) =
      some (iconProgram.steps, iconProgram.start, iconProgram.slots) := by decide +kernel
  obtain ⟨p, hp, hparts⟩ := Option.map_eq_some_iff.1 hcompile
  simp only [Prod.mk.injEq] at hparts
  refine ⟨p, hp, ?_⟩
  obtain ⟨source, steps, start, slots⟩ := p
  obtain ⟨rfl, rfl, rfl⟩ := hparts
  rfl

/-- The program comes back to its loop only behind a character. -/
theorem progresses_iconProgram :
    Progresses (fun step => if step = 8 then 0 else step) iconProgram.steps := by
  decide +kernel

theorem spells_iconProgram : Spells iconProgram.steps iconOpening 19 10 :=
  ⟨18, rfl, 17, rfl, 16, rfl, 15, rfl, 14, rfl, 13, rfl, 12, rfl, 11, rfl, 10, rfl, rfl⟩

theorem mem_openingQuote {c : Char} :
    openingQuote.mem c = true ↔ c = '"' ∨ c = '\x27' := by
  rw [← CharSet.mem_single, ← CharSet.mem_single]
  simp [openingQuote, CharSet.mem]

theorem mem_lineChar {c : Char} : lineChar.mem c = true ↔ c ≠ '\n' := by
  rw [lineChar, CharSet.mem_compl, Bool.not_eq_true', ← Bool.not_eq_true, ne_eq,
    CharSet.mem_single]

/-! ## The loop over the name -/

section

variable {text : Array Char} {rest : List Char} {position : Nat} {ends : Array (Option Nat)}

/-- A thread yields the record of a name that starts where it stands, or nothing. -/
def YieldsName (text : Array Char) (t : Thread) (name : Option (List Char)) : Prop :=
  ∃ last, Yields iconProgram.steps text [t] (name.map fun name =>
    (t.ends.setIfInBounds 3 (some (t.position + name.length))).setIfInBounds 1 (some last))

/-- The end of a name is taken where it stands. -/
theorem exists_yields_end (h : Ahead text position rest) (ends : Array (Option Nat)) :
    ∃ last, Yields iconProgram.steps text [⟨5, position, ends⟩]
      (if endsIconName rest then some (ends.setIfInBounds 1 (some last)) else none) := by
  have hends := endsIconName_iff rest
  have hdouble : Spells iconProgram.steps ['"'] 2 1 := ⟨1, rfl, rfl⟩
  have hsingle : Spells iconProgram.steps ['\x27', ')'] 4 1 := ⟨3, rfl, 1, rfl, rfl⟩
  have hdone : ∀ position, Yields iconProgram.steps text [⟨1, position, ends⟩]
      (some (ends.setIfInBounds 1 (some position))) :=
    fun position => .mark rfl (.done rfl)
  have hfork : ∀ {found found'}, Yields iconProgram.steps text [⟨2, position, ends⟩] found →
      Yields iconProgram.steps text [⟨4, position, ends⟩] found' →
      Yields iconProgram.steps text [⟨5, position, ends⟩] (found.or found') :=
    fun hfirst hsecond => .fork rfl hfirst hsecond
  by_cases hd : ['"'] <+: rest
  · have hholds := hends.2 (.inl hd)
    obtain ⟨behind, rfl⟩ := hd
    have hother : ¬ ['\x27', ')'] <+: ['"'] ++ behind := by simp [List.cons_prefix_cons]
    refine ⟨position + 1, ?_⟩
    rw [if_pos hholds]
    exact hfork (hdouble.take h (hdone (position + 1))) (hsingle.refuse h hother)
  · by_cases hs : ['\x27', ')'] <+: rest
    · have hholds := hends.2 (.inr hs)
      obtain ⟨behind, rfl⟩ := hs
      refine ⟨position + 2, ?_⟩
      rw [if_pos hholds]
      exact hfork (hdouble.refuse h hd) (hsingle.take h (hdone (position + 2)))
    · refine ⟨0, ?_⟩
      rw [if_neg (hends.not.2 (not_or.2 ⟨hd, hs⟩))]
      exact hfork (hdouble.refuse h hd) (hsingle.refuse h hs)

/-- Where the loop is left, the name ends or nothing is yielded. -/
theorem yieldsName_end (h : Ahead text position rest) (ends : Array (Option Nat)) :
    YieldsName text ⟨6, position, ends⟩ (if endsIconName rest then some [] else none) := by
  obtain ⟨last, hyields⟩ := exists_yields_end h (ends.setIfInBounds 3 (some position))
  refine ⟨last, .mark rfl ?_⟩
  convert hyields using 1
  split <;> rfl

/-- In the loop, a longer name is preferred to one that ends here. -/
theorem YieldsName.choose {longer here : Option (List Char)}
    (hlonger : YieldsName text ⟨8, position, ends⟩ longer)
    (hhere : YieldsName text ⟨6, position, ends⟩ here) :
    YieldsName text ⟨7, position, ends⟩ (longer.or here) := by
  obtain ⟨last, hlonger⟩ := hlonger
  obtain ⟨last', hhere⟩ := hhere
  have hfork := Yields.fork (t := ⟨7, position, ends⟩) rfl hlonger hhere
  cases longer with
  | some name => exact ⟨last, hfork⟩
  | none => exact ⟨last', hfork⟩

/-- A character of the line is taken into the name. -/
theorem YieldsName.take {c : Char} {name : Option (List Char)}
    (h : Ahead text position (c :: rest)) (hc : c ≠ '\n')
    (hname : YieldsName text ⟨7, position + 1, ends⟩ name) :
    YieldsName text ⟨8, position, ends⟩ (name.map (c :: ·)) := by
  obtain ⟨last, hname⟩ := hname
  refine ⟨last, .take rfl h.getElem? (mem_lineChar.2 hc) ?_⟩
  convert hname using 1
  rw [Option.map_map]
  congr 1
  funext name
  simp only [Function.comp_apply, List.length_cons]
  rw [Nat.add_right_comm, Nat.add_assoc]

/-- No name goes on at the end of a line. -/
theorem yieldsName_lineEnd (h : Ahead text position rest)
    (hline : ∀ c ∈ rest.head?, c = '\n') : YieldsName text ⟨8, position, ends⟩ none := by
  refine ⟨0, .refuse rfl fun c hc => ?_⟩
  rw [h.getElem?] at hc
  rw [← Bool.not_eq_true, mem_lineChar, not_not]
  exact hline c hc

/-- An end of a name lies on one line. -/
theorem endsIconName_takeWhile (c : Char) (rest : List Char) :
    endsIconName (c :: rest.takeWhile (· != '\n')) = endsIconName (c :: rest) := by
  cases rest with
  | nil => rfl
  | cons d rest =>
    by_cases hd : d = '\n'
    · subst hd
      simp [endsIconName, List.isPrefixOf]
    · simp [endsIconName, List.isPrefixOf, hd]

/-- The loop comes to rest at the last end of the line. -/
theorem yieldsName_loop (h : Ahead text position rest) (ends : Array (Option Nat)) :
    YieldsName text ⟨7, position, ends⟩
      (beforeLast endsIconName (rest.takeWhile (· != '\n'))) := by
  induction rest generalizing position with
  | nil => exact (yieldsName_lineEnd h (by simp)).choose (yieldsName_end h ends)
  | cons c rest ih =>
    have hhere := yieldsName_end h ends
    by_cases hc : c = '\n'
    · subst hc
      exact (yieldsName_lineEnd h (by simp)).choose hhere
    · have hlonger := (ih (h.drop 1)).take h hc
      have hboth := hlonger.choose hhere
      rw [List.takeWhile_cons_of_pos (by simpa using hc), beforeLast_cons,
        endsIconName_takeWhile]
      exact hboth

end

/-! ## The search -/

section

variable {text : Array Char} {rest : List Char}

/-- Behind the opening, the program records the captured text. -/
theorem exists_yields_quoted (h : Ahead text 9 rest) (ends : Array (Option Nat)) :
    ∃ last, Yields iconProgram.steps text [⟨10, 9, ends⟩]
      ((quotedText? rest).map fun name =>
        ((ends.setIfInBounds 2 (some 10)).setIfInBounds 3 (some (10 + name.length))).setIfInBounds 1
          (some last)) := by
  cases rest with
  | nil => exact ⟨0, .refuse rfl (by simp [h.getElem?])⟩
  | cons quote rest =>
    have hmem : openingQuote.mem quote = (quote == '"' || quote == '\x27') := by
      rw [Bool.eq_iff_iff, mem_openingQuote]
      simp
    rw [quotedText?, ← hmem]
    by_cases hquote : openingQuote.mem quote = true
    · obtain ⟨last, hname⟩ := yieldsName_loop (h.drop 1) (ends.setIfInBounds 2 (some 10))
      rw [if_pos hquote]
      exact ⟨last, .take rfl h.getElem? hquote (.mark rfl hname)⟩
    · rw [if_neg hquote]
      refine ⟨0, .refuse rfl fun c hc => ?_⟩
      rw [h.getElem?, List.head?_cons, Option.some.injEq] at hc
      rwa [← hc, ← Bool.not_eq_true]

end

/-- From the start of a text, the program records the captured text and its own end. -/
theorem exists_yields_start (cs : List Char) :
    ∃ last, Yields iconProgram.steps cs.toArray [iconProgram.threadAt 0]
      ((iconText? cs).map fun name => #[some 0, some last, some 10, some (10 + name.length)]) := by
  have hahead : Ahead cs.toArray 0 cs := rfl
  have hstart : ∀ {found}, Yields iconProgram.steps cs.toArray
      [⟨19, 0, #[some 0, none, none, none]⟩] found →
      Yields iconProgram.steps cs.toArray [iconProgram.threadAt 0] found :=
    fun h => .mark rfl (.hold rfl rfl h)
  by_cases hopening : iconOpening <+: cs
  · obtain ⟨rest, rfl⟩ := hopening
    obtain ⟨last, hquoted⟩ := exists_yields_quoted (hahead.drop 9) #[some 0, none, none, none]
    refine ⟨last, hstart ?_⟩
    rw [iconText?, if_pos (by simp)]
    exact spells_iconProgram.take hahead hquoted
  · refine ⟨0, hstart ?_⟩
    rw [iconText?, if_neg (by simpa using hopening)]
    exact spells_iconProgram.refuse hahead hopening

/-- The pattern matches at the start of a text only. -/
theorem yields_later {text : Array Char} {start : Nat} (h : 0 < start) :
    Yields iconProgram.steps text [iconProgram.threadAt start] none := by
  have hfails : Condition.textStart.holds text start = false := by
    simp [Condition.holds, Nat.ne_of_gt h]
  exact .mark rfl (.deny rfl hfails)

/-- What the pattern captures in a value. -/
theorem captures?_iconPattern {p : Pattern} (h : Pattern.compile? iconPattern = some p)
    (hp : p.program = iconProgram) (value : String) :
    (p.captures? value).bind (·[1]?.getD none) =
      (iconText? value.toList).map String.ofList := by
  obtain ⟨last, hstart⟩ := exists_yields_start value.toList
  have hwellFormed : iconProgram.WellFormed := hp ▸ Pattern.wellFormed_of_compile? h
  have hsearch := search_eq_of_anchored hwellFormed progresses_iconProgram hstart
    fun start hpos => yields_later hpos
  rw [Pattern.captures?_eq, hp, hsearch]
  cases htext : iconText? value.toList with
  | none => rfl
  | some name =>
    obtain ⟨behind, hname⟩ := (iconText?_eq_some_iff.1 htext).prefix_drop
    have hgroup :
        Pattern.groupText? value #[some 0, some last, some 10, some (10 + name.length)] 1 =
          some (String.ofList name) := by
      simp [Pattern.groupText?, ← hname]
    simp [← hgroup]

/-- The name of an icon is what the pattern captures in a value that starts with the accessor,
unless it captures the empty text.  It is the text behind the opening and a quote, up to the last
end on the line. -/
theorem icon?_characterized :
    ∃ p, Pattern.compile? iconPattern = some p ∧ ∀ value : String,
      icon? value = (if "$getIcon".toList <+: value.toList then
        ((p.captures? value).bind (·[1]?.getD none)).filter (!·.isEmpty) else none) ∧
      ∀ name, icon? value = some name ↔ IsIconText value.toList name.toList ∧ name ≠ "" := by
  obtain ⟨p, hcompile, hp⟩ := exists_compile?_iconPattern
  refine ⟨p, hcompile, fun value => ?_⟩
  have hcaptured := captures?_iconPattern hcompile hp value
  have hempty : (!·.isEmpty) ∘ String.ofList = fun name => !name.isEmpty := by
    funext name
    rw [Function.comp_apply, Bool.not_inj_iff, Bool.eq_iff_iff, List.isEmpty_iff,
      String.isEmpty_iff, ← String.toList_eq_nil_iff, String.toList_ofList]
  have hicon : icon? value =
      ((p.captures? value).bind (·[1]?.getD none)).filter (!·.isEmpty) := by
    rw [hcaptured, icon?_eq, Option.filter_map, hempty]
  constructor
  · split
    · exact hicon
    · rename_i haccessor
      have hbegins : "$getIcon".toList <+: iconOpening := by decide
      have hopening : ¬ iconOpening <+: value.toList := fun h => haccessor (hbegins.trans h)
      rw [icon?_eq, iconText?, if_neg (by simpa using hopening)]
      rfl
  · intro name
    rw [hicon, hcaptured, Option.filter_eq_some_iff, Option.map_eq_some_iff]
    simp only [iconText?_eq_some_iff]
    constructor
    · rintro ⟨⟨text, htext, rfl⟩, hname⟩
      exact ⟨by rwa [String.toList_ofList], by simpa using hname⟩
    · rintro ⟨htext, hname⟩
      exact ⟨⟨_, htext, String.ofList_toList⟩, by simpa using hname⟩

/-- Of two calls in one value, the name goes on to the end of the last one. -/
example : icon? "$getIcon('a') || $getIcon('b')" = some "a') || $getIcon('b" := by
  decide

end TemplateImports.Template
