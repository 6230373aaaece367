import TemplateImports.Proofs.Text.Occurrence
import TemplateImports.Proofs.Text.Run
import TemplateImports.Proofs.Workspace.Descent
import TemplateImports.Template.Directive

/-!
# The grammar of directives

The name of an attribute is cut into a base and a tail: the tail starts at the first dot behind the
last closing bracket and holds the modifiers.  A directive is read off the base, which is the mark
`v-`, the name of the directive and, behind a colon, its argument.  Nothing of the attribute's name
is lost.

Main results:

- Definition `IsCut` says what the base and the tail are; theorem `IsCut.unique` says that there is
  one way to cut only.
- Structure `IsLeft` lists the conditions on a directive.
- Theorem `parse_grammar` says that just the attributes that meet them are directives, and what
  their parts are.
-/

namespace TemplateImports.Template.Directive

open Text

/-! ## The base of a name -/

/-- A name is cut in front of the first dot behind its last closing bracket, or at its end. -/
def IsCut (raw base tail : List Char) : Prop :=
  raw = base ++ tail ∧ (tail = [] ∨ tail.head? = some '.') ∧
    ∃ bracketed plain, base = bracketed ++ plain ∧
      (bracketed = [] ∨ bracketed.getLast? = some ']') ∧ ']' ∉ plain ++ tail ∧ '.' ∉ plain

/-- The modifiers in a tail: what stands between its dots, without the empty pieces. -/
def modifiersIn (tail : List Char) : List (List Char) :=
  (splitOn '.' tail).filter (!·.isEmpty)

theorem stops_ne_of_head? {c : Char} {rest : List Char} (h : rest = [] ∨ rest.head? = some c) :
    Stops (· != c) rest := by
  rcases h with rfl | h
  · exact stops_nil _
  · simp [Stops, h]

/-- The dot in front of the modifiers adds an empty piece only. -/
theorem modifiersIn_dot (rest : List Char) : modifiersIn ('.' :: rest) = modifiersIn rest := by
  simp [modifiersIn, splitOn]

theorem ne_of_not_mem {c : Char} {cs : List Char} (h : c ∉ cs) : ∀ d ∈ cs, (d != c) = true := by
  intro d hd
  rw [bne_iff_ne]
  rintro rfl
  exact h hd

/-- The modifiers are split off where the name is cut. -/
theorem splitModifiers_of_isCut {raw base tail : List Char} (h : IsCut raw base tail) :
    splitModifiers raw = (base, modifiersIn tail) := by
  obtain ⟨rfl, htail, bracketed, plain, rfl, hlast, hbracket, hdot⟩ := h
  have hstop : Stops (· != ']') bracketed.reverse := by
    apply stops_ne_of_head?
    rw [List.head?_reverse, List.reverse_eq_nil_iff]
    exact hlast
  have hbehind : ((bracketed ++ plain ++ tail).reverse.takeWhile (· != ']')).reverse =
      plain ++ tail := by
    rw [List.append_assoc, List.reverse_append,
      takeWhile_append_stop (ne_of_not_mem (mt List.mem_reverse.1 hbracket)) hstop,
      List.reverse_reverse]
  have hfront : (bracketed ++ plain ++ tail).take
      ((bracketed ++ plain ++ tail).length - (plain ++ tail).length) = bracketed := by
    rw [List.append_assoc]
    simp
  have hplain := ne_of_not_mem hdot
  have hdots := stops_ne_of_head? htail
  rw [splitModifiers]
  simp only [hbehind, hfront, takeWhile_append_stop hplain hdots,
    dropWhile_append_stop hplain hdots]
  rcases tail with - | ⟨c, rest⟩
  · simp [modifiersIn, splitOn]
  · obtain rfl : c = '.' := by simpa using htail
    rw [modifiersIn_dot]
    rfl

/-- A name is cut in one way only. -/
theorem IsCut.unique {raw base tail base' tail' : List Char} (h : IsCut raw base tail)
    (h' : IsCut raw base' tail') : base' = base ∧ tail' = tail := by
  have hbase : base' = base := by
    have hboth := (splitModifiers_of_isCut h').symm.trans (splitModifiers_of_isCut h)
    exact congrArg Prod.fst hboth
  subst hbase
  exact ⟨rfl, List.append_cancel_left (h'.1.symm.trans h.1)⟩

/-- A text ends at the last place of a character, or does not have the character. -/
theorem exists_cut_behind_last (c : Char) (cs : List Char) :
    ∃ front behind, cs = front ++ behind ∧ (front = [] ∨ front.getLast? = some c) ∧ c ∉ behind := by
  by_cases h : c ∈ cs
  · obtain ⟨behind, front, hcs, hbehind⟩ := List.eq_append_cons_of_mem (List.mem_reverse.2 h)
    refine ⟨front.reverse ++ [c], behind.reverse, ?_, Or.inr (by simp), by simpa using hbehind⟩
    rw [List.reverse_eq_iff] at hcs
    simpa using hcs
  · exact ⟨[], cs, rfl, Or.inl rfl, h⟩

/-- A text starts at the first place of a character, or does not have the character. -/
theorem exists_cut_before_first (c : Char) (cs : List Char) :
    ∃ front behind, cs = front ++ behind ∧ c ∉ front ∧ (behind = [] ∨ behind.head? = some c) := by
  by_cases h : c ∈ cs
  · obtain ⟨front, behind, hcs, hfront⟩ := List.eq_append_cons_of_mem h
    exact ⟨front, c :: behind, hcs, hfront, Or.inr rfl⟩
  · exact ⟨cs, [], by simp, h, Or.inl rfl⟩

/-- Every name can be cut. -/
theorem exists_isCut (raw : List Char) : ∃ base tail, IsCut raw base tail := by
  obtain ⟨bracketed, behind, rfl, hlast, hbehind⟩ := exists_cut_behind_last ']' raw
  obtain ⟨plain, tail, rfl, hplain, htail⟩ := exists_cut_before_first '.' behind
  exact ⟨bracketed ++ plain, tail, by simp, htail, bracketed, plain, rfl, hlast, hbehind, hplain⟩

section

variable {raw base tail : List Char}

/-- A beginning without dots stays in the base. -/
theorem IsCut.prefix_base (h : IsCut raw base tail) {part : List Char} (hdot : '.' ∉ part)
    (hpart : part <+: raw) : part <+: base := by
  obtain ⟨rfl, rfl | htail, -⟩ := h
  · simpa using hpart
  · obtain ⟨rest, rfl⟩ := List.head?_eq_some_iff.1 htail
    exact prefix_of_prefix_append_cons hdot _ _ hpart

theorem IsCut.base_isPrefix (h : IsCut raw base tail) : base <+: raw :=
  ⟨tail, h.1.symm⟩

/-- Only brackets put dots into the base. -/
theorem IsCut.bracket_mem (h : IsCut raw base tail) (hdot : '.' ∈ base) : ']' ∈ raw := by
  obtain ⟨rfl, -, bracketed, plain, rfl, rfl | hlast, -, hplain⟩ := h
  · exact absurd hdot hplain
  · have hmem : ']' ∈ bracketed := List.mem_of_getLast? hlast
    simp [hmem]

end

/-! ## The conditions on a directive -/

/-- The attribute of a name and a base is left to the directives: it has their mark, and it is no
attribute of control flow, no slot, no binding and no listener. -/
structure IsLeft (raw : String) (base : List Char) : Prop where
  marked : "v-".toList <+: raw.toList
  not_reserved : raw ∉ ["v-pre", "v-for", "v-if", "v-else-if", "v-else", "v-once", "v-slot"]
  not_slot : ¬ "v-slot:".toList <+: raw.toList
  not_binding : ¬ "v-bind:".toList <+: base
  not_listener : ¬ "v-on:".toList <+: base

theorem startsWithAny_iff {beginnings : List String} {cs : List Char} :
    startsWithAny beginnings cs = true ↔ ∃ b ∈ beginnings, b.toList <+: cs := by
  simp [startsWithAny]

theorem isStructural_iff {raw : String} :
    isStructural raw.toList = true ↔
      raw ∈ ["v-pre", "v-for", "v-if", "v-else-if", "v-else", "v-once", "v-slot"] ∨
        "v-slot:".toList <+: raw.toList ∨ "#".toList <+: raw.toList := by
  have hslot : raw.toList = "v-slot".toList ↔ raw = "v-slot" := String.toList_inj
  simp only [isStructural, Bool.or_eq_true, beq_iff_eq, hslot, startsWithAny_iff]
  simp [structuralNames, or_assoc]

/-- Two beginnings of a text start with the same character. -/
theorem head?_eq_of_beginnings {first second cs : List Char} (hfirst : first <+: cs)
    (hsecond : second <+: cs) (hne : first ≠ []) (hne' : second ≠ []) :
    first.head? = second.head? := by
  obtain ⟨_, rfl⟩ := hfirst
  obtain ⟨_, hcs⟩ := hsecond
  cases first <;> cases second <;> simp_all

section

variable {raw : String} {base tail : List Char}

/-- An attribute with another mark than `v-` is a slot, a binding or a listener. -/
theorem marked_of_checks (h : IsCut raw.toList base tail) (hmarked : isMarked raw.toList = true)
    (hstructural : isStructural raw.toList = false)
    (hbinding : isBindingOrListener base = false) : "v-".toList <+: raw.toList := by
  rw [← Bool.not_eq_true] at hstructural hbinding
  obtain ⟨mark, hmark, hraw⟩ := startsWithAny_iff.1 hmarked
  simp only [List.mem_cons, List.not_mem_nil, or_false] at hmark
  rcases hmark with rfl | rfl | rfl | rfl
  · exact hraw
  · exact absurd (startsWithAny_iff.2 ⟨"@", by simp, h.prefix_base (by decide) hraw⟩) hbinding
  · exact absurd (startsWithAny_iff.2 ⟨":", by simp, h.prefix_base (by decide) hraw⟩) hbinding
  · exact absurd (isStructural_iff.2 (Or.inr (Or.inr hraw))) hstructural

/-- The three checks of a name leave just these attributes. -/
theorem checks_iff (h : IsCut raw.toList base tail) :
    (isMarked raw.toList = true ∧ isStructural raw.toList = false ∧
      isBindingOrListener base = false) ↔ IsLeft raw base := by
  constructor
  · rintro ⟨hmarked, hstructural, hbinding⟩
    have hv := marked_of_checks h hmarked hstructural hbinding
    rw [← Bool.not_eq_true, isStructural_iff] at hstructural
    rw [← Bool.not_eq_true, isBindingOrListener, startsWithAny_iff] at hbinding
    refine ⟨hv, fun hmem => hstructural (Or.inl hmem),
      fun hslot => hstructural (Or.inr (Or.inl hslot)),
      fun hbind => hbinding ⟨_, ?_, hbind⟩, fun hon => hbinding ⟨_, ?_, hon⟩⟩ <;> simp
  · rintro ⟨hv, hreserved, hslot, hbind, hon⟩
    have hother : ∀ mark : String, mark.toList.head? ≠ some 'v' → mark.toList ≠ [] →
        ¬ mark.toList <+: raw.toList := by
      intro mark hhead hne hmark
      exact hhead (head?_eq_of_beginnings hmark hv hne (by decide))
    refine ⟨startsWithAny_iff.2 ⟨"v-", by simp, hv⟩, ?_, ?_⟩
    · rw [← Bool.not_eq_true, isStructural_iff]
      rintro (hmem | hmem | hmem)
      · exact hreserved hmem
      · exact hslot hmem
      · exact hother "#" (by decide) (by decide) hmem
    · rw [← Bool.not_eq_true, isBindingOrListener, startsWithAny_iff]
      rintro ⟨mark, hmark, hbase⟩
      have hraw := hbase.trans h.base_isPrefix
      simp only [List.mem_cons, List.not_mem_nil, or_false] at hmark
      rcases hmark with rfl | rfl | rfl | rfl | rfl
      · exact hother ":" (by decide) (by decide) hraw
      · exact hother "." (by decide) (by decide) hraw
      · exact hbind hbase
      · exact hother "@" (by decide) (by decide) hraw
      · exact hon hbase

theorem parse_of_not_isLeft (h : IsCut raw.toList base tail) (hleft : ¬ IsLeft raw base)
    (value : String) : parse raw value = none := by
  rw [← checks_iff h] at hleft
  simp only [parse, splitModifiers_of_isCut h]
  split
  · rfl
  · rename_i hchecks
    rw [if_pos]
    simp_all

theorem parse_of_isLeft {stripped : List Char} (h : IsCut raw.toList ("v-".toList ++ stripped) tail)
    (hleft : IsLeft raw ("v-".toList ++ stripped)) (value : String) :
    parse raw value =
      if (stripped.takeWhile (· != ':')).isEmpty then none
      else some
        { name := String.ofList (stripped.takeWhile (· != ':'))
          rawName := raw
          arg := argument stripped
          modifiers := (modifiersIn tail).map String.ofList
          value } := by
  obtain ⟨hmarked, hstructural, hbinding⟩ := (checks_iff h).2 hleft
  have hmark : dropMark ("v-".toList ++ stripped) = stripped := rfl
  simp only [parse, splitModifiers_of_isCut h, hmarked, hstructural, hbinding, hmark,
    Bool.not_true, Bool.or_self, Bool.false_eq_true, if_false]

end

/-! ## The parts of a directive -/

/-- The text of an argument in a base. -/
def argumentText : Option String → List Char
  | none => []
  | some arg => ':' :: arg.toList

/-- A directive is read off an attribute with the given base and tail. -/
structure IsRead (raw value : String) (base tail : List Char) (d : Directive) : Prop where
  base_eq : base = "v-".toList ++ d.name.toList ++ argumentText d.arg
  not_mem_name : ':' ∉ d.name.toList
  modifiers_eq : d.modifiers.map String.toList = modifiersIn tail
  rawName_eq : d.rawName = raw
  value_eq : d.value = value

theorem argumentText_argument (stripped : List Char) :
    stripped.takeWhile (· != ':') ++ argumentText (argument stripped) = stripped := by
  have hcut := List.takeWhile_append_dropWhile (p := (· != ':')) (l := stripped)
  rw [argument]
  split
  · rename_i hdrop
    simpa [argumentText, hdrop] using hcut
  · rename_i c arg hdrop
    have hcolon : c = ':' := by
      have := List.head?_dropWhile_not (· != ':') stripped
      simpa [hdrop] using this
    subst hcolon
    simpa [argumentText, hdrop] using hcut

theorem isRead_of_parse {raw value : String} {base tail : List Char} {d : Directive}
    (h : IsCut raw.toList base tail) (hd : parse raw value = some d) :
    IsRead raw value base tail d := by
  by_cases hleft : IsLeft raw base
  · obtain ⟨stripped, rfl⟩ := h.prefix_base (by decide) hleft.marked
    rw [parse_of_isLeft h hleft, Option.ite_none_left_eq_some] at hd
    obtain rfl := Option.some.inj hd.2
    refine ⟨by simp [argumentText_argument], ?_, by simp, rfl, rfl⟩
    · intro hmem
      rw [String.toList_ofList] at hmem
      simpa using List.mem_takeWhile_imp hmem
  · rw [parse_of_not_isLeft h hleft] at hd
    exact absurd hd (by simp)

/-- A directive results if something stands between the mark and the first colon of the base. -/
theorem exists_parse_iff {raw value : String} {base tail : List Char}
    (h : IsCut raw.toList base tail) :
    (∃ d, parse raw value = some d) ↔ IsLeft raw base ∧
      ∃ name rest, base = "v-".toList ++ name ++ rest ∧ name ≠ [] ∧ ':' ∉ name ∧
        (rest = [] ∨ rest.head? = some ':') := by
  by_cases hleft : IsLeft raw base
  · obtain ⟨stripped, rfl⟩ := h.prefix_base (by decide) hleft.marked
    rw [parse_of_isLeft h hleft, and_iff_right hleft]
    constructor
    · rintro ⟨d, hd⟩
      refine ⟨stripped.takeWhile (· != ':'), argumentText (argument stripped), ?_, ?_, ?_, ?_⟩
      · rw [List.append_assoc, argumentText_argument]
      · intro hempty
        simp [hempty] at hd
      · intro hmem
        simpa using List.mem_takeWhile_imp hmem
      · cases argument stripped <;> simp [argumentText]
    · rintro ⟨name, rest, hbase, hne, hcolon, hrest⟩
      have hstripped : stripped = name ++ rest :=
        List.append_cancel_left (hbase.trans (List.append_assoc ..))
      have htake : stripped.takeWhile (· != ':') = name := by
        rw [hstripped]
        exact takeWhile_append_stop (ne_of_not_mem hcolon) (stops_ne_of_head? hrest)
      rw [if_neg (by simpa [htake] using hne)]
      exact ⟨_, rfl⟩
  · simp [parse_of_not_isLeft h hleft, hleft]

/-- The name of an attribute decides whether it is a directive: the mark `v-` stands in front, the
name is none of those with another use, and something stands between the mark and the first colon of
the base.  What the directive holds is what is written: mark, name, argument and tail make up the
whole name, and the modifiers are the pieces of the tail that are not empty. -/
theorem parse_grammar (raw value : String) :
    ∃ base tail, IsCut raw.toList base tail ∧
      (∀ base' tail', IsCut raw.toList base' tail' → base' = base ∧ tail' = tail) ∧
      ((∃ d, parse raw value = some d) ↔ IsLeft raw base ∧
        ∃ name rest, base = "v-".toList ++ name ++ rest ∧ name ≠ [] ∧ ':' ∉ name ∧
          (rest = [] ∨ rest.head? = some ':')) ∧
      ∀ d, parse raw value = some d → IsRead raw value base tail d ∧
        raw.toList = "v-".toList ++ d.name.toList ++ argumentText d.arg ++ tail ∧
        ('.' ∈ d.name.toList → ']' ∈ raw.toList) := by
  obtain ⟨base, tail, hcut⟩ := exists_isCut raw.toList
  refine ⟨base, tail, hcut, fun _ _ => hcut.unique, exists_parse_iff hcut, ?_⟩
  intro d hd
  have hread := isRead_of_parse hcut hd
  refine ⟨hread, ?_, ?_⟩
  · rw [← hread.base_eq]
    exact hcut.1
  · intro hdot
    apply hcut.bracket_mem
    rw [hread.base_eq]
    simp [hdot]

end TemplateImports.Template.Directive
