import TemplateImports.Proofs.Casing.Inverse
import TemplateImports.Proofs.Text.Pieces

/-!
# Names made of segments

A kebab-case name consists of segments with dashes between them.  Camel case takes each dash away and
puts the segment behind it in upper case, which is where kebab case puts the dash back.  So the two
conversions undo each other, in both directions and for Pascal case too.

The segments behind the first one are converted one after the other: each of them starts behind a
word character, the last one of the segment before.

Main results:

- Theorem `camelizeChars_joinWith` says what camel case makes of segments, and theorem
  `hyphenateAfter_capitalized` what kebab case makes of that.
- Theorem `IsKebabName.hyphenate_camelize` recovers a kebab-case name from its camel-case spelling.
- Theorem `conversions_recover_names` puts together which conversions undo which.
-/

namespace TemplateImports.Casing

open Text

/-! ## Segments -/

/-- A character of a segment behind its first one. -/
def isSegmentChar (c : Char) : Bool :=
  c.isLower || c.isDigit || c == '_'

/-- A small letter, and then small letters, digits and underscores. -/
def IsSegment (cs : List Char) : Prop :=
  ∃ c ds, cs = c :: ds ∧ c.isLower = true ∧ ∀ d ∈ ds, isSegmentChar d = true

/-- A name whose parts between dashes are segments. -/
def IsKebabName (name : String) : Prop :=
  ∀ segment ∈ splitOn '-' name.toList, IsSegment segment

/-- The characters of segments are word characters, and no capitals. -/
theorem word_of_isSegmentChar {c : Char} (h : isSegmentChar c = true) :
    isAsciiWord c = true ∧ c.isUpper = false := by
  have hword : isAsciiWord c = true := by
    simp only [isSegmentChar, Bool.or_eq_true] at h
    rcases h with (h | h) | h <;> simp [isAsciiWord, Char.isAlphanum, Char.isAlpha, h]
  have hall := forall_ascii (p := fun c => !isSegmentChar c || !c.isUpper) (by decide +kernel)
    (toNat_lt_of_isAsciiWord hword)
  exact ⟨hword, by simpa [h] using hall⟩

theorem isSegmentChar_of_isLower {c : Char} (h : c.isLower = true) : isSegmentChar c = true := by
  simp [isSegmentChar, h]

theorem IsSegment.forall_isSegmentChar {cs : List Char} (h : IsSegment cs) :
    ∀ c ∈ cs, isSegmentChar c = true := by
  obtain ⟨c, ds, rfl, hc, hds⟩ := h
  exact List.forall_mem_cons.2 ⟨isSegmentChar_of_isLower hc, hds⟩

theorem IsSegment.no_dash {cs : List Char} (h : IsSegment cs) : '-' ∉ cs :=
  no_dash_of_mem_isAsciiWord fun c hc => (word_of_isSegmentChar (h.forall_isSegmentChar c hc)).1

/-! ## Segments one after the other -/

/-- Behind a word character, kebab case leaves the characters of a segment as they are. -/
theorem hyphenateAfter_append {cs : List Char} (h : ∀ c ∈ cs, isSegmentChar c = true)
    (rest : List Char) :
    hyphenateAfter true (cs ++ rest) = cs ++ hyphenateAfter true rest := by
  induction cs with
  | nil => rfl
  | cons c cs ih =>
    obtain ⟨hword, hupper⟩ := word_of_isSegmentChar (h c (by simp))
    rw [List.cons_append, hyphenateAfter, hword, ih fun d hd => h d (List.mem_cons_of_mem _ hd),
      lower_of_isAsciiWord hword, toLower_of_not_isUpper hupper]
    simp [hupper]

/-- A small letter that was put in upper case is recovered by kebab case. -/
theorem lower_upper_of_isLower {c : Char} (h : c.isLower = true) :
    ∃ d, upper c = [d] ∧ d.isUpper = true ∧ isAsciiWord d = true ∧ lower d = [c] := by
  have hascii := toNat_lt_of_isAsciiWord (word_of_isSegmentChar (isSegmentChar_of_isLower h)).1
  have hall := forall_ascii
    (p := fun c => !c.isLower ||
      (c.toUpper.isUpper && isAsciiWord c.toUpper && c.toUpper.toLower == c))
    (by decide +kernel) hascii
  simp only [h, Bool.not_true, Bool.false_or, Bool.and_eq_true, beq_iff_eq] at hall
  obtain ⟨⟨hupper, hword⟩, hback⟩ := hall
  exact ⟨c.toUpper, upper_of_ascii hascii, hupper, hword, by
    rw [lower_of_isAsciiWord hword, hback]⟩

/-- A segment that was put in upper case gets its dash back. -/
theorem hyphenateAfter_capitalizeChars {segment : List Char} (h : IsSegment segment)
    (rest : List Char) :
    hyphenateAfter true (capitalizeChars segment ++ rest) =
      '-' :: segment ++ hyphenateAfter true rest := by
  obtain ⟨c, ds, rfl, hc, hds⟩ := h
  obtain ⟨d, hd, hupper, hword, hback⟩ := lower_upper_of_isLower hc
  simp [capitalizeChars, hd, hyphenateAfter, hupper, hword, hback, hyphenateAfter_append hds]

/-- Segments that were put in upper case get their dashes back. -/
theorem hyphenateAfter_capitalized {segments : List (List Char)}
    (h : ∀ segment ∈ segments, IsSegment segment) :
    hyphenateAfter true (segments.flatMap capitalizeChars) = segments.flatMap (['-'] ++ ·) := by
  induction segments with
  | nil => rfl
  | cons segment segments ih =>
    rw [List.flatMap_cons, hyphenateAfter_capitalizeChars (h segment (by simp)),
      ih fun s hs => h s (List.mem_cons_of_mem _ hs)]
    rfl

/-- Camel case puts a segment behind a dash in upper case. -/
theorem camelizeChars_dash_append {segment : List Char} (h : IsSegment segment)
    (rest : List Char) :
    camelizeChars ('-' :: (segment ++ rest)) = capitalizeChars segment ++ camelizeChars rest := by
  have hdash := h.no_dash
  obtain ⟨c, ds, rfl, hc, -⟩ := h
  have hword := (word_of_isSegmentChar (isSegmentChar_of_isLower hc)).1
  rw [List.cons_append, camelizeChars, if_pos hword,
    camelizeChars_append_of_no_dash (fun hds => hdash (List.mem_cons_of_mem _ hds)),
    capitalizeChars, List.append_assoc]

/-- Camel case puts the segments behind the first one in upper case, without the dashes. -/
theorem camelizeChars_joinWith {segment : List Char} {segments : List (List Char)}
    (h : ∀ s ∈ segment :: segments, IsSegment s) :
    camelizeChars (joinWith ['-'] (segment :: segments)) =
      segment ++ segments.flatMap capitalizeChars := by
  have hbehind : camelizeChars (segments.flatMap (['-'] ++ ·)) =
      segments.flatMap capitalizeChars := by
    have hsegments := fun s hs => h s (List.mem_cons_of_mem segment hs)
    clear h
    induction segments with
    | nil => rfl
    | cons s segments ih =>
      rw [List.flatMap_cons, List.flatMap_cons, List.append_assoc, List.singleton_append,
        camelizeChars_dash_append (hsegments s (by simp)),
        ih fun t ht => hsegments t (List.mem_cons_of_mem _ ht)]
  rw [joinWith_cons, camelizeChars_append_of_no_dash (h segment (by simp)).no_dash, hbehind]

/-! ## Kebab-case names -/

/-- Kebab case does not look at the case of a small first letter. -/
theorem hyphenateAfter_capitalizeChars_start {c : Char} (h : c.isLower = true) (cs : List Char) :
    hyphenateAfter false (capitalizeChars (c :: cs)) = c :: hyphenateAfter true cs := by
  obtain ⟨d, hd, -, hword, hback⟩ := lower_upper_of_isLower h
  simp [capitalizeChars, hd, hyphenateAfter, hword, hback]

theorem hyphenateAfter_start {c : Char} (h : c.isLower = true) (cs : List Char) :
    hyphenateAfter false (c :: cs) = c :: hyphenateAfter true cs := by
  obtain ⟨hword, hupper⟩ := word_of_isSegmentChar (isSegmentChar_of_isLower h)
  simp [hyphenateAfter, hword, lower_of_isAsciiWord hword, toLower_of_not_isUpper hupper]

namespace IsKebabName

variable {name : String}

/-- The first segment of a kebab-case name, by its first letter, and the others. -/
theorem exists_segments (h : IsKebabName name) :
    ∃ c cs segments, name.toList = joinWith ['-'] ((c :: cs) :: segments) ∧
      c.isLower = true ∧ ∀ s ∈ (c :: cs) :: segments, IsSegment s := by
  obtain ⟨segment, segments, hsplit⟩ := List.exists_cons_of_ne_nil (splitOn_ne_nil '-' name.toList)
  have hall : ∀ s ∈ segment :: segments, IsSegment s := hsplit ▸ h
  obtain ⟨c, cs, rfl, hc, -⟩ := id (hall segment (by simp))
  exact ⟨c, cs, segments, by rw [← hsplit, joinWith_splitOn], hc, hall⟩

/-- A kebab-case name is recovered from its camel-case spelling and from its Pascal-case spelling. -/
theorem hyphenate_camelize (h : IsKebabName name) :
    hyphenate (camelize name) = name ∧ hyphenate (pascalize name) = name := by
  obtain ⟨c, cs, segments, hname, hc, hall⟩ := h.exists_segments
  have hcs : ∀ d ∈ cs, isSegmentChar d = true := fun d hd =>
    (hall (c :: cs) (by simp)).forall_isSegmentChar d (List.mem_cons_of_mem _ hd)
  have hcamel : camelizeChars name.toList = c :: (cs ++ segments.flatMap capitalizeChars) := by
    rw [hname, camelizeChars_joinWith hall, List.cons_append]
  have hback : c :: hyphenateAfter true (cs ++ segments.flatMap capitalizeChars) =
      name.toList := by
    rw [hyphenateAfter_append hcs,
      hyphenateAfter_capitalized fun s hs => hall s (List.mem_cons_of_mem _ hs), hname,
      joinWith_cons, List.cons_append]
  constructor
  · rw [← String.toList_inj, toList_hyphenate, toList_camelize, hcamel, hyphenateAfter_start hc,
      hback]
  · rw [← String.toList_inj, toList_hyphenate, pascalize, toList_capitalize, toList_camelize,
      hcamel, hyphenateAfter_capitalizeChars_start hc, hback]

end IsKebabName

/-- Kebab case undoes Pascal case and camel case on every kebab-case name; Pascal case undoes kebab
case on every Pascal-case name, which is its own Pascal-case spelling; camel case undoes kebab case
on every camel-case name; and the kebab-case spelling of an ASCII text stays as it is. -/
theorem conversions_recover_names :
    (∀ k, IsKebabName k → hyphenate (pascalize k) = k ∧ hyphenate (camelize k) = k) ∧
      (∀ p, IsPascalName p → pascalize (hyphenate p) = p ∧ pascalize p = p) ∧
      (∀ c, IsCamelName c → camelize (hyphenate c) = c) ∧
      ∀ text : String, (∀ d ∈ text.toList, d.toNat < 128) →
        hyphenate (hyphenate text) = hyphenate text :=
  ⟨fun _ h => h.hyphenate_camelize.symm, fun _ h => ⟨h.pascalize_hyphenate, h.pascalize_eq⟩,
    fun _ h => h.camelize_hyphenate, fun _ h => hyphenate_hyphenate h⟩

/-- Names with segments of one letter, runs of capitals, digits and underscores. -/
theorem conversions_recover_names_runs :
    (hyphenate (pascalize "a-b_1-c") = "a-b_1-c" ∧ hyphenate (camelize "a-b_1-c") = "a-b_1-c") ∧
      (pascalize (hyphenate "VBTn_2X") = "VBTn_2X" ∧ pascalize "VBTn_2X" = "VBTn_2X") ∧
      camelize (hyphenate "aB_CD9") = "aB_CD9" ∧
      hyphenate (hyphenate "-A b--C") = hyphenate "-A b--C" := by
  obtain ⟨hkebab, hpascal, hcamel, hascii⟩ := conversions_recover_names
  have hletters : IsKebabName "a-b_1-c" := by
    have hsplit : splitOn '-' "a-b_1-c".toList = [['a'], ['b', '_', '1'], ['c']] := rfl
    rw [IsKebabName, hsplit]
    simp only [List.forall_mem_cons, List.not_mem_nil, false_imp_iff, implies_true, and_true]
    exact ⟨⟨'a', [], rfl, rfl, List.all_eq_true.1 rfl⟩,
      ⟨'b', ['_', '1'], rfl, rfl, List.all_eq_true.1 rfl⟩,
      ⟨'c', [], rfl, rfl, List.all_eq_true.1 rfl⟩⟩
  have hruns : IsPascalName "VBTn_2X" :=
    ⟨'V', "BTn_2X".toList, rfl, rfl, List.all_eq_true.1 (by decide)⟩
  have hunderscore : IsCamelName "aB_CD9" :=
    ⟨'a', "B_CD9".toList, rfl, rfl, List.all_eq_true.1 (by decide)⟩
  exact ⟨hkebab _ hletters, hpascal _ hruns, hcamel _ hunderscore, hascii _ (by simp)⟩

end TemplateImports.Casing
