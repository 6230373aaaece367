import Mathlib.Data.List.Infix
import TemplateImports.Script.Module

/-!
# What readers leave of a text

A reader of a token, a literal or a gap returns the text behind it, which is the end of the text
that was read.  The comments in a gap are kept as ends of the text as well.

Main results:

- Definition `Ensures` says that whatever a reader returns satisfies a condition.
- Theorem `readToken_suffix` says so of tokens, and theorem `Gap.skip_foundIn` of gaps.
- Structure `Cursor.Within` says that a cursor stands in a text; theorem `Cursor.Within.next` goes
  on to the next token.
-/

namespace TemplateImports.Script

/-! ## Conditions on results -/

/-- Whatever a reader returns satisfies a condition. -/
def Ensures {α : Type} (p : α → Prop) (result : Option α) : Prop :=
  ∀ a, result = some a → p a

namespace Ensures

variable {α β : Type} {p : α → Prop} {q : β → Prop} {result other : Option α}

theorem none : Ensures p none := nofun

theorem some {a : α} (h : p a) : Ensures p (some a) := by
  rintro _ ⟨⟩
  exact h

/-- A value that is read first is handed on with what is known of it. -/
theorem bind {f : α → Option β} (h : Ensures p result) (hf : ∀ a, p a → Ensures q (f a)) :
    Ensures q (result.bind f) := by
  intro b hb
  obtain ⟨a, ha, hb⟩ := Option.bind_eq_some_iff.1 hb
  exact hf a (h a ha) b hb

/-- Nothing has to be known of a value that is read first. -/
theorem bind_any {f : α → Option β} (hf : ∀ a, Ensures q (f a)) : Ensures q (result.bind f) :=
  bind (p := fun _ => True) (fun _ _ => trivial) fun a _ => hf a

/-- What is computed from a value satisfies a condition if the value had the one needed. -/
theorem map {f : α → β} (h : Ensures p result) (hf : ∀ a, p a → q (f a)) :
    Ensures q (result.map f) := by
  intro b hb
  obtain ⟨a, ha, rfl⟩ := Option.map_eq_some_iff.1 hb
  exact hf a (h a ha)

/-- Nothing has to be known of a value if all that is computed from it is fine. -/
theorem map_any {f : α → β} (hf : ∀ a, q (f a)) : Ensures q (result.map f) :=
  map (p := fun _ => True) (fun _ _ => trivial) fun a _ => hf a

/-- Both choices are fine. -/
theorem ite {b : Prop} [Decidable b] (h : Ensures p result) (hother : Ensures p other) :
    Ensures p (if b then result else other) := by
  split
  · exact h
  · exact hother

/-- A condition may be weakened. -/
theorem mono {p' : α → Prop} (h : Ensures p result) (hp : ∀ a, p a → p' a) : Ensures p' result :=
  fun a ha => hp a (h a ha)

end Ensures

/-- The text that is returned is an end of another one. -/
abbrev Leaves (cs : List Char) : Option (List Char) → Prop :=
  Ensures (· <:+ cs)

/-- The text that is returned with a value is an end of another one. -/
abbrev LeavesWith {α : Type} (cs : List Char) : Option (α × List Char) → Prop :=
  Ensures fun r => r.2 <:+ cs

/-- What is left of a text is left of a longer one. -/
theorem suffix_cons_of_suffix {rest cs : List Char} (c : Char) (h : rest <:+ cs) :
    rest <:+ c :: cs :=
  h.trans (List.suffix_cons c cs)

/-! ## Escapes and quoted texts -/

/-- Digits of a character code are read off the front of a text. -/
theorem readHex?_leaves (count : Nat) (cs : List Char) : LeavesWith cs (readHex? count cs) :=
  .ite .none (.map_any fun _ => List.drop_suffix _ _)

/-- A code in braces is read off the front of a text, with its closing brace. -/
theorem readCodePoint?_leaves (cs : List Char) : LeavesWith cs (readCodePoint? cs) := by
  unfold readCodePoint?
  split
  · rename_i cs
    split
    · rename_i rest _ hrest
      have hsuffix : rest <:+ cs := by
        have h := List.dropWhile_suffix (l := cs) (· != '\x7d')
        rw [hrest] at h
        exact (List.suffix_cons _ _).trans h
      split
      · exact .ite (.some (suffix_cons_of_suffix _ hsuffix)) .none
      · exact .none
    · exact .none
  · exact readHex?_leaves 4 _

/-- An escape leaves an end of the text. -/
theorem readEscape?_leaves (cs : List Char) :
    Ensures (fun e => e.rest <:+ cs) (readEscape? cs) := by
  unfold readEscape?
  split
  · exact .none
  · exact (readHex?_leaves 2 _).map fun _ h => suffix_cons_of_suffix _ h
  · exact (readCodePoint?_leaves _).map fun _ h => suffix_cons_of_suffix _ h
  · exact .some (suffix_cons_of_suffix _ (List.suffix_cons _ _))
  · exact .ite (.some (List.suffix_cons _ _))
      (.ite (.some (List.drop_suffix _ _)) (.some (List.suffix_cons _ _)))

/-- A string literal leaves what follows its closing quote. -/
theorem readString?_leaves (quote : Char) (n : Nat) (cs : List Char) :
    LeavesWith cs (readString? quote n cs) := by
  induction n generalizing cs with
  | zero => exact .none
  | succ n ih =>
    cases cs with
    | nil => exact .none
    | cons c cs =>
      have hescape := readEscape?_leaves cs
      unfold readString?
      refine .ite (.some (List.suffix_cons c cs)) (.ite ?_ (.ite .none ?_))
      · split
        · exact .none
        · rename_i e he
          exact (ih e.rest).map fun _ h => suffix_cons_of_suffix c (h.trans (hescape e he))
      · exact (ih cs).map fun _ h => suffix_cons_of_suffix c h

/-- A piece of a template literal leaves what follows it. -/
theorem readTemplate?_leaves (n : Nat) (isValid : Bool) (cs : List Char) :
    LeavesWith cs (readTemplate? n isValid cs) := by
  induction n generalizing isValid cs with
  | zero => exact .none
  | succ n ih =>
    cases cs with
    | nil => exact .none
    | cons c cs =>
      have hescape := readEscape?_leaves cs
      have hcons {result : Option (TemplatePiece × List Char)} (h : LeavesWith cs result) :
          LeavesWith (c :: cs) result := h.mono fun _ h => suffix_cons_of_suffix c h
      unfold readTemplate?
      refine .ite (.some (List.suffix_cons c cs)) (.ite ?_ (.ite ?_ (hcons (ih _ cs))))
      · exact .some (suffix_cons_of_suffix c (List.drop_suffix 1 cs))
      · split
        · rename_i e he
          exact hcons ((ih _ e.rest).mono fun _ h => h.trans (hescape e he))
        · exact hcons (ih _ cs)

/-! ## Regular expressions -/

/-- At least the closing slash of a regular expression is read. -/
theorem skipRegexBody?_leaves (inBrackets isEscaped : Bool) (cs : List Char) :
    Leaves cs.tail (skipRegexBody? inBrackets isEscaped cs) := by
  induction cs generalizing inBrackets isEscaped with
  | nil => exact .none
  | cons c cs ih =>
    have htail (inBrackets isEscaped : Bool) :
        Leaves cs (skipRegexBody? inBrackets isEscaped cs) :=
      (ih inBrackets isEscaped).mono fun _ h => h.trans (List.tail_suffix cs)
    unfold skipRegexBody?
    exact .ite .none (.ite (htail _ _) (.ite (htail _ _) (.ite (htail _ _) (.ite (htail _ _)
      (.ite (.some (List.suffix_refl cs)) (htail _ _))))))

/-- A regular expression leaves what follows its flags. -/
theorem skipRegex?_leaves (cs : List Char) : Leaves cs.tail (skipRegex? cs) := by
  have hbody := skipRegexBody?_leaves false false cs
  unfold skipRegex?
  split
  · exact .none
  · rename_i rest hrest
    exact .ite (.some ((List.dropWhile_suffix _).trans (hbody rest hrest))) .none

/-! ## Numbers -/

/-- Digits are read off the front of a text, with the separators between them. -/
theorem skipDigits?_leaves (isDigit : Char → Bool) (hasDigit : Bool) (cs : List Char) :
    Leaves cs (skipDigits? isDigit hasDigit cs) := by
  induction cs generalizing hasDigit with
  | nil => exact .ite (.some (List.suffix_refl [])) .none
  | cons c cs ih =>
    have hcons (hasDigit : Bool) : Leaves (c :: cs) (skipDigits? isDigit hasDigit cs) :=
      (ih hasDigit).mono fun _ h => suffix_cons_of_suffix c h
    unfold skipDigits?
    exact .ite (hcons _) (.ite (hcons _) (.ite (.some (List.suffix_refl _)) .none))

/-- An exponent leaves an end of the text, and so does its absence. -/
theorem skipExponent?_leaves (cs : List Char) : Leaves cs (skipExponent? cs) := by
  have hdigits (c : Char) (cs : List Char) : Leaves (c :: cs) (skipDigits? Char.isDigit false cs) :=
    (skipDigits?_leaves _ _ cs).mono fun _ h => suffix_cons_of_suffix c h
  unfold skipExponent?
  split
  · exact .some (List.suffix_refl [])
  · refine .ite ?_ (.some (List.suffix_refl _))
    split
    · exact (hdigits _ _).mono fun _ h => suffix_cons_of_suffix _ h
    · exact (hdigits _ _).mono fun _ h => suffix_cons_of_suffix _ h
    · exact hdigits _ _

/-- A fraction leaves an end of the text. -/
theorem skipFraction?_leaves (cs : List Char) : Leaves cs (skipFraction? cs) := by
  unfold skipFraction?
  split
  · rename_i rest
    refine .ite ((skipDigits?_leaves _ _ rest).bind fun digits h => ?_) ?_
    · exact (skipExponent?_leaves digits).mono fun _ h' => suffix_cons_of_suffix _ (h'.trans h)
    · exact (skipExponent?_leaves rest).mono fun _ h => suffix_cons_of_suffix _ h
  · exact skipExponent?_leaves cs

theorem skipBigMark_suffix (cs : List Char) : skipBigMark cs <:+ cs := by
  unfold skipBigMark
  split
  · exact List.suffix_cons _ _
  · exact List.suffix_refl cs

/-- Digits of another base leave an end of the text. -/
theorem skipBased?_leaves (isDigit : Char → Bool) (cs : List Char) :
    Leaves cs (skipBased? isDigit cs) :=
  (skipDigits?_leaves isDigit false cs).map fun rest h => (skipBigMark_suffix rest).trans h

theorem skipZeroDigits?_leaves (cs : List Char) : Leaves cs (skipZeroDigits? cs) := by
  have hrest : cs.dropWhile Char.isDigit <:+ cs := List.dropWhile_suffix _
  exact .ite ((skipFraction?_leaves _).mono fun _ h => h.trans hrest) (.some hrest)

/-- A numeral leaves an end of the text, whatever its form. -/
theorem skipNumeral?_leaves (cs : List Char) : Leaves cs (skipNumeral? cs) := by
  unfold skipNumeral?
  split
  · exact skipFraction?_leaves _
  · rename_i c rest
    have hzero {result : Option (List Char)} (h : Leaves (c :: rest) result) :
        Leaves ('0' :: c :: rest) result := h.mono fun _ h => suffix_cons_of_suffix _ h
    have hbased (isDigit : Char → Bool) : Leaves (c :: rest) (skipBased? isDigit rest) :=
      (skipBased?_leaves isDigit rest).mono fun _ h => suffix_cons_of_suffix c h
    exact .ite (hzero (hbased _)) (.ite (hzero (hbased _)) (.ite (hzero (hbased _))
      (.ite (hzero (.some (List.suffix_cons c rest)))
        (.ite (hzero (skipZeroDigits?_leaves _)) (hzero (skipFraction?_leaves _))))))
  · have hdigits := skipDigits?_leaves Char.isDigit false cs
    split
    · exact .none
    · rename_i rest hrest
      exact .some ((List.suffix_cons _ rest).trans (hdigits _ hrest))
    · rename_i rest _ hrest
      exact (skipFraction?_leaves rest).mono fun _ h => h.trans (hdigits _ hrest)

/-- A number leaves an end of the text. -/
theorem skipNumber?_leaves (cs : List Char) : Leaves cs (skipNumber? cs) := by
  have hnumeral := skipNumeral?_leaves cs
  unfold skipNumber?
  split
  · exact .none
  · exact .some List.nil_suffix
  · rename_i hrest
    exact .ite .none (.some (hnumeral _ hrest))

/-! ## Words and signs -/

/-- A name with escapes leaves what follows it. -/
theorem readEscapedName?_leaves (n : Nat) (isFirst : Bool) (cs : List Char) :
    LeavesWith cs (readEscapedName? n isFirst cs) := by
  induction n generalizing isFirst cs with
  | zero => exact .none
  | succ n ih =>
    cases cs with
    | nil => exact .some (List.suffix_refl [])
    | cons c cs =>
      unfold readEscapedName?
      refine .ite ?_ (.ite ?_ (.ite .none (.some (List.suffix_refl _))))
      · split
        · rename_i cs
          have hcode := readCodePoint?_leaves cs
          split
          · rename_i code rest hrest
            refine .ite ((ih false rest).map fun _ h => ?_) .none
            exact suffix_cons_of_suffix _ (suffix_cons_of_suffix _ (h.trans (hcode _ hrest)))
          · exact .none
        · exact .none
      · exact (ih false cs).map fun _ h => suffix_cons_of_suffix c h

/-- A word leaves what follows it. -/
theorem readWord?_leaves (cs : List Char) : Ensures (fun r => r.2.2 <:+ cs) (readWord? cs) := by
  have hescaped : Ensures (fun r : List Char × Bool × List Char => r.2.2 <:+ cs)
      ((readEscapedName? (cs.length + 1) true cs).map fun r => (r.1, true, r.2)) :=
    (readEscapedName?_leaves _ _ cs).map fun _ h => h
  unfold readWord?
  refine .ite ?_ (.ite hescaped .none)
  split
  · exact hescaped
  · exact .some (List.dropWhile_suffix _)

/-- A sign leaves what follows it. -/
theorem Sign.read?_leaves (cs : List Char) : LeavesWith cs (Sign.read? cs) :=
  .ite (.some (List.drop_suffix 1 cs)) (.map_any fun _ => List.drop_suffix _ cs)

/-! ## Tokens and gaps -/

/-- What is left behind a token is an end of the text. -/
theorem readToken_suffix (cs : List Char) : (readToken cs).2 <:+ cs := by
  have horInvalid {result : Option (Token × List Char)} (h : LeavesWith cs result) :
      (orInvalid result).2 <:+ cs := by
    cases result with
    | none => exact List.nil_suffix
    | some r => exact h r rfl
  cases cs with
  | nil => exact List.suffix_refl []
  | cons c rest =>
    have hrest {α : Type} {result : Option (α × List Char)} {f : α × List Char → Token × List Char}
        (h : LeavesWith rest result) (hf : ∀ r, (f r).2 = r.2) :
        LeavesWith (c :: rest) (result.map f) :=
      h.map fun r h => by rw [hf]; exact suffix_cons_of_suffix c h
    simp only [readToken]
    split_ifs
    · exact horInvalid ((readWord?_leaves (c :: rest)).map fun _ h => h)
    · exact horInvalid ((readWord?_leaves rest).map fun _ h => suffix_cons_of_suffix c h)
    · exact horInvalid ((skipNumber?_leaves (c :: rest)).map fun _ h => h)
    · exact horInvalid (hrest (readString?_leaves c _ rest) fun _ => rfl)
    · exact horInvalid (hrest (readTemplate?_leaves _ true rest) fun _ => rfl)
    · exact horInvalid ((Sign.read?_leaves (c :: rest)).map fun _ h => h)

/-- What is known of a gap that was passed over in a text: its end is an end of the text, and each
of its comments was found before or is an end of the text. -/
structure Gap.FoundIn (comments : List (List Char)) (cs : List Char) (gap : Gap) : Prop where
  rest : gap.rest <:+ cs
  comments : ∀ t ∈ gap.comments, t ∈ comments ∨ t <:+ cs

/-- What was found in an end of a text was found in the text. -/
theorem Gap.FoundIn.mono {found comments : List (List Char)} {cs cs' : List Char} {gap : Gap}
    (h : gap.FoundIn found cs) (hcs : cs <:+ cs')
    (hfound : ∀ t ∈ found, t ∈ comments ∨ t <:+ cs') : gap.FoundIn comments cs' where
  rest := h.rest.trans hcs
  comments t ht := (h.comments t ht).elim (hfound t) fun ht => .inr (ht.trans hcs)

/-- A gap is found in the text that is passed over. -/
theorem Gap.skip_foundIn (hasLineEnd : Bool) (comments : List (List Char)) (place : GapPlace)
    (cs : List Char) :
    Ensures (Gap.FoundIn comments cs) (Gap.skip hasLineEnd comments place cs) := by
  have hstep {comments : List (List Char)} {result : Option Gap} (front cs : List Char)
      (h : Ensures (FoundIn comments cs) result) :
      Ensures (FoundIn comments (front ++ cs)) result :=
    h.mono fun _ hgap => hgap.mono (List.suffix_append front cs) fun _ ht => .inl ht
  -- A comment starts in front of its sign, which is passed over with the text behind it.
  have hcomment {comments : List (List Char)} {result : Option Gap} (c d : Char) (cs : List Char)
      (h : Ensures (FoundIn ((c :: d :: cs) :: comments) cs) result) :
      Ensures (FoundIn comments (c :: d :: cs)) result := by
    refine h.mono fun _ hgap => hgap.mono (List.suffix_append [c, d] cs) fun t ht => ?_
    rcases List.mem_cons.1 ht with rfl | ht
    · exact .inr (List.suffix_refl _)
    · exact .inl ht
  have hend {comments : List (List Char)} (hasLineEnd : Bool) (cs : List Char) :
      Ensures (FoundIn comments cs) (some ⟨cs, hasLineEnd, comments⟩) :=
    .some ⟨List.suffix_refl cs, fun _ ht => .inl ht⟩
  fun_induction Gap.skip hasLineEnd comments place cs with
  | case1 => exact .none
  | case2 hasLineEnd comments cs ih => exact hstep ['*', '/'] cs ih
  | case3 hasLineEnd comments c cs _ ih => exact hstep [c] cs ih
  | case4 => exact hend _ _
  | case5 hasLineEnd comments c cs _ ih => exact hstep [c] cs ih
  | case6 hasLineEnd comments c cs _ ih => exact hstep [c] cs ih
  | case7 => exact hend _ _
  | case8 hasLineEnd comments cs ih => exact hcomment '/' '/' cs ih
  | case9 hasLineEnd comments cs ih => exact hcomment '/' '*' cs ih
  | case10 hasLineEnd comments c cs _ _ _ ih => exact hstep [c] cs ih
  | case11 hasLineEnd comments c cs _ _ _ _ ih => exact hstep [c] cs ih
  | case12 => exact hend _ _

/-! ## Cursors -/

/-- A cursor stands in a text: what is behind it is an end of the text, and so are the comments. -/
structure Cursor.Within (source : List Char) (c : Cursor) : Prop where
  rest : c.rest <:+ source
  comments : ∀ t ∈ c.comments, t <:+ source

namespace Cursor

variable {source : List Char} {c : Cursor}

/-- The cursor that is returned stands in a text. -/
abbrev Stays (source : List Char) : Option Cursor → Prop :=
  Ensures (Within source)

/-- The cursor that is returned with a value stands in a text. -/
abbrev StaysWith {α : Type} (source : List Char) : Option (α × Cursor) → Prop :=
  Ensures fun r => r.2.Within source

/-- A cursor that enters an end of a text stands in the text. -/
theorem within_enter {comments : List (List Char)} (pending : Nat) {cs : List Char}
    (hcs : cs <:+ source) (hcomments : ∀ t ∈ comments, t <:+ source) :
    (enter comments pending cs).Within source := by
  have hskip := Gap.skip_foundIn false comments .between cs
  unfold enter
  split
  · exact ⟨List.nil_suffix, hcomments⟩
  · rename_i gap hgap
    obtain ⟨hrest, hfound⟩ := hskip gap hgap
    exact ⟨(readToken_suffix gap.rest).trans (hrest.trans hcs),
      fun t ht => (hfound t ht).elim (hcomments t) fun ht => ht.trans hcs⟩

/-- The first cursor stands in the text. -/
theorem within_start (source : List Char) : (start source).Within source := by
  have hfirst (cs : List Char) : (start.first cs).Within cs := by
    unfold start.first
    split
    · rename_i cs
      exact within_enter 0 ((List.dropWhile_suffix _).trans (List.suffix_append ['#', '!'] cs))
        (by simp)
    · exact within_enter 0 (List.suffix_refl cs) (by simp)
  unfold start
  split
  · rename_i cs
    obtain ⟨hrest, hcomments⟩ := hfirst cs
    exact ⟨suffix_cons_of_suffix _ hrest, fun t ht => suffix_cons_of_suffix _ (hcomments t ht)⟩
  · exact hfirst _

namespace Within

/-- The cursor stays in the text as it goes on by one token. -/
theorem next (h : c.Within source) : c.next.Within source :=
  within_enter c.pending h.rest h.comments

/-- The cursor may go on to any end of what it has before it. -/
theorem behind (h : c.Within source) {rest : List Char} (hrest : rest <:+ c.rest) :
    (c.behind rest).Within source :=
  within_enter c.pending (hrest.trans h.rest) h.comments

/-- Marks that are taken back do not move the cursor. -/
theorem settle (h : c.Within source) (count : Nat) : (c.settle count).Within source :=
  ⟨h.rest, h.comments⟩

theorem skipSign (h : c.Within source) (s : Sign) : (c.skipSign s).Within source := by
  unfold Cursor.skipSign
  split
  · exact h.next
  · exact h

/-- The cursor stays in the text behind a sign that has to stand there. -/
theorem take? (h : c.Within source) (s : Sign) : Stays source (c.take? s) :=
  .ite (.some h.next) .none

/-- The cursor stays in the text behind a word that has to stand there. -/
theorem takeWord? (h : c.Within source) (k : Keyword) : Stays source (c.takeWord? k) :=
  .ite (.some h.next) .none

/-- The end of a statement leaves the cursor in the text, also where it is left out. -/
theorem endStatement? (h : c.Within source) : Stays source c.endStatement? :=
  .ite (.some h.next) (.ite (.some h) .none)

/-- The cursor stays in the text behind a regular expression. -/
theorem skipRegex? (h : c.Within source) : Stays source c.skipRegex? := by
  have hslash := (skipRegex?_leaves c.rest).mono fun _ h => h.trans (List.tail_suffix c.rest)
  exact .ite (hslash.map fun _ hrest => h.behind hrest)
    (.ite ((skipRegex?_leaves ('=' :: c.rest)).map fun _ hrest => h.behind hrest) .none)

/-- The cursor stays in the text behind a piece of a template literal. -/
theorem continueTemplate? (h : c.Within source) : Stays source c.continueTemplate? :=
  .ite ((readTemplate?_leaves _ true c.rest).map fun _ hrest =>
    ⟨hrest.trans h.rest, h.comments⟩) .none

end Within

end Cursor

end TemplateImports.Script
