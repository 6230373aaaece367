import TemplateImports.Proofs.Text.Run
import TemplateImports.Script.Module

/-!
# Reading tokens and gaps

The tokens of words, signs and literals, and the comments between tokens, from what is written.

Main results:

- Theorems `readToken_word`, `readToken_sign`, `readToken_string` and `readToken_template` read one
  token.
- Theorems `skip_lineComment` and `skip_blockComment` pass over a comment.
- Theorem `enter_of_isTokenStart` enters a text at its first token.
-/

namespace TemplateImports.Script

open Text (Stops)

/-! ## Words -/

/-- Whether a character goes on with a word, plain or as an escape. -/
def goesOn (c : Char) : Bool :=
  continuesName c || c == '\\'

/-- A word, as it is written without escapes. -/
def IsWord (word : List Char) : Prop :=
  ∃ c cs, word = c :: cs ∧ startsName c = true ∧ ∀ d ∈ cs, continuesName d = true

theorem IsWord.continuesName {word : List Char} (h : IsWord word) :
    ∀ c ∈ word, continuesName c = true := by
  obtain ⟨c, cs, rfl, hc, hcs⟩ := h
  intro d hd
  rcases List.mem_cons.1 hd with rfl | hd
  · exact continuesName_of_startsName hc
  · exact hcs d hd

/-- A word is read up to a character that does not go on with it. -/
theorem readToken_word {word rest : List Char} (hword : IsWord word) (hstop : Stops goesOn rest) :
    readToken (word ++ rest) = (.ofWord word, rest) := by
  have hcontinues := hword.continuesName
  obtain ⟨c, cs, rfl, hc, -⟩ := hword
  have hstop' : Stops Script.continuesName rest := fun d hd => by
    have := hstop d hd
    simp only [goesOn, Bool.or_eq_false_iff] at this
    exact this.1
  have hrun := Text.takeWhile_append_stop hcontinues hstop'
  have hrest := Text.dropWhile_append_stop hcontinues hstop'
  rw [List.cons_append] at hrun hrest ⊢
  have hread : readWord? (c :: (cs ++ rest)) = some (c :: cs, false, rest) := by
    unfold readWord?
    rw [if_pos (by simpa using hc), hrest]
    split
    · rename_i d
      have := hstop '\\' (by simp)
      simp [goesOn] at this
    · rw [hrun]
  simp [readToken, hc, hread, orInvalid]

/-! ## Signs -/

/-- The signs that no longer sign starts with. -/
def plainSigns : List (Char × Sign) :=
  [(';', .semicolon), (',', .comma), ('(', .openParen), (')', .closeParen), ('\x7b', .openBrace),
   ('\x7d', .closeBrace)]

theorem readToken_sign {c : Char} {s : Sign} (h : (c, s) ∈ plainSigns) (rest : List Char) :
    readToken (c :: rest) = (.sign s, rest) := by
  simp only [plainSigns, List.mem_cons, List.not_mem_nil, or_false, Prod.mk.injEq] at h
  rcases h with ⟨rfl, rfl⟩ | ⟨rfl, rfl⟩ | ⟨rfl, rfl⟩ | ⟨rfl, rfl⟩ | ⟨rfl, rfl⟩ | ⟨rfl, rfl⟩ <;> rfl

/-- The sign of an assignment, in front of a blank. -/
theorem readToken_assign (rest : List Char) :
    readToken ('=' :: ' ' :: rest) = (.sign .assign, ' ' :: rest) := rfl

/-! ## Literals -/

/-- A quoted text is read up to its closing quote. -/
theorem readToken_string {quote : Char} (hquote : quote = '"' ∨ quote = '\x27')
    {written rest : List Char} {units : List Nat}
    (h : readString? quote ((written ++ quote :: rest).length + 1) (written ++ quote :: rest) =
      some (units, rest)) :
    readToken (quote :: written ++ quote :: rest) = (.string (Text.ofUnits? units), rest) := by
  have hstart : (startsName quote || quote == '\\') = false := by
    rcases hquote with rfl | rfl <;> decide
  have hsharp : (quote == '#') = false := by rcases hquote with rfl | rfl <;> decide
  have hdigit : quote.isDigit = false := by rcases hquote with rfl | rfl <;> decide
  have hdot : (quote == '.') = false := by rcases hquote with rfl | rfl <;> decide
  have hsame : (quote == '"' || quote == '\x27') = true := by simpa using hquote
  rw [List.cons_append, readToken]
  simp only [hstart, Bool.false_eq_true, ↓reduceIte, hsharp, hdigit, hdot, Bool.false_and,
    Bool.or_false, hsame, h, Option.map_some, orInvalid, Option.getD_some]

/-- A template text without escapes and expressions is read up to its closing backtick. -/
theorem readTemplate?_of_plain {content : List Char} (rest : List Char) {n : Nat}
    (h : ∀ c ∈ content, c ≠ '\x60' ∧ c ≠ '\\') (hopen : ¬ ['$', '\x7b'] <:+: content)
    (hn : content.length < n) :
    readTemplate? n true (content ++ '\x60' :: rest) = some (⟨true, true⟩, rest) := by
  induction content generalizing n with
  | nil =>
    obtain ⟨n, rfl⟩ := Nat.exists_eq_succ_of_ne_zero (Nat.ne_of_gt hn)
    simp [readTemplate?]
  | cons c cs ih =>
    obtain ⟨n, rfl⟩ := Nat.exists_eq_succ_of_ne_zero (Nat.ne_of_gt (Nat.zero_lt_of_lt hn))
    rw [List.infix_cons_iff, not_or] at hopen
    have hcs := ih (fun d hd => h d (List.mem_cons_of_mem _ hd)) hopen.2 (n := n)
      (by simpa using hn)
    obtain ⟨hquote, hslash⟩ := h c (by simp)
    have hhead : (c == '$' && (cs ++ '\x60' :: rest).head? == some '\x7b') = false := by
      cases cs with
      | nil => simp
      | cons d cs =>
        have hpair := hopen.1
        simp only [List.cons_prefix_cons, List.nil_prefix, and_true, not_and] at hpair
        by_cases hdollar : c = '$'
        · have hd : d ≠ '\x7b' := fun heq => hpair hdollar.symm heq.symm
          simp [hd]
        · simp [hdollar]
    rw [List.cons_append, readTemplate?]
    simp only [beq_iff_eq, hquote, ↓reduceIte, hhead, Bool.false_eq_true, hslash, hcs]

/-- A template text is a token. -/
theorem readToken_template {content : List Char} (rest : List Char)
    (h : ∀ c ∈ content, c ≠ '\x60' ∧ c ≠ '\\') (hopen : ¬ ['$', '\x7b'] <:+: content) :
    readToken ('\x60' :: content ++ '\x60' :: rest) = (.template ⟨true, true⟩, rest) := by
  have hread := readTemplate?_of_plain rest (n := (content ++ '\x60' :: rest).length + 1) h hopen
    (by simp only [List.length_append, List.length_cons]; omega)
  have hstart : (startsName '\x60' || '\x60' == '\\') = false := by decide
  have hsharp : ('\x60' == '#') = false := by decide
  have hdigit : ('\x60').isDigit = false := by decide
  have hdot : ('\x60' == '.') = false := by decide
  have hquote : ('\x60' == '"' || '\x60' == '\x27') = false := by decide
  rw [List.cons_append, readToken]
  simp only [hstart, hsharp, hdigit, hdot, hquote, Bool.false_and, Bool.or_false,
    Bool.false_eq_true, BEq.rfl, ↓reduceIte, hread]
  rfl

/-! ## Gaps -/

/-- Whether a token may start at a character: it opens no comment and is no blank. -/
def isTokenStart (c : Char) : Bool :=
  c != '/' && !endsLine c && !isBlank c

theorem skip_of_isTokenStart {c : Char} (hc : isTokenStart c = true) (hasLineEnd : Bool)
    (comments : List (List Char)) (cs : List Char) :
    Gap.skip hasLineEnd comments .between (c :: cs) = some ⟨c :: cs, hasLineEnd, comments⟩ := by
  simp only [isTokenStart, Bool.and_eq_true, bne_iff_ne, ne_eq, Bool.not_eq_eq_eq_not,
    Bool.not_true] at hc
  obtain ⟨⟨hslash, hend⟩, hblank⟩ := hc
  rw [Gap.skip]
  · simp [hend, hblank]
  · rintro ds rfl
    exact absurd rfl hslash
  · rintro ds rfl
    exact absurd rfl hslash

@[simp] theorem skip_space (hasLineEnd : Bool) (comments : List (List Char)) (cs : List Char) :
    Gap.skip hasLineEnd comments .between (' ' :: cs) = Gap.skip hasLineEnd comments .between cs :=
  rfl

@[simp] theorem skip_lineFeed (hasLineEnd : Bool) (comments : List (List Char))
    (cs : List Char) :
    Gap.skip hasLineEnd comments .between ('\n' :: cs) = Gap.skip true comments .between cs :=
  rfl

/-- A line comment ends in front of the end of its line. -/
theorem skip_lineComment {content : List Char} (h : ∀ c ∈ content, endsLine c = false)
    (hasLineEnd : Bool) (comments : List (List Char)) {rest : List Char}
    (hrest : ∀ c ∈ rest.head?, c = '\n') :
    Gap.skip hasLineEnd comments .lineComment (content ++ rest) =
      Gap.skip hasLineEnd comments .between rest := by
  induction content with
  | nil =>
    cases rest with
    | nil => rfl
    | cons c rest =>
      obtain rfl := hrest c rfl
      rfl
  | cons c content ih =>
    rw [List.cons_append, Gap.skip, h c (by simp), ih fun d hd => h d (List.mem_cons_of_mem _ hd)]
    rfl

/-- A block comment ends behind its closing sign. -/
theorem skip_blockComment {content : List Char} (h : ∀ c ∈ content, endsLine c = false)
    (hclose : ¬ ['*', '/'] <:+: content) (hasLineEnd : Bool) (comments : List (List Char))
    (rest : List Char) :
    Gap.skip hasLineEnd comments .blockComment (content ++ '*' :: '/' :: rest) =
      Gap.skip hasLineEnd comments .between rest := by
  induction content with
  | nil => rfl
  | cons c content ih =>
    rw [List.infix_cons_iff, not_or] at hclose
    have hrest := ih (fun d hd => h d (List.mem_cons_of_mem _ hd)) hclose.2
    rw [List.cons_append, Gap.skip, h c (by simp), Bool.or_false, hrest]
    -- A star in front of the closing sign is no closing sign itself.
    rintro ds rfl hds
    cases content with
    | nil => simp at hds
    | cons d content =>
      simp only [List.cons_append, List.cons.injEq] at hds
      simp [hds.1] at hclose

/-! ## Entering a text -/

namespace Cursor

/-- The cursor behind a gap; the comments are kept if there is no end of it. -/
def ofGap (comments : List (List Char)) (pending : Nat) : Option Gap → Cursor
  | none => ⟨.invalid, false, [], comments, pending⟩
  | some gap =>
    ⟨(readToken gap.rest).1, gap.hasLineEnd, (readToken gap.rest).2, gap.comments, pending⟩

theorem enter_eq_ofGap (comments : List (List Char)) (pending : Nat) (cs : List Char) :
    enter comments pending cs = ofGap comments pending (Gap.skip false comments .between cs) := by
  unfold enter
  cases Gap.skip false comments .between cs <;> rfl

/-- A text is entered at its first token. -/
theorem enter_of_isTokenStart {c : Char} (hc : isTokenStart c = true)
    (comments : List (List Char)) (pending : Nat) {cs rest : List Char} {token : Token}
    (hread : readToken (c :: cs) = (token, rest)) :
    enter comments pending (c :: cs) = ⟨token, false, rest, comments, pending⟩ := by
  rw [enter_eq_ofGap, skip_of_isTokenStart hc, ofGap, hread]

@[simp] theorem enter_space (comments : List (List Char)) (pending : Nat) (cs : List Char) :
    enter comments pending (' ' :: cs) = enter comments pending cs := by
  rw [enter_eq_ofGap, enter_eq_ofGap, skip_space]

/-- A text is entered at its first word. -/
theorem enter_word {word rest : List Char} (hword : IsWord word)
    (hstart : ∀ c ∈ word.head?, isTokenStart c = true) (hstop : Stops goesOn rest)
    (comments : List (List Char)) (pending : Nat) :
    enter comments pending (word ++ rest) =
      ⟨.ofWord word, false, rest, comments, pending⟩ := by
  have hread := readToken_word hword hstop
  obtain ⟨c, cs, rfl, -, -⟩ := hword
  exact enter_of_isTokenStart (hstart c rfl) comments pending hread

/-- A text is entered at its first sign. -/
theorem enter_sign {c : Char} {s : Sign} (h : (c, s) ∈ plainSigns)
    (comments : List (List Char)) (pending : Nat) (rest : List Char) :
    enter comments pending (c :: rest) = ⟨.sign s, false, rest, comments, pending⟩ := by
  have hstart : ∀ entry ∈ plainSigns, isTokenStart entry.1 = true := by decide
  exact enter_of_isTokenStart (hstart _ h) comments pending (readToken_sign h rest)

end Cursor

end TemplateImports.Script
