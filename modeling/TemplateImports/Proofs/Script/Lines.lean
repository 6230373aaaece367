import TemplateImports.Json.Quoted
import TemplateImports.Proofs.Script.ImportClauses

/-!
# Scripts made of lines

A class of scripts that is closed under putting registration blocks into them: lines that each hold
a comment, a variable with a quoted text as its value, an import, or a registration call.  Such a
script is read whatever its comments and quoted texts hold, and its comments are exactly the lines
that are written as comments.

The induction is on the lines.  Its invariant is a cursor in the gap in front of a line, with any
comments read so far and with or without a line end behind it.

Main results:

- Definition `ScriptLine.write` writes a line; predicate `ScriptLine.WellFormed` says what it may
  hold.
- Theorem `readItem?_write` reads the statement of a line.
- Theorem `read?_writeLines` reads a script of lines.
-/

namespace TemplateImports.Script

/-! ## Lines -/

/-- A line of a script. -/
inductive ScriptLine where
  | blank
  /-- A variable, whose name is an `x` with digits, with a quoted text as its value. -/
  | declaration (digits : List Char) (quote : Char) (content : List Char)
  | lineComment (content : List Char)
  | blockComment (content : List Char)
  /-- The import of a module under a name. -/
  | defaultImport (name : List Char) (moduleName : String)
  /-- The import of one name from a module. -/
  | namedImport (key moduleName : List Char)
  | call (f : List Char) (keys : List (List Char))
deriving Repr, DecidableEq

/-- The word that an import starts with. -/
def importWord : List Char :=
  ['i', 'm', 'p', 'o', 'r', 't']

namespace ScriptLine

/-- The text of a line. -/
def write : ScriptLine → List Char
  | .blank => []
  | .declaration digits quote content =>
    ['v', 'a', 'r'] ++ writeDeclared ('x' :: digits) (quote :: content ++ [quote]) []
  | .lineComment content => '/' :: '/' :: content
  | .blockComment content => '/' :: '*' :: (content ++ ['*', '/'])
  | .defaultImport name moduleName =>
    importWord ++ ' ' :: (name ++ writeFrom (Json.Quoted.quote moduleName) [])
  | .namedImport key moduleName =>
    importWord ++ ' ' :: '\x7b' :: ' ' ::
      (key ++ ' ' :: '\x7d' :: writeFrom ('\x27' :: moduleName ++ ['\x27']) [])
  | .call f keys => f ++ '(' :: writeArguments [] keys

/-- Whether the line is a comment. -/
def isComment : ScriptLine → Bool
  | .lineComment _ => true
  | .blockComment _ => true
  | _ => false

/-- Whether the line is a statement or an import. -/
def isStatement : ScriptLine → Bool
  | .blank => false
  | line => !line.isComment

/-- The names that the line imports. -/
def imported : ScriptLine → List (List Char)
  | .defaultImport name _ => [name]
  | .namedImport key _ => [key]
  | _ => []

/-- How deep the phrases of the line are nested at most. -/
def depth : ScriptLine → Nat
  | .call _ keys => keys.length + 15
  | _ => 8

/-- What a line may hold: the content of a quoted text or a comment is arbitrary except for what
ends it, and what stands for something else than itself. -/
def WellFormed : ScriptLine → Prop
  | .blank => True
  | .declaration digits quote content =>
    (∀ c ∈ digits, c.isDigit = true) ∧ quote ∈ ['"', '\x27', '\x60'] ∧
      (∀ c ∈ content, c ≠ quote ∧ c ≠ '\\' ∧ endsLine c = false) ∧
      (quote = '\x60' → ¬ ['$', '\x7b'] <:+: content)
  | .lineComment content => ∀ c ∈ content, endsLine c = false
  | .blockComment content => (∀ c ∈ content, endsLine c = false) ∧ ¬ ['*', '/'] <:+: content
  | .defaultImport name _ => IsPlainWord name
  | .namedImport key moduleName =>
    IsKeyWord key ∧ ∀ c ∈ moduleName, c ≠ '\x27' ∧ c ≠ '\\' ∧ endsLine c = false
  | .call f keys => IsPlainWord f ∧ ∀ key ∈ keys, IsKeyWord key

variable {line : ScriptLine}

theorem isComment_of_isStatement (h : line.isStatement = true) : line.isComment = false := by
  cases line <;> first | rfl | simp [isStatement, isComment] at h

theorem imported_of_not_isStatement (h : line.isStatement = false) : line.imported = [] := by
  cases line <;> first | rfl | simp [isStatement, isComment] at h

end ScriptLine

/-! ## Texts of lines -/

/-- The text behind a line in front of more lines. -/
def behind : List ScriptLine → List Char
  | [] => []
  | line :: lines => '\n' :: (line.write ++ behind lines)

/-- The text of lines, with line feeds between them. -/
def writeLines : List ScriptLine → List Char
  | [] => []
  | line :: lines => line.write ++ behind lines

/-- The comments of lines, each as the text from its start on. -/
def commentTexts : List ScriptLine → List (List Char)
  | [] => []
  | line :: lines =>
    if line.isComment then writeLines (line :: lines) :: commentTexts lines else commentTexts lines

/-- The names that lines import. -/
def importedNames (lines : List ScriptLine) : List (List Char) :=
  lines.flatMap ScriptLine.imported

theorem head?_behind (lines : List ScriptLine) : ∀ c ∈ (behind lines).head?, c = '\n' := by
  cases lines <;> simp [behind]

theorem length_writeLines_le_behind (lines : List ScriptLine) :
    (writeLines lines).length ≤ (behind lines).length := by
  cases lines <;> simp [writeLines, behind]

/-- The gap behind a line goes on into the next one. -/
theorem skip_behind (hasLineEnd : Bool) (comments : List (List Char)) (lines : List ScriptLine) :
    Gap.skip hasLineEnd comments .between (behind lines) =
      Gap.skip (hasLineEnd || !lines.isEmpty) comments .between (writeLines lines) := by
  cases lines with
  | nil => simp [behind, writeLines]
  | cons line lines => simp [behind, writeLines]

/-! ## Quoted names of modules -/

/-- An escape of a data file stands for the same character in a script. -/
theorem readEscape?_of_escape {c : Char} (h : Json.Quoted.escape c ≠ [c]) (rest : List Char) :
    ∃ body, Json.Quoted.escape c = '\\' :: body ∧
      readEscape? (body ++ rest) = some ⟨some c.toNat, false, rest⟩ := by
  unfold Json.Quoted.escape at h ⊢
  split
  · rename_i hc
    simp only [beq_iff_eq] at hc
    subst hc
    exact ⟨['"'], rfl, rfl⟩
  · split
    · rename_i hc
      simp only [beq_iff_eq] at hc
      subst hc
      exact ⟨['\\'], rfl, rfl⟩
    · split
      · rename_i hcontrol
        unfold Json.Quoted.controlEscape
        split
        · exact ⟨['b'], rfl, rfl⟩
        · exact ⟨['t'], rfl, rfl⟩
        · exact ⟨['n'], rfl, rfl⟩
        · exact ⟨['f'], rfl, rfl⟩
        · exact ⟨['r'], rfl, rfl⟩
        · have hnumber : ∀ n < 32, hexNumber? ['0', '0', Json.Quoted.hexDigit (n / 16),
              Json.Quoted.hexDigit (n % 16)] = some n := by decide
          have hunit := hnumber c.toNat (by simpa [Json.Quoted.isControl] using hcontrol)
          refine ⟨_, rfl, ?_⟩
          simp [readEscape?, readCodePoint?, readHex?, hunit]
      · simp_all

/-- A text that is quoted as in a data file is a quoted text of a script, and stands for the same
characters. -/
theorem readString?_encode (text rest : List Char) {n : Nat}
    (hn : (Json.Quoted.encode text).length < n) :
    readString? '"' n (Json.Quoted.encode text ++ '"' :: rest) =
      some (text.map Char.toNat, rest) := by
  induction text generalizing n with
  | nil =>
    obtain ⟨n, rfl⟩ := Nat.exists_eq_succ_of_ne_zero (Nat.ne_of_gt hn)
    rfl
  | cons c text ih =>
    obtain ⟨n, rfl⟩ := Nat.exists_eq_succ_of_ne_zero (Nat.ne_of_gt (Nat.zero_lt_of_lt hn))
    rw [Json.Quoted.encode, List.length_append] at hn
    rw [Json.Quoted.encode, List.append_assoc]
    by_cases h : Json.Quoted.escape c = [c]
    · have htext := ih (n := n) (by rw [h] at hn; simp at hn; omega)
      have hplain : ∀ d ∈ ['"', '\\', '\n', '\r'], c ≠ d := by
        have hescape : ∀ d ∈ ['"', '\\', '\n', '\r'], Json.Quoted.escape d ≠ [d] := by decide
        rintro d hd rfl
        exact hescape c hd h
      rw [h, List.singleton_append, readString?]
      simp [hplain, htext]
    · obtain ⟨body, hbody, hread⟩ :=
        readEscape?_of_escape h (Json.Quoted.encode text ++ '"' :: rest)
      have htext := ih (n := n) (by rw [hbody] at hn; simp at hn; omega)
      rw [hbody, List.cons_append, readString?]
      simp [hread, htext]

/-! ## Tokens of lines -/

namespace Cursor

/-- The cursor at a word behind a gap. -/
theorem ofGap_word {word rest : List Char} (hword : IsWord word)
    (hstart : ∀ c ∈ word.head?, isTokenStart c = true) (hstop : Text.Stops goesOn rest)
    (kept comments : List (List Char)) (hasLineEnd : Bool) :
    ofGap kept 0 (Gap.skip hasLineEnd comments .between (word ++ rest)) =
      ⟨.ofWord word, hasLineEnd, rest, comments, 0⟩ := by
  have hread := readToken_word hword hstop
  obtain ⟨c, cs, rfl, -, -⟩ := hword
  rw [List.cons_append] at hread ⊢
  rw [skip_of_isTokenStart (hstart c rfl), ofGap, hread]

/-- A text between quotes is entered as one token. -/
theorem enter_string {text : List Char} {quote : Char} (hquote : quote = '"' ∨ quote = '\x27')
    (htext : ∀ c ∈ text, c ≠ quote ∧ c ≠ '\\' ∧ endsLine c = false) (rest : List Char)
    (comments : List (List Char)) :
    ∃ units, enter comments 0 (quote :: text ++ [quote] ++ rest) =
      ⟨.string units, false, rest, comments, 0⟩ := by
  have hplain : ∀ c ∈ text, c ≠ quote ∧ c ≠ '\\' ∧ c ≠ '\n' ∧ c ≠ '\r' := by
    intro c hc
    obtain ⟨hne, hslash, hend⟩ := htext c hc
    refine ⟨hne, hslash, ?_, ?_⟩ <;> rintro rfl <;> simp [endsLine] at hend
  have hstring := readString?_of_plain rest hplain (n := (text ++ quote :: rest).length + 1)
    (by simp)
  have hstart : isTokenStart quote = true := by rcases hquote with rfl | rfl <;> decide
  rw [List.append_assoc, List.singleton_append]
  exact ⟨_, enter_of_isTokenStart hstart comments 0 (readToken_string hquote hstring)⟩

/-- A quoted text without escapes is entered as one literal. -/
theorem enter_literal {text : List Char} {quote : Char} (hquote : quote ∈ ['"', '\x27', '\x60'])
    (htext : ∀ c ∈ text, c ≠ quote ∧ c ≠ '\\' ∧ endsLine c = false)
    (hopen : quote = '\x60' → ¬ ['$', '\x7b'] <:+: text) (rest : List Char)
    (comments : List (List Char)) :
    ∃ token, token.isLiteral = true ∧
      enter comments 0 (quote :: text ++ [quote] ++ rest) = ⟨token, false, rest, comments, 0⟩ := by
  by_cases hback : quote = '\x60'
  · subst hback
    have hread := readToken_template rest (fun c hc => ⟨(htext c hc).1, (htext c hc).2.1⟩)
      (hopen rfl)
    rw [List.append_assoc, List.singleton_append]
    exact ⟨_, rfl, enter_of_isTokenStart (by decide) comments 0 hread⟩
  · obtain ⟨units, hunits⟩ := enter_string (by simpa [hback] using hquote) htext rest comments
    exact ⟨_, rfl, hunits⟩

end Cursor

/-- A text that is quoted as in a data file is one token, which stands for the text. -/
theorem readToken_quote (text : String) (rest : List Char) :
    readToken (Json.Quoted.quote text ++ rest) = (.string (some text.toList), rest) := by
  have hread := readToken_string (Or.inl rfl) (readString?_encode text.toList rest
    (n := (Json.Quoted.encode text.toList ++ '"' :: rest).length + 1) (by simp))
  rw [Text.ofUnits?_map_toNat] at hread
  rw [Json.Quoted.quote, List.append_assoc, List.singleton_append]
  exact hread

namespace Cursor

/-- A text that is quoted as in a data file is entered as one token. -/
theorem enter_quote (text : String) (rest : List Char) (comments : List (List Char)) :
    enter comments 0 (Json.Quoted.quote text ++ rest) =
      ⟨.string (some text.toList), false, rest, comments, 0⟩ :=
  enter_of_isTokenStart (by decide) comments 0 (readToken_quote text rest)

end Cursor

/-! ## Statements of lines -/

theorem writeDeclared_append (name literal rest : List Char) :
    writeDeclared name literal [] ++ rest = writeDeclared name literal rest := by
  simp [writeDeclared]

theorem writeFrom_append (quoted rest : List Char) :
    writeFrom quoted [] ++ rest = writeFrom quoted rest := by
  simp [writeFrom]

theorem writeKeys_append (front rest : List Char) (keys : List (List Char)) :
    writeKeys front keys ++ rest = writeKeys (front ++ rest) keys := by
  induction keys with
  | nil => rfl
  | cons key keys ih =>
    cases keys with
    | nil => simp [writeKeys]
    | cons key' keys => simpa [writeKeys] using ih

theorem writeArguments_append (rest : List Char) (keys : List (List Char)) :
    writeArguments [] keys ++ rest = writeArguments rest keys := by
  simp [writeArguments, writeKeys_append]

theorem isPlainWord_declared {digits : List Char} (h : ∀ c ∈ digits, c.isDigit = true) :
    IsPlainWord ('x' :: digits) := by
  refine isPlainWord_of_isAlpha (by decide) (fun c hc => by simp [Char.isAlphanum, h c hc]) ?_
  have hx : ∀ entry ∈ Keyword.table, entry.1.toList.head? ≠ some 'x' := by decide
  simp only [Keyword.ofText?, Option.map_eq_none_iff, List.find?_eq_none, beq_iff_eq]
  intro entry he heq
  exact hx entry he (by rw [heq]; rfl)

/-- The statement of a line starts with a token of its own, and it is read if the next line
follows. -/
theorem readItem?_write {line : ScriptLine} (hline : line.WellFormed)
    (hstatement : line.isStatement = true) (rest : List Char)
    (kept comments : List (List Char)) (hasLineEnd : Bool) (n : Nat) :
    ∃ token front,
      Cursor.ofGap kept 0 (Gap.skip hasLineEnd comments .between (line.write ++ rest)) =
        ⟨token, hasLineEnd, front, comments, 0⟩ ∧
      token.startsLine = true ∧ token ≠ .finish ∧
      ((Cursor.enter comments 0 rest).AtLine →
        readItem? (grammar (n + line.depth)) ⟨token, hasLineEnd, front, comments, 0⟩ =
          some (line.imported, [], Cursor.enter comments 0 rest)) := by
  have himport : IsWord importWord :=
    ⟨'i', ['m', 'p', 'o', 'r', 't'], rfl, by decide, by decide⟩
  -- The first word tells the form of the line, and its own lemma reads the rest.
  cases line with
  | blank => simp [ScriptLine.isStatement] at hstatement
  | lineComment content => simp [ScriptLine.isStatement, ScriptLine.isComment] at hstatement
  | blockComment content => simp [ScriptLine.isStatement, ScriptLine.isComment] at hstatement
  | declaration digits quote content =>
    obtain ⟨hdigits, hquote, hcontent, hopen⟩ := hline
    have hvar : IsWord ['v', 'a', 'r'] := ⟨'v', ['a', 'r'], rfl, by decide, by decide⟩
    obtain ⟨token, hliteral, htoken⟩ :=
      Cursor.enter_literal hquote hcontent hopen (';' :: rest) comments
    refine ⟨.keyword .var, writeDeclared ('x' :: digits) (quote :: content ++ [quote]) rest, ?_,
      rfl, by decide, ?_⟩
    · have hstop : Text.Stops goesOn
          (writeDeclared ('x' :: digits) (quote :: content ++ [quote]) rest) :=
        Text.stops_cons (c := ' ') (by decide) _
      rw [ScriptLine.write, List.append_assoc, writeDeclared_append,
        Cursor.ofGap_word hvar (by decide) hstop]
      rfl
    · intro _
      exact readItem?_declaration (isPlainWord_declared hdigits) hliteral hasLineEnd rest htoken n
  | defaultImport name moduleName =>
    have hquoted := Cursor.enter_quote moduleName rest comments
    refine ⟨.keyword .import_, ' ' :: (name ++ writeFrom (Json.Quoted.quote moduleName) rest), ?_,
      rfl, by decide, ?_⟩
    · rw [ScriptLine.write, List.append_assoc, List.cons_append, List.append_assoc,
        writeFrom_append, Cursor.ofGap_word himport (by decide) (Text.stops_cons (by decide) _)]
      rfl
    · intro hnext
      exact readItem?_defaultImport hline hquoted hnext _ hasLineEnd
  | namedImport key moduleName =>
    obtain ⟨hkey, hmodule⟩ := hline
    obtain ⟨units, hunits⟩ := Cursor.enter_string (Or.inr rfl) hmodule rest comments
    refine ⟨.keyword .import_, ' ' :: '\x7b' :: ' ' ::
      (key ++ ' ' :: '\x7d' :: writeFrom ('\x27' :: moduleName ++ ['\x27']) rest), ?_,
      rfl, by decide, ?_⟩
    · rw [ScriptLine.write, List.append_assoc, List.cons_append, List.cons_append,
        List.cons_append, List.append_assoc, List.cons_append, List.cons_append,
        writeFrom_append, Cursor.ofGap_word himport (by decide) (Text.stops_cons (by decide) _)]
      rfl
    · intro hnext
      exact readItem?_namedImport hkey.isPlainWord hunits hnext _ hasLineEnd
  | call f keys =>
    obtain ⟨hf, hkeys⟩ := hline
    refine ⟨.name f, '(' :: writeArguments rest keys, ?_, rfl, nofun, ?_⟩
    · rw [ScriptLine.write, List.append_assoc, List.cons_append, writeArguments_append,
        Cursor.ofGap_word hf.isWord hf.starts (Text.stops_cons (by decide) _), hf.ofWord]
    · intro hnext
      exact readItem?_call hkeys f hasLineEnd rest n hnext

/-! ## Whole scripts -/

/-- The gap in front of a line that is no statement goes on behind it. -/
theorem skip_of_not_isStatement {line : ScriptLine} {lines : List ScriptLine}
    (hline : line.WellFormed) (h : line.isStatement = false) (hasLineEnd : Bool)
    (comments : List (List Char)) :
    Gap.skip hasLineEnd comments .between (writeLines (line :: lines)) =
      Gap.skip (hasLineEnd || !lines.isEmpty)
        (if line.isComment then writeLines (line :: lines) :: comments else comments) .between
        (writeLines lines) := by
  rw [← skip_behind]
  cases line with
  | blank => rfl
  | lineComment content => exact skip_lineComment hline _ _ (head?_behind lines)
  | blockComment content =>
    have hskip := skip_blockComment hline.1 hline.2 hasLineEnd
      (writeLines (.blockComment content :: lines) :: comments) (behind lines)
    have htext : writeLines (.blockComment content :: lines) =
        '/' :: '*' :: (content ++ '*' :: '/' :: behind lines) := by
      simp [writeLines, ScriptLine.write]
    rw [htext] at hskip ⊢
    exact hskip
  | _ => simp [ScriptLine.isStatement, ScriptLine.isComment] at h

theorem write_ne_nil {line : ScriptLine} (hline : line.WellFormed)
    (hstatement : line.isStatement = true) : line.write ≠ [] := by
  cases line with
  | call f keys =>
    obtain ⟨c, cs, rfl, -⟩ := hline.1.isWord
    simp [ScriptLine.write]
  | blank => simp [ScriptLine.isStatement] at hstatement
  | _ => simp [ScriptLine.write, importWord]

/-- A cursor in the gap in front of lines stands at the start of a line, or at the end. -/
theorem atLine_writeLines {lines : List ScriptLine} (hlines : ∀ line ∈ lines, line.WellFormed)
    (kept comments : List (List Char)) (hasLineEnd : Bool)
    (hends : hasLineEnd = true ∨ lines = []) :
    (Cursor.ofGap kept 0 (Gap.skip hasLineEnd comments .between (writeLines lines))).AtLine := by
  induction lines generalizing kept comments hasLineEnd with
  | nil => exact ⟨rfl, Or.inr rfl⟩
  | cons line lines ih =>
    have hline := hlines line (by simp)
    have hrest := ih fun l hl => hlines l (List.mem_cons_of_mem _ hl)
    cases hstatement : line.isStatement with
    | false =>
      rw [skip_of_not_isStatement hline hstatement]
      exact hrest _ _ _ (by cases lines <;> simp)
    | true =>
      obtain ⟨token, front, hcursor, hstarts, -⟩ :=
        readItem?_write hline hstatement (behind lines) kept comments hasLineEnd 0
      rw [writeLines, hcursor]
      exact ⟨hstarts, Or.inl (by simpa using hends)⟩

/-- The script of lines is read from any gap in front of them. -/
theorem readItems?_writeLines {lines : List ScriptLine} {n depth : Nat}
    (hlines : ∀ line ∈ lines, line.WellFormed) (hn : (writeLines lines).length < n)
    (hdepth : ∀ line ∈ lines, line.depth ≤ depth)
    (kept comments : List (List Char)) (hasLineEnd : Bool) :
    readItems? (grammar depth) n
      (Cursor.ofGap kept 0 (Gap.skip hasLineEnd comments .between (writeLines lines))) =
        some ⟨comments.reverse ++ commentTexts lines, importedNames lines, []⟩ := by
  induction lines generalizing n kept comments hasLineEnd with
  | nil =>
    obtain ⟨n, rfl⟩ := Nat.exists_eq_succ_of_ne_zero (Nat.ne_of_gt hn)
    simp [writeLines, Gap.skip, Cursor.ofGap, readToken, readItems?, commentTexts, importedNames]
  | cons line lines ih =>
    have hline := hlines line (by simp)
    have hlines' : ∀ l ∈ lines, l.WellFormed := fun l hl => hlines l (List.mem_cons_of_mem _ hl)
    have hrest (m : Nat) (hm : (writeLines lines).length < m) :=
      ih (n := m) hlines' hm fun l hl => hdepth l (List.mem_cons_of_mem _ hl)
    have hlength := length_writeLines_le_behind lines
    -- Blank lines and comments are part of the gap, and every other line is an item.
    cases hstatement : line.isStatement with
    | false =>
      have hlt : (writeLines lines).length < n := by
        simp only [writeLines, List.length_append] at hn
        omega
      have himported := ScriptLine.imported_of_not_isStatement hstatement
      rw [skip_of_not_isStatement hline hstatement, hrest n hlt]
      cases hcomment : line.isComment <;> simp [commentTexts, importedNames, hcomment, himported]
    | true =>
      obtain ⟨n, rfl⟩ := Nat.exists_eq_succ_of_ne_zero (Nat.ne_of_gt (Nat.zero_lt_of_lt hn))
      obtain ⟨extra, hextra⟩ := Nat.exists_eq_add_of_le' (hdepth line (by simp))
      obtain ⟨token, front, hcursor, -, hfinish, hread⟩ :=
        readItem?_write hline hstatement (behind lines) kept comments hasLineEnd extra
      have hnext : Cursor.enter comments 0 (behind lines) = Cursor.ofGap comments 0
          (Gap.skip (!lines.isEmpty) comments .between (writeLines lines)) := by
        rw [Cursor.enter_eq_ofGap, skip_behind, Bool.false_or]
      have hcomment := ScriptLine.isComment_of_isStatement hstatement
      have hat : (Cursor.enter comments 0 (behind lines)).AtLine := by
        rw [hnext]
        exact atLine_writeLines hlines' _ _ _ (by cases lines <;> simp)
      have hwrite := List.length_pos_of_ne_nil (write_ne_nil hline hstatement)
      have hlt : (writeLines lines).length < n := by
        simp only [writeLines, List.length_append] at hn
        omega
      have hitem := hread hat
      rw [← hextra] at hitem
      have htoken : (token == .finish) = false := by simpa using hfinish
      rw [writeLines, hcursor, readItems?]
      simp [htoken, hitem, hnext, hrest n hlt, commentTexts, hcomment, importedNames]

/-- The phrases of a line are nested no deeper than the line is long. -/
theorem ScriptLine.depth_le {line : ScriptLine} (hline : line.WellFormed) :
    line.depth ≤ line.write.length + 15 := by
  have hkeys (keys : List (List Char)) (h : ∀ key ∈ keys, IsKeyWord key) (rest : List Char) :
      keys.length ≤ (writeKeys rest keys).length := by
    induction keys with
    | nil => simp
    | cons key keys ih =>
      obtain ⟨c, cs, rfl, -⟩ := h key (by simp)
      have hrest := ih fun k hk => h k (List.mem_cons_of_mem _ hk)
      cases keys with
      | nil => simp [writeKeys]
      | cons key' keys =>
        simp only [writeKeys, List.length_cons, List.length_append] at hrest ⊢
        omega
  cases line with
  | call f keys =>
    have hle := hkeys keys hline.2 [')']
    simp only [depth, write, writeArguments, List.length_append, List.length_cons]
    omega
  | _ => simp [depth]

theorem length_write_le {line : ScriptLine} {lines : List ScriptLine} (h : line ∈ lines) :
    line.write.length ≤ (writeLines lines).length := by
  induction lines with
  | nil => simp at h
  | cons l lines ih =>
    have hle := length_writeLines_le_behind lines
    simp only [writeLines, List.length_append]
    rcases List.mem_cons.1 h with rfl | h
    · omega
    · have := ih h
      omega

/-- A script is entered at its first character, unless it starts with a mark. -/
theorem Cursor.start_eq_enter {cs : List Char} (h : ∀ c ∈ cs.head?, c ≠ '\uFEFF' ∧ c ≠ '#') :
    start cs = enter [] 0 cs := by
  unfold start
  split
  · exact absurd rfl (h '\uFEFF' rfl).1
  · unfold start.first
    split
    · exact absurd rfl (h '#' rfl).2
    · rfl

/-- No line starts with a mark of the start of a script. -/
theorem head?_writeLines {lines : List ScriptLine} (hlines : ∀ line ∈ lines, line.WellFormed) :
    ∀ c ∈ (writeLines lines).head?, c ≠ '\uFEFF' ∧ c ≠ '#' := by
  cases lines with
  | nil => simp [writeLines]
  | cons line lines =>
    have hline := hlines line (by simp)
    cases line with
    | blank =>
      intro c hc
      rw [head?_behind lines c hc]
      decide
    | call f keys =>
      obtain ⟨d, ds, rfl, hd, -⟩ := hline.1.isWord
      have htoken : isTokenStart d = true := hline.1.starts d rfl
      intro c hc
      obtain rfl : d = c := by simpa [writeLines, ScriptLine.write] using hc
      constructor
      · rintro rfl
        exact absurd htoken (by decide)
      · rintro rfl
        exact absurd hd (by decide)
    | _ => simp [writeLines, ScriptLine.write, importWord]

/-- A script of lines is read: its comments are the lines that are comments, and it imports what
its lines import. -/
theorem read?_writeLines {lines : List ScriptLine} (hlines : ∀ line ∈ lines, line.WellFormed) :
    read? (writeLines lines) = some ⟨commentTexts lines, importedNames lines, []⟩ := by
  have hdepth : ∀ line ∈ lines, line.depth ≤ depthOf (writeLines lines) := by
    intro line hline
    have hle := ScriptLine.depth_le (hlines line hline)
    have hlength := length_write_le hline
    simp only [depthOf]
    omega
  have hread := readItems?_writeLines hlines (Nat.lt_succ_self _) hdepth [] [] false
  rw [← Cursor.enter_eq_ofGap, ← Cursor.start_eq_enter (head?_writeLines hlines)] at hread
  simp [read?, hread]

end TemplateImports.Script
