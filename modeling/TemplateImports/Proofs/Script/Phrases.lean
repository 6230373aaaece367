import TemplateImports.Proofs.Script.TokenScan
import TemplateImports.Proofs.Text.Ascii

/-!
# Reading phrases

How the grammar reads the few kinds of statements that generated code is made of: a variable with a
literal as its value, and a call with a list of names in braces.

A phrase is read at a cursor whose next tokens are known.  All that must be known about the text
behind a phrase is that it does not go on with it.

Main results:

- Theorem `grammar_assignment` reads an operand that no operator follows.
- Theorem `readItem?_declaration` reads a declaration.
- Theorem `readItem?_call` reads a call.
-/

namespace TemplateImports.Script

/-! ## Operands -/

/-- The tokens that end an operand. -/
def Token.endsOperand : Token → Bool
  | .sign .semicolon => true
  | .sign .comma => true
  | .sign .closeParen => true
  | .sign .closeBrace => true
  | .keyword .var => true
  | .keyword .import_ => true
  | .name _ => true
  | .finish => true
  | _ => false

/-- The tokens that an operand starts with here. -/
def Token.startsOperand : Token → Bool
  | .string _ => true
  | .template _ => true
  | .name _ => true
  | .sign .openBrace => true
  | _ => false

section

variable {x : Context} {c d e : Cursor} {s s' : Shape}

/-- What ends an operand is no operator. -/
theorem Token.strength?_of_endsOperand {token : Token} (h : token.endsOperand = true) :
    token.strength? x = none := by
  unfold Token.endsOperand at h
  split at h <;> first | rfl | simp at h

/-- What ends an operand is none of the other signs. -/
theorem Cursor.isAt_of_endsOperand (sign : Sign) (h : c.token.endsOperand = true)
    (hsign : (Token.sign sign).endsOperand = false) : c.isAt sign = false := by
  rw [Cursor.isAt, beq_eq_false_iff_ne]
  intro heq
  rw [heq, hsign] at h
  simp at h

/-- What starts an operand here is no keyword. -/
theorem Cursor.isAtWord_of_startsOperand (h : c.token.startsOperand = true) (k : Keyword) :
    c.isAtWord k = false := by
  rw [Cursor.isAtWord, beq_eq_false_iff_ne]
  intro heq
  simp [heq, Token.startsOperand] at h

/-- A value ends in front of a token that ends operands. -/
theorem grammar_suffix (n : Nat) (calls : Bool) (base : Shape)
    (h : c.token.endsOperand = true) :
    grammar (n + 1) x (.suffix calls base) c = some (base, c) := by
  rw [grammar_succ, rule]
  unfold suffixRule
  split <;> rename_i heq <;> first | rfl | simp [heq, Token.endsOperand] at h

/-- An operand with its members and calls, in front of a token that ends it, is a whole
expression. -/
theorem grammar_assignment {n : Nat} (hstart : c.token.startsOperand = true)
    (hprimary : grammar (n + 1) x .primary c = some (s, d))
    (hsuffix : grammar (n + 1) x (.suffix true s) d = some (s', e))
    (hend : e.token.endsOperand = true) :
    grammar (n + 5) x .assignment c = some (s', e) := by
  have hleft : grammar (n + 2) x .leftSide c = some (s', e) := by
    rw [grammar_succ, rule]
    simp [leftSideRule, hprimary, hsuffix]
  have hunary : grammar (n + 3) x .unary c = some (s', e) := by
    have hchanged : readChanged (grammar (n + 2)) x c = some (s', e) := by
      simp [readChanged, hleft, Cursor.isAt_of_endsOperand .increment hend rfl]
    rw [grammar_succ, rule]
    unfold unaryRule
    split <;> rename_i heq <;> first | exact hchanged | simp [heq, Token.startsOperand] at hstart
  have hbinary : grammar (n + 4) x (.binary coalescing) c = some (s', e) := by
    have hrest : grammar (n + 3) x (.binaryRest coalescing s') e = some (s', e) := by
      rw [grammar_succ, rule]
      simp [binaryRestRule, Token.strength?_of_endsOperand hend]
    rw [grammar_succ, rule]
    simp [binaryRule, hunary, hrest]
  have hasync : readAsyncArrow (grammar (n + 4)) x c = none := by
    simp [readAsyncArrow, Cursor.isAtWord_of_startsOperand hstart]
  have hassigned : readAssigned (grammar (n + 4)) x s' e = some (s', e) := by
    unfold readAssigned
    split <;> rename_i heq <;> first | rfl | simp [heq, Token.endsOperand] at hend
  rw [grammar_succ, rule]
  simp [assignmentRule, Cursor.isAtWord_of_startsOperand hstart, hasync, hbinary,
    Cursor.isAt_of_endsOperand .arrow hend rfl, hassigned]

/-- An innermost expression in front of a token that ends it is a whole expression. -/
theorem grammar_assignment_of_primary {n : Nat} (hstart : c.token.startsOperand = true)
    (hprimary : grammar (n + 1) x .primary c = some (s, d))
    (hend : d.token.endsOperand = true) :
    grammar (n + 5) x .assignment c = some (s, d) :=
  grammar_assignment hstart hprimary (grammar_suffix n true s hend) hend

/-! ## Innermost expressions -/

/-- A string literal is an innermost expression. -/
theorem grammar_primary_string (n : Nat) {text : Option (List Char)}
    (h : c.token = .string text) : grammar (n + 1) x .primary c = some (.value, c.next) := by
  rw [grammar_succ, rule]
  simp [primaryRule, h]

/-- A template literal in one piece is an innermost expression. -/
theorem grammar_primary_template (n : Nat) (h : c.token = .template ⟨true, true⟩) :
    grammar (n + 2) x .primary c = some (.value, c.next) := by
  have htemplate : grammar (n + 1) x (.template false) c = some (.value, c.next) := by
    rw [grammar_succ, rule]
    simp [templateRule, h]
  rw [grammar_succ, rule]
  simp [primaryRule, h, htemplate]

/-- A name is an innermost expression. -/
theorem grammar_primary_name (n : Nat) {text : List Char} (h : c.token = .name text) :
    grammar (n + 1) x .primary c = some (.name text, c.next) := by
  rw [grammar_succ, rule]
  simp [primaryRule, h, readName, Token.nameIn?]

end

/-! ## Names in braces -/

/-- A name that starts with a capital, which is no keyword. -/
def IsKeyWord (key : List Char) : Prop :=
  ∃ c cs, key = c :: cs ∧ c.isUpper = true ∧ ∀ d ∈ cs, d.isAlphanum = true

instance : DecidablePred IsKeyWord := fun key =>
  match key with
  | [] => isFalse (by rintro ⟨c, cs, h, -⟩; simp at h)
  | c :: cs =>
    decidable_of_iff (c.isUpper = true ∧ cs.all Char.isAlphanum = true)
      ⟨fun h => ⟨c, cs, rfl, h.1, List.all_eq_true.1 h.2⟩, by
        rintro ⟨d, ds, h, hd, hds⟩
        cases h
        exact ⟨hd, List.all_eq_true.2 hds⟩⟩

/-- A word that is no keyword. -/
structure IsPlainWord (word : List Char) : Prop where
  isWord : IsWord word
  starts : ∀ c ∈ word.head?, isTokenStart c = true
  ofWord : Token.ofWord word = .name word

/-- Letters and digits go on with a name. -/
theorem continuesName_of_isAlphanum {c : Char} (h : c.isAlphanum = true) :
    continuesName c = true := by
  have hall := Text.forall_ascii (p := fun c => !c.isAlphanum || continuesName c)
    (by decide +kernel) (Text.toNat_lt_of_isAlphanum h)
  simpa [h] using hall

theorem isTokenStart_of_isAlphanum {c : Char} (h : c.isAlphanum = true) :
    isTokenStart c = true := by
  have hall := Text.forall_ascii (p := fun c => !c.isAlphanum || isTokenStart c)
    (by decide +kernel) (Text.toNat_lt_of_isAlphanum h)
  simpa [h] using hall

/-- A word of ASCII letters and digits that is no keyword. -/
theorem isPlainWord_of_isAlpha {c : Char} {cs : List Char} (hc : c.isAlpha = true)
    (hcs : ∀ d ∈ cs, d.isAlphanum = true) (hkeyword : Keyword.ofText? (c :: cs) = none) :
    IsPlainWord (c :: cs) where
  isWord := by
    have hstart := Text.forall_ascii (p := fun c => !c.isAlpha || startsName c)
      (by decide +kernel) (Text.toNat_lt_of_isAlphanum (c := c) (by simp [Char.isAlphanum, hc]))
    exact ⟨c, cs, rfl, by simpa [hc] using hstart,
      fun d hd => continuesName_of_isAlphanum (hcs d hd)⟩
  starts d hd := by
    obtain rfl : c = d := by simpa using hd
    exact isTokenStart_of_isAlphanum (by simp [Char.isAlphanum, hc])
  ofWord := by rw [Token.ofWord, hkeyword]

/-- The word of a key is a plain one. -/
theorem IsKeyWord.isPlainWord {key : List Char} (h : IsKeyWord key) : IsPlainWord key := by
  obtain ⟨c, cs, rfl, hc, hcs⟩ := h
  have hlower : c.isLower = false := by
    have hall := Text.forall_ascii (p := fun c => !c.isUpper || !c.isLower) (by decide +kernel)
      (Text.toNat_lt_of_isAlphanum (c := c) (by simp [Char.isAlphanum, Char.isAlpha, hc]))
    simpa [hc] using hall
  exact isPlainWord_of_isAlpha (by simp [Char.isAlpha, hc]) hcs
    (Keyword.ofText?_eq_none (by simpa using hlower))

variable {comments : List (List Char)} {pending : Nat}

/-- The cursor at a word that is no keyword. -/
theorem IsPlainWord.enter_eq {word rest : List Char} (h : IsPlainWord word)
    (hstop : Text.Stops goesOn rest) :
    Cursor.enter comments pending (word ++ rest) =
      ⟨.name word, false, rest, comments, pending⟩ := by
  rw [Cursor.enter_word h.isWord h.starts hstop, h.ofWord]

/-- Keys separated by commas, up to the closing brace. -/
def writeKeys (rest : List Char) : List (List Char) → List Char
  | [] => '\x7d' :: rest
  | [key] => key ++ '\x7d' :: rest
  | key :: keys => key ++ ',' :: writeKeys rest keys

variable (comments pending) in
/-- The keys of an object are read one after the other. -/
theorem grammar_objectItems {x : Context} {keys : List (List Char)}
    (hkeys : ∀ key ∈ keys, IsKeyWord key) (rest : List Char) (n : Nat) (items : List Shape) :
    ∃ s, grammar (n + keys.length + 1) x (.objectItems items)
      (Cursor.enter comments pending (writeKeys rest keys)) =
        some (.object s, Cursor.enter comments pending rest) := by
  induction keys generalizing items with
  | nil =>
    refine ⟨items, ?_⟩
    rw [grammar_succ, rule]
    rw [writeKeys, Cursor.enter_sign (s := .closeBrace) (by decide)]
    rfl
  | cons key keys ih =>
    have hkey := hkeys key (by simp)
    have hname (next : List Char) (hstop : Text.Stops goesOn next) :
        Cursor.enter comments pending (key ++ next) =
          ⟨.name key, false, next, comments, pending⟩ := hkey.isPlainWord.enter_eq hstop
    rw [grammar_succ, rule]
    cases keys with
    | nil =>
      refine ⟨items ++ [.name key], ?_⟩
      rw [writeKeys, hname _ (Text.stops_cons (by decide) _)]
      have hnext := Cursor.enter_sign (c := '\x7d') (s := .closeBrace) (by decide) comments pending
        rest
      simp [objectItemsRule, Cursor.isAt, readObjectMember, isAsyncMember, Cursor.isAtWord,
        accessorAt?, readPlainMember, readOpenName, readMemberName, Token.word?, Cursor.next,
        hnext, Token.nameIn?, Cursor.take?]
    | cons key' keys =>
      obtain ⟨s, hs⟩ := ih (fun k hk => hkeys k (List.mem_cons_of_mem _ hk))
        (items ++ [.name key])
      refine ⟨s, ?_⟩
      have hwrite : writeKeys rest (key :: key' :: keys) =
          key ++ ',' :: writeKeys rest (key' :: keys) := rfl
      rw [hwrite, hname _ (Text.stops_cons (by decide) _)]
      have hnext := Cursor.enter_sign (c := ',') (s := .comma) (by decide) comments pending
        (writeKeys rest (key' :: keys))
      have hdepth : n + (key :: key' :: keys).length = n + (key' :: keys).length + 1 := by
        simp only [List.length_cons]
        omega
      rw [hdepth]
      simpa [objectItemsRule, Cursor.isAt, readObjectMember, isAsyncMember, Cursor.isAtWord,
        accessorAt?, readPlainMember, readOpenName, readMemberName, Token.word?, Cursor.next,
        hnext, Token.nameIn?, Shape.followed] using hs

/-! ## Ends of statements -/

/-- The tokens that a line starts with here. -/
def Token.startsLine : Token → Bool
  | .keyword .var => true
  | .keyword .import_ => true
  | .name _ => true
  | .finish => true
  | _ => false

/-- A cursor at the start of a line, or at the end of the script. -/
structure Cursor.AtLine (c : Cursor) : Prop where
  starts : c.token.startsLine = true
  ends : c.onNewLine = true ∨ c.token = .finish

namespace Cursor.AtLine

variable {c : Cursor}

/-- The beginning of a line ends an operand. -/
theorem endsOperand (h : c.AtLine) : c.token.endsOperand = true := by
  have hstarts := h.starts
  unfold Token.startsLine at hstarts
  split at hstarts <;> simp_all [Token.endsOperand]

/-- The beginning of a line is no sign. -/
theorem isAt_eq_false (h : c.AtLine) (sign : Sign) : c.isAt sign = false := by
  rw [isAt, beq_eq_false_iff_ne]
  intro heq
  have hstarts := h.starts
  simp [heq, Token.startsLine] at hstarts

/-- The beginning of a line is none of the other keywords. -/
theorem isAtWord_eq_false (h : c.AtLine) {k : Keyword}
    (hk : (Token.keyword k).startsLine = false) : c.isAtWord k = false := by
  rw [isAtWord, beq_eq_false_iff_ne]
  intro heq
  have hstarts := h.starts
  simp [heq, hk] at hstarts

/-- A statement ends in front of a new line. -/
theorem endStatement?_eq (h : c.AtLine) : c.endStatement? = some c := by
  have hends : (c.onNewLine || c.isAt .closeBrace || c.token == .finish) = true := by
    rcases h.ends with hline | hfinish
    · simp [hline]
    · simp [hfinish]
  rw [endStatement?, h.isAt_eq_false, hends]
  rfl

end Cursor.AtLine

/-- Brackets allow nothing more than a whole script. -/
@[simp] theorem bracketed_top : Context.top.bracketed = .top := rfl

/-! ## Calls -/

/-- The binding that holds the component. -/
def componentName : List Char :=
  ['c', 'o', 'm', 'p', 'o', 'n', 'e', 'n', 't']

theorem isPlainWord_componentName : IsPlainWord componentName :=
  isPlainWord_of_isAlpha (by decide) (by decide) (by decide)

/-- The arguments of a registration call, behind its opening parenthesis. -/
def writeArguments (rest : List Char) (keys : List (List Char)) : List Char :=
  componentName ++ ',' :: ' ' :: '\x7b' :: writeKeys (')' :: rest) keys

variable (comments pending) in
/-- The arguments of a registration call are read up to the closing parenthesis. -/
theorem grammar_arguments {x : Context} {keys : List (List Char)}
    (hkeys : ∀ key ∈ keys, IsKeyWord key) (rest : List Char) (n : Nat) :
    ∃ s, grammar (n + keys.length + 8) x (.arguments [])
      (Cursor.enter comments pending (writeArguments rest keys)) =
        some (s, Cursor.enter comments pending rest) := by
  obtain ⟨members, hmembers⟩ :=
    grammar_objectItems comments pending (x := x.bracketed) hkeys (')' :: rest) n []
  have hclose := Cursor.enter_sign (c := ')') (s := .closeParen) (by decide) comments pending rest
  have hopen := Cursor.enter_sign (c := '\x7b') (s := .openBrace) (by decide) comments pending
    (writeKeys (')' :: rest) keys)
  have hcomma := Cursor.enter_sign (c := ',') (s := .comma) (by decide) comments pending
    (' ' :: '\x7b' :: writeKeys (')' :: rest) keys)
  have hname : Cursor.enter comments pending (writeArguments rest keys) =
      ⟨.name componentName, false, ',' :: ' ' :: '\x7b' :: writeKeys (')' :: rest) keys, comments,
        pending⟩ := by
    exact isPlainWord_componentName.enter_eq (Text.stops_cons (by decide) _)
  -- The object is the second argument.
  have hobject : grammar (n + keys.length + 6) x .assignment
      (Cursor.enter comments pending ('\x7b' :: writeKeys (')' :: rest) keys)) =
        some (.object members, Cursor.enter comments pending (')' :: rest)) := by
    apply grammar_assignment_of_primary (n := n + keys.length + 1)
    · rw [hopen]
      rfl
    · rw [grammar_succ, rule]
      rw [hopen]
      simpa [primaryRule, Cursor.next] using hmembers
    · rw [hclose]
      rfl
  have hsecond : grammar (n + keys.length + 7) x (.arguments [Shape.name componentName])
      (Cursor.enter comments pending ('\x7b' :: writeKeys (')' :: rest) keys)) =
        some (.group [.name componentName, .object members],
          Cursor.enter comments pending rest) := by
    rw [grammar_succ, rule]
    rw [hopen] at hobject ⊢
    simp [argumentsRule, readItem, Cursor.isAt, hobject, hclose, Cursor.take?, Cursor.next]
  have hfirst : grammar (n + keys.length + 7) x .assignment
      (Cursor.enter comments pending (writeArguments rest keys)) =
        some (.name componentName, Cursor.enter comments pending
          (',' :: ' ' :: '\x7b' :: writeKeys (')' :: rest) keys)) := by
    apply grammar_assignment_of_primary (n := n + keys.length + 2)
    · rw [hname]
      rfl
    · have htoken : (Cursor.enter comments pending (writeArguments rest keys)).token =
          .name componentName := by rw [hname]
      rw [grammar_primary_name _ htoken, hname]
      rfl
    · rw [hcomma]
      rfl
  refine ⟨.group [.name componentName, .object members], ?_⟩
  rw [grammar_succ, rule]
  rw [hname] at hfirst ⊢
  simp [argumentsRule, readItem, Cursor.isAt, hfirst, hcomma, Cursor.next, Shape.followed, hsecond]

/-- A registration call is read as a statement, in front of a new line. -/
theorem readItem?_call {keys : List (List Char)} (hkeys : ∀ key ∈ keys, IsKeyWord key)
    (f : List Char) (hasLineEnd : Bool) (rest : List Char) (n : Nat)
    (hline : (Cursor.enter comments pending rest).AtLine) :
    readItem? (grammar (n + keys.length + 15))
      ⟨.name f, hasLineEnd, '(' :: writeArguments rest keys, comments, pending⟩ =
        some ([], [], Cursor.enter comments pending rest) := by
  obtain ⟨s, harguments⟩ := grammar_arguments comments pending (x := .top) hkeys rest n
  have hopen := Cursor.enter_sign (c := '(') (s := .openParen) (by decide) comments pending
    (writeArguments rest keys)
  have hcall : grammar (n + keys.length + 9) .top (.suffix true (.name f))
      (Cursor.enter comments pending ('(' :: writeArguments rest keys)) =
        some (.value, Cursor.enter comments pending rest) := by
    have hend := grammar_suffix (x := .top) (n + keys.length + 7) true
      ((Shape.name f).part .value) hline.endsOperand
    rw [grammar_succ, rule]
    rw [hopen]
    simpa [suffixRule, Cursor.next, harguments, Shape.part] using hend
  have hassignment : grammar (n + keys.length + 13) .top .assignment
      ⟨.name f, hasLineEnd, '(' :: writeArguments rest keys, comments, pending⟩ =
        some (.value, Cursor.enter comments pending rest) :=
    grammar_assignment (n := n + keys.length + 8) rfl (grammar_primary_name _ rfl) hcall
      hline.endsOperand
  have hexpression : grammar (n + keys.length + 14) .top .expression
      ⟨.name f, hasLineEnd, '(' :: writeArguments rest keys, comments, pending⟩ =
        some (.value, Cursor.enter comments pending rest) := by
    rw [grammar_succ, rule]
    simp [expressionRule, hassignment, hline.isAt_eq_false]
  have hstatement : grammar (n + keys.length + 15) .top (.statement false)
      ⟨.name f, hasLineEnd, '(' :: writeArguments rest keys, comments, pending⟩ =
        some (.value, Cursor.enter comments pending rest) := by
    rw [grammar_succ, rule]
    simp [statementRule, Token.nameIn?, Cursor.next, hopen, Cursor.isAt, readExpressionStatement,
      hexpression, hline.endStatement?_eq]
  simp [readItem?, Cursor.isAtWord, hstatement]

/-! ## Declarations -/

/-- The literals that a variable is declared with here. -/
def Token.isLiteral : Token → Bool
  | .string _ => true
  | .template piece => piece.isLast && piece.isValid
  | _ => false

/-- A literal is a whole expression in front of a token that ends it. -/
theorem grammar_assignment_literal {x : Context} {c : Cursor} (n : Nat)
    (h : c.token.isLiteral = true) (hend : c.next.token.endsOperand = true) :
    grammar (n + 6) x .assignment c = some (.value, c.next) := by
  cases htoken : c.token with
  | string text =>
    exact grammar_assignment_of_primary (n := n + 1) (by rw [htoken]; rfl)
      (grammar_primary_string _ htoken) hend
  | template piece =>
    obtain ⟨isLast, isValid⟩ := piece
    simp only [htoken, Token.isLiteral, Bool.and_eq_true] at h
    obtain ⟨rfl, rfl⟩ := h
    exact grammar_assignment_of_primary (n := n + 1) (by rw [htoken]; rfl)
      (grammar_primary_template _ htoken) hend
  | _ => simp [htoken, Token.isLiteral] at h

/-- The rest of a declaration behind its first word. -/
def writeDeclared (name literal rest : List Char) : List Char :=
  ' ' :: (name ++ ' ' :: '=' :: ' ' :: (literal ++ ';' :: rest))

/-- A declaration is read up to its semicolon. -/
theorem readItem?_declaration {name literal : List Char} {token : Token}
    (hname : IsPlainWord name) (htoken : token.isLiteral = true) (hasLineEnd : Bool)
    (rest : List Char)
    (hliteral : Cursor.enter comments pending (literal ++ ';' :: rest) =
      ⟨token, false, ';' :: rest, comments, pending⟩) (n : Nat) :
    readItem? (grammar (n + 8))
      ⟨.keyword .var, hasLineEnd, writeDeclared name literal rest, comments, pending⟩ =
        some ([], [], Cursor.enter comments pending rest) := by
  have hsemicolon := Cursor.enter_sign (c := ';') (s := .semicolon) (by decide) comments pending
    rest
  have hvalue : grammar (n + 6) .top .assignment
      (Cursor.enter comments pending (literal ++ ';' :: rest)) =
        some (.value, Cursor.enter comments pending (';' :: rest)) := by
    have hnext : (Cursor.enter comments pending (literal ++ ';' :: rest)).next =
        Cursor.enter comments pending (';' :: rest) := by
      rw [hliteral]
      rfl
    rw [grammar_assignment_literal n (by rw [hliteral]; exact htoken)
      (by rw [hnext, hsemicolon]; rfl), hnext]
  have hassign : Cursor.enter comments pending (' ' :: '=' :: ' ' :: (literal ++ ';' :: rest)) =
      ⟨.sign .assign, false, ' ' :: (literal ++ ';' :: rest), comments, pending⟩ := by
    rw [Cursor.enter_space]
    exact Cursor.enter_of_isTokenStart (by decide) comments pending (readToken_assign _)
  have hword : Cursor.enter comments pending (writeDeclared name literal rest) =
      ⟨.name name, false, ' ' :: '=' :: ' ' :: (literal ++ ';' :: rest), comments, pending⟩ := by
    rw [writeDeclared, Cursor.enter_space]
    exact hname.enter_eq (Text.stops_cons (by decide) _)
  have hbinding : grammar (n + 6) .top .binding
      (Cursor.enter comments pending (writeDeclared name literal rest)) =
        some (.name name, Cursor.enter comments pending
          (' ' :: '=' :: ' ' :: (literal ++ ';' :: rest))) := by
    rw [grammar_succ, rule, hword]
    rfl
  have hdeclarators : grammar (n + 7) .top (.declarators [])
      (Cursor.enter comments pending (writeDeclared name literal rest)) =
        some (.group [.assigned (.name name)],
          Cursor.enter comments pending (';' :: rest)) := by
    rw [grammar_succ, rule]
    simp [declaratorsRule, hbinding, hassign, Cursor.isAt, Cursor.next, hvalue, hsemicolon]
  have hstatement : grammar (n + 8) .top (.statement false)
      ⟨.keyword .var, hasLineEnd, writeDeclared name literal rest, comments, pending⟩ =
        some (.group [.assigned (.name name)], Cursor.enter comments pending rest) := by
    rw [grammar_succ, rule]
    have hreserved : Keyword.isReserved .var = true := rfl
    simp [statementRule, Token.nameIn?, hreserved, readWordStatement, readReservedStatement,
      readDeclaration, Cursor.next, hdeclarators, Shape.items, Shape.isComplete, hsemicolon,
      Cursor.endStatement?, Cursor.isAt]
  simp [readItem?, Cursor.isAtWord, hstatement]

end TemplateImports.Script
