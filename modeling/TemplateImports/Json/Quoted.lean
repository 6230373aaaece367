import TemplateImports.Text.CodeUnit

/-!
# Quoted strings

The written form of a text in a data file: between double quotes, with escapes for the quote, the
backslash and the control characters.  Reading also accepts the escapes that writing never uses, and
characters outside the basic plane written as a pair of escapes.

Main results:

- Definitions `quote` and `decode?` write and read a text.
- Theorem `decode?_encode` says that reading gives back what was written.
-/

namespace TemplateImports.Json.Quoted

open TemplateImports.Text

/-! ## Writing -/

/-- A control character, which must not stand in a quoted text. -/
def isControl (c : Char) : Bool :=
  c.toNat < 0x20

/-- The hexadecimal digit of a number below sixteen. -/
def hexDigit (n : Nat) : Char :=
  if n < 10 then Char.ofNat (48 + n) else Char.ofNat (87 + n)

/-- The escape of a control character, which is below U+0020. -/
def controlEscape (c : Char) : List Char :=
  match c with
  | '\x08' => ['\\', 'b']
  | '\x09' => ['\\', 't']
  | '\x0a' => ['\\', 'n']
  | '\x0c' => ['\\', 'f']
  | '\x0d' => ['\\', 'r']
  | c => ['\\', 'u', '0', '0', hexDigit (c.toNat / 16), hexDigit (c.toNat % 16)]

/-- The written form of a character. -/
def escape (c : Char) : List Char :=
  if c == '"' then ['\\', '"']
  else if c == '\\' then ['\\', '\\']
  else if isControl c then controlEscape c
  else [c]

/-- The written form of a text, without its quotes. -/
def encode : List Char → List Char
  | [] => []
  | c :: cs => escape c ++ encode cs

/-- The written form of a text. -/
def quote (s : String) : List Char :=
  '"' :: encode s.toList ++ ['"']

/-! ## Reading -/

/-- The number that four hexadecimal digits denote. -/
def hexNumber? (a b c d : Char) : Option Nat :=
  match hexValue? a, hexValue? b, hexValue? c, hexValue? d with
  | some a, some b, some c, some d => some (((a * 16 + b) * 16 + c) * 16 + d)
  | _, _, _, _ => none

/-- The character that an escape of one letter stands for. -/
def shortEscape? (c : Char) : Option Char :=
  match c with
  | '"' => some '"'
  | '\\' => some '\\'
  | '/' => some '/'
  | 'b' => some '\x08'
  | 'f' => some '\x0c'
  | 'n' => some '\n'
  | 'r' => some '\r'
  | 't' => some '\t'
  | _ => none

/-- Reads an escape after its backslash, with the rest after it. -/
def readEscape? (cs : List Char) : Option (Char × List Char) :=
  match cs with
  | [] => none
  | k :: rest =>
    if k == 'u' then
      match rest with
      | a :: b :: c :: d :: rest =>
        match hexNumber? a b c d with
        | none => none
        | some n =>
          if isTrailing n then none
          else if isLeading n then
            match rest with
            | '\\' :: 'u' :: e :: f :: g :: h :: rest =>
              match hexNumber? e f g h with
              | none => none
              | some m =>
                if isTrailing m then
                  some (ofPair n m, rest)
                else none
            | _ => none
          else some (Char.ofNat n, rest)
      | _ => none
    else (shortEscape? k).map fun c => (c, rest)

theorem length_readEscape?_lt {cs rest : List Char} {c : Char}
    (h : readEscape? cs = some (c, rest)) : rest.length < cs.length := by
  unfold readEscape? at h
  repeat' split at h
  all_goals
    simp only [Option.some.injEq, Prod.mk.injEq, reduceCtorEq, Option.map_eq_some_iff] at h
  · rw [← h.2]
    simp only [List.length_cons]
    omega
  · rw [← h.2]
    simp only [List.length_cons]
    omega
  · obtain ⟨_, _, _, h⟩ := h
    rw [← h]
    simp

/-- Reads a quoted text after its opening quote, with the rest after its closing quote. -/
def decode? : List Char → Option (List Char × List Char)
  | [] => none
  | c :: cs =>
    if c == '"' then some ([], cs)
    else if c == '\\' then
      match _h : readEscape? cs with
      | none => none
      | some (e, rest) => (decode? rest).map fun (text, rest) => (e :: text, rest)
    else if isControl c then none
    else (decode? cs).map fun (text, rest) => (c :: text, rest)
termination_by cs => cs.length
decreasing_by
  · have := length_readEscape?_lt ‹_›
    simp only [List.length_cons]
    omega
  · simp

/-- The text after an escape, whose backslash was read, whether or not it stands for a character. -/
def skipEscape? (cs : List Char) : Option (List Char) :=
  match cs with
  | 'u' :: a :: b :: c :: d :: rest => (hexNumber? a b c d).map fun _ => rest
  | k :: rest => (shortEscape? k).map fun _ => rest
  | [] => none

/-- The text after a quoted text of which `n` bounds the length, whether or not its escapes stand for
characters. -/
def skip? : Nat → List Char → Option (List Char)
  | 0, _ => none
  | _ + 1, [] => none
  | n + 1, c :: cs =>
    if c == '"' then some cs
    else if c == '\\' then (skipEscape? cs).bind (skip? n)
    else if isControl c then none
    else skip? n cs

/-! ## Writing and reading -/

theorem hexNumber?_hexDigit :
    ∀ n < 32, hexNumber? '0' '0' (hexDigit (n / 16)) (hexDigit (n % 16)) = some n := by
  decide

/-- Every escape is a backslash and a text that reads back as the character. -/
theorem readEscape?_escape {c : Char} (h : escape c ≠ [c]) (cs : List Char) :
    ∃ body, escape c = '\\' :: body ∧ readEscape? (body ++ cs) = some (c, cs) := by
  unfold escape at h ⊢
  split
  · rename_i hc
    simp only [beq_iff_eq] at hc
    subst hc
    exact ⟨['"'], rfl, rfl⟩
  · split
    · rename_i hc
      simp only [beq_iff_eq] at hc
      subst hc
      exact ⟨['\\'], rfl, rfl⟩
    · split
      · rename_i hcontrol
        unfold controlEscape
        split
        · exact ⟨['b'], rfl, rfl⟩
        · exact ⟨['t'], rfl, rfl⟩
        · exact ⟨['n'], rfl, rfl⟩
        · exact ⟨['f'], rfl, rfl⟩
        · exact ⟨['r'], rfl, rfl⟩
        · refine ⟨_, rfl, ?_⟩
          have hnum := hexNumber?_hexDigit c.toNat (by simpa [isControl] using hcontrol)
          simp [readEscape?, hnum, not_isLeading_toNat]
      · simp_all

/-- Reading gives back what was written. -/
theorem decode?_encode (s cs : List Char) :
    decode? (encode s ++ '"' :: cs) = some (s, cs) := by
  induction s with
  | nil =>
    rw [encode, List.nil_append, decode?]
    simp
  | cons c s ih =>
    rw [encode, List.append_assoc]
    by_cases h : escape c = [c]
    · have hquote : (c == '"') = false := by
        by_cases hc : c = '"'
        · subst hc
          exact absurd h (by decide)
        · simpa using hc
      have hbackslash : (c == '\\') = false := by
        by_cases hc : c = '\\'
        · subst hc
          exact absurd h (by decide)
        · simpa using hc
      have hcontrol : isControl c = false := by
        by_cases hc : isControl c = true
        · exfalso
          have hlen : 2 ≤ (escape c).length := by
            unfold escape controlEscape
            simp only [hquote, hbackslash, hc, Bool.false_eq_true, ↓reduceIte]
            split <;> simp
          rw [h] at hlen
          simp at hlen
        · simpa using hc
      rw [h, List.singleton_append, decode?]
      simp [hquote, hbackslash, hcontrol, ih]
    · obtain ⟨body, hbody, hread⟩ := readEscape?_escape h (encode s ++ '"' :: cs)
      rw [hbody, List.cons_append, decode?]
      simp only [show ('\\' == '"') = false from rfl, Bool.false_eq_true, ↓reduceIte, beq_self_eq_true]
      split
      · simp_all
      · simp_all

end TemplateImports.Json.Quoted
