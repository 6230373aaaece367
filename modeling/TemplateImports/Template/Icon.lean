/-!
# Icons in attribute values

An attribute value such as `$getIcon('mdi-home')` asks for an icon by its name.

Main results:

- Definition `icon?` finds the name of the icon in an attribute value.
- Theorem `beforeLast_isSome_iff` says that a text has a last place as soon as it has any.
-/

namespace TemplateImports.Template

/-- The text before the last place at which the rest of the text satisfies a test. -/
def beforeLast (test : List Char → Bool) : List Char → Option (List Char)
  | [] => none
  | c :: cs =>
    match beforeLast test cs with
    | some before => some (c :: before)
    | none => if test (c :: cs) then some [] else none

/-- There is a last place exactly when there is some place. -/
theorem beforeLast_isSome_iff {test : List Char → Bool} {cs : List Char} :
    (beforeLast test cs).isSome ↔
      ∃ before c after, cs = before ++ c :: after ∧ test (c :: after) = true := by
  induction cs with
  | nil => simp [beforeLast]
  | cons c cs ih =>
    unfold beforeLast
    cases h : beforeLast test cs with
    | some before =>
      simp only [Option.isSome_some, true_iff]
      obtain ⟨b, d, a, rfl, ht⟩ := ih.1 (by simp [h])
      exact ⟨c :: b, d, a, rfl, ht⟩
    | none =>
      constructor
      · intro hs
        exact ⟨[], c, cs, rfl, by simpa using hs⟩
      · rintro ⟨b, d, a, hcs, ht⟩
        cases b with
        | nil =>
          simp only [List.nil_append, List.cons.injEq] at hcs
          simp [hcs.1, hcs.2, ht]
        | cons _ b =>
          simp only [List.cons_append, List.cons.injEq] at hcs
          simpa [h] using ih.2 ⟨b, d, a, hcs.2, ht⟩

/-- Whether a text starts with the end of an icon's name: a double quote, or a single quote before a
closing parenthesis. -/
def endsIconName (cs : List Char) : Bool :=
  ['"'].isPrefixOf cs || ['\x27', ')'].isPrefixOf cs

/-- The opening of a value that asks for an icon. -/
def iconOpening : List Char :=
  "$getIcon(".toList

/-- The name of the icon that an attribute value asks for: the text behind the opening quote, up to
the last end on the same line. -/
def icon? (value : String) : Option String :=
  let cs := value.toList
  if iconOpening.isPrefixOf cs then
    match cs.drop iconOpening.length with
    | quote :: rest =>
      if quote == '"' || quote == '\x27' then
        match beforeLast endsIconName (rest.takeWhile (· != '\n')) with
        | some name => if name.isEmpty then none else some (String.ofList name)
        | none => none
      else none
    | [] => none
  else none

end TemplateImports.Template
