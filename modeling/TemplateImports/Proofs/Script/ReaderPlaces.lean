import TemplateImports.Proofs.Script.Rests

/-!
# Where readers stand

Whatever a reader of the grammar does, its cursor stays in the text that is read.  Each rule keeps
this if the reader that it is given does, and so does the grammar by induction on the depth of its
phrases.

Main results:

- Definition `ReadsWithin` says that a reader stays in a text; theorem `grammar_readsWithin` says so
  of the grammar.
- Theorem `suffix_of_mem_comments` says that the comments of a script are ends of its text.
-/

namespace TemplateImports.Script

open Cursor (Stays StaysWith)

/-- A reader that starts in a text stays in it. -/
def ReadsWithin (source : List Char) (read : Reader) : Prop :=
  ∀ ⦃x : Context⦄ ⦃goal : Goal⦄ ⦃c : Cursor⦄, c.Within source → StaysWith source (read x goal c)

variable {source : List Char} {read : Reader} {x : Context} {c : Cursor}

/-- A cursor that may go on by one token. -/
theorem Cursor.Within.ite_next (h : c.Within source) (b : Prop) [Decidable b] :
    (if b then c.next else c).Within source := by
  split
  · exact h.next
  · exact h

/-- An expression in parentheses is read within the text. -/
theorem readCondition_stays (hread : ReadsWithin source read) (h : c.Within source) :
    Stays source (readCondition read x c) :=
  (h.take? _).bind fun _ h => (hread h).bind fun _ h => h.take? _

/-- A block in braces is read within the text. -/
theorem readBlock_stays (hread : ReadsWithin source read) (h : c.Within source) :
    Stays source (readBlock read x c) :=
  (h.take? _).bind fun _ h => (hread h).bind fun _ h => .some h

/-! ## Patterns -/

/-- The name of a member is one token, or an expression in brackets. -/
theorem readMemberName_stays (hread : ReadsWithin source read) (h : c.Within source) :
    StaysWith source (readMemberName read x c) := by
  unfold readMemberName
  split
  · exact .some h.next
  · exact .some h.next
  · exact .some h.next
  · exact (hread h.next).bind fun _ h => (h.take? _).bind fun _ h => .some h
  · exact .map_any fun _ => h.next

/-- A default value is read only where there is an equals sign. -/
theorem readDefault_stays (hread : ReadsWithin source read) (h : c.Within source) :
    StaysWith source (readDefault read x c) :=
  (hread h).bind fun _ h => .ite ((hread h.next).bind fun _ h => .some h) (.some h)

/-- A binding is a name, or a pattern in brackets or braces. -/
theorem bindingRule_stays (hread : ReadsWithin source read) (h : c.Within source) :
    StaysWith source (bindingRule read x c) := by
  unfold bindingRule
  split
  · exact hread h.next
  · exact hread h.next
  · exact .map_any fun _ => h.next

/-- The end of a list: another item behind a comma, or the closing sign. -/
theorem readFurther_stays {goal : Goal} {s : Shape} (hread : ReadsWithin source read)
    (h : c.Within source) (closing : Sign) :
    StaysWith source (if c.isAt .comma then read x goal c.next
      else (c.take? closing).bind fun c => some (s, c)) :=
  .ite (hread h.next) ((h.take? _).bind fun _ h => .some h)

/-- Each element of an array pattern leaves the cursor in the text, and so does a gap. -/
theorem arrayPatternRule_stays (items : List Shape) (hread : ReadsWithin source read)
    (h : c.Within source) : StaysWith source (arrayPatternRule items read x c) := by
  refine .ite (.some h.next) (.ite (hread h.next) (.ite ?_ ?_))
  · exact (hread h.next).bind fun _ h => (h.take? _).bind fun _ h => .some h
  · exact (readDefault_stays hread h).bind fun _ h => readFurther_stays hread h _

/-- A member of an object pattern is shorthand, or has a binding behind a colon. -/
theorem readPatternMember_stays (hread : ReadsWithin source read) (h : c.Within source) :
    StaysWith source (readPatternMember read x c) := by
  refine (readMemberName_stays hread h).bind fun ⟨name, after⟩ h => ?_
  cases name with
  | hidden => exact .none
  | _ =>
    refine .ite (readDefault_stays hread h.next) (.bind_any fun _ => .ite ?_ (.some h))
    exact (hread h.next).bind fun _ h => .some h

/-- Each member of an object pattern leaves the cursor in the text. -/
theorem objectPatternRule_stays (items : List Shape) (hread : ReadsWithin source read)
    (h : c.Within source) : StaysWith source (objectPatternRule items read x c) := by
  refine .ite (.some h.next) (.ite (.bind_any fun _ => ?_) ?_)
  · exact (h.next.next.take? _).bind fun _ h => .some h
  · exact (readPatternMember_stays hread h).bind fun _ h => readFurther_stays hread h _

/-- Each parameter of a function leaves the cursor in the text. -/
theorem parametersRule_stays (items : List Shape) (hread : ReadsWithin source read)
    (h : c.Within source) : StaysWith source (parametersRule items read x c) := by
  refine .ite (.some h.next) (.ite ?_ ?_)
  · exact (hread h.next).bind fun _ h => (h.take? _).bind fun _ h => .some h
  · exact (readDefault_stays hread h).bind fun _ h => readFurther_stays hread h _

/-- Each declared binding leaves the cursor in the text, with a value or without. -/
theorem declaratorsRule_stays (items : List Shape) (hread : ReadsWithin source read)
    (h : c.Within source) : StaysWith source (declaratorsRule items read x c) := by
  refine (hread h).bind fun ⟨s, c⟩ h => ?_
  have hvalue : StaysWith source
      ((read x .assignment c.next).map fun r => (Shape.assigned s, r.2)) :=
    (hread h.next).map fun _ h => h
  exact .ite (hvalue.bind fun _ h => .ite (hread h.next) (.some h))
    (.ite (hread h.next) (.some h))

/-! ## Functions, objects and classes -/

/-- A function is read within the text: its parameters, and then its body. -/
theorem functionRule_stays (isAsync isGenerator : Bool) (hread : ReadsWithin source read)
    (h : c.Within source) : StaysWith source (functionRule isAsync isGenerator read x c) :=
  (h.take? _).bind fun _ h => (hread h).bind fun _ h =>
    (readBlock_stays hread h).bind fun _ h => .some h

/-- A method is a function without a name of its own. -/
theorem readMethod_stays (isAsync isGenerator : Bool) (hread : ReadsWithin source read)
    (h : c.Within source) : Stays source (readMethod read x isAsync isGenerator c) :=
  (hread h).map fun _ h => h

/-- The function of an accessor is read within the text. -/
theorem readAccessor_stays (a : Accessor) (hread : ReadsWithin source read)
    (h : c.Within source) : Stays source (readAccessor read x a c) := by
  have hfunction : StaysWith source (read x (.function false false) c) := hread h
  unfold readAccessor
  split
  · rename_i hresult
    exact .ite (.some (hfunction _ hresult)) .none
  · exact .none

/-- A name of a member that is not hidden is read within the text. -/
theorem readOpenName_stays (hread : ReadsWithin source read) (h : c.Within source) :
    StaysWith source (readOpenName read x c) := by
  unfold readOpenName
  split
  · exact .none
  · exact readMemberName_stays hread h

/-- A plain member is a function, a value behind a colon or a name on its own. -/
theorem readPlainMember_stays (hread : ReadsWithin source read) (h : c.Within source) :
    StaysWith source (readPlainMember read x c) := by
  refine (readOpenName_stays hread h).bind fun ⟨_, after⟩ h => .ite ?_ (.ite (hread h.next) ?_)
  · exact (readMethod_stays false false hread h).bind fun _ h => .some h
  · refine .bind_any fun _ => .ite ?_ (.some h)
    exact (hread h.next).bind fun _ h => .some ⟨h.rest, h.comments⟩

/-- A member of an object is read within the text, a spread one as well. -/
theorem readObjectMember_stays (hread : ReadsWithin source read) (h : c.Within source) :
    StaysWith source (readObjectMember read x c) := by
  refine .ite ?_ (.ite ?_ ?_)
  · exact (readOpenName_stays hread h.next).bind fun _ h =>
      (readMethod_stays false true hread h).bind fun _ h => .some h
  · exact (readOpenName_stays hread (h.next.skipSign _)).bind fun _ h =>
      (readMethod_stays true _ hread h).bind fun _ h => .some h
  · split
    · exact (readOpenName_stays hread h.next).bind fun _ h =>
        (readAccessor_stays _ hread h).bind fun _ h => .some h
    · exact readPlainMember_stays hread h

/-- Each member of an object leaves the cursor in the text. -/
theorem objectItemsRule_stays (items : List Shape) (hread : ReadsWithin source read)
    (h : c.Within source) : StaysWith source (objectItemsRule items read x c) := by
  have hspread : StaysWith source
      ((read x .assignment c.next).map fun r => (r.1.spread true, r.2)) :=
    (hread h.next).map fun _ h => h
  exact .ite (.some h.next) (.ite (hspread.bind fun _ h => readFurther_stays hread h _)
    ((readObjectMember_stays hread h).bind fun _ h => readFurther_stays hread h _))

/-- A field of a class ends with its value, if it has one. -/
theorem readField_stays (hread : ReadsWithin source read) (h : c.Within source) :
    Stays source (readField read c) :=
  .ite ((hread h.next).bind fun _ h => h.endStatement?) h.endStatement?

/-- A member behind keywords is read within the text if what follows them is. -/
theorem readSpecialMember_stays (isStatic : Bool) {readBody : Cursor → Option Cursor}
    (hbody : ∀ c : Cursor, c.Within source → Stays source (readBody c))
    (hread : ReadsWithin source read) (h : c.Within source) :
    Stays source (readSpecialMember read x isStatic c readBody) :=
  (readMemberName_stays hread h).bind fun _ h => .ite (hbody _ h) .none

/-- A member of a class is read within the text, whatever keywords it has. -/
theorem readClassMember_stays (isStatic : Bool) (hread : ReadsWithin source read)
    (h : c.Within source) : Stays source (readClassMember read x isStatic c) := by
  refine .ite ?_ (.ite ?_ ?_)
  · exact readSpecialMember_stays isStatic (fun _ h => readMethod_stays _ _ hread h) hread h.next
  · exact readSpecialMember_stays isStatic (fun _ h => readMethod_stays _ _ hread h) hread
      (h.next.skipSign _)
  · split
    · exact readSpecialMember_stays isStatic (fun _ h => readAccessor_stays _ hread h) hread h.next
    · refine (readMemberName_stays hread h).bind fun ⟨name, c⟩ h => .ite ?_ ?_
      · exact .ite (readMethod_stays _ _ hread h) .none
      · exact .ite (readField_stays hread h) .none

/-- An item of a class is a static block or a member. -/
theorem readClassItem_stays (hread : ReadsWithin source read) (h : c.Within source) :
    Stays source (readClassItem read x c) := by
  have hstatic := h.ite_next ((c.isAtWord .static && !c.next.token.endsClassName) = true)
  exact .ite (readBlock_stays hread hstatic)
    (readClassMember_stays _ hread (hstatic.ite_next _))

/-- Each item of a class leaves the cursor in the text. -/
theorem classItemsRule_stays (hread : ReadsWithin source read) (h : c.Within source) :
    StaysWith source (classItemsRule read x c) := by
  refine .ite (.some h.next) (.ite (hread h.next) ?_)
  exact (hread h).bind fun _ h => (readClassItem_stays hread h).bind fun _ h => hread h

/-- What follows the name of a class is read within the text. -/
theorem classRestRule_stays (hread : ReadsWithin source read) (h : c.Within source) :
    StaysWith source (classRestRule read x c) := by
  have hbody {c : Cursor} (h : c.Within source) :
      StaysWith source ((c.take? .openBrace).bind fun c => read x.bracketed .classItems c) :=
    (h.take? _).bind fun _ h => hread h
  have hparent : Stays source ((read x .leftSide c.next).map (·.2)) :=
    (hread h.next).map fun _ h => h
  exact .ite (hparent.bind fun _ h => hbody h) (hbody h)

theorem decoratorsRule_stays (hread : ReadsWithin source read) (h : c.Within source) :
    StaysWith source (decoratorsRule read x c) :=
  .ite ((hread h.next).bind fun _ h => hread h) (.some h)

/-! ## Operators and assignments -/

/-- An operation is read from its first operand on. -/
theorem binaryRule_stays (least : Nat) (hread : ReadsWithin source read) (h : c.Within source) :
    StaysWith source (binaryRule least read x c) :=
  (hread h).bind fun _ h => hread h

/-- Each operator that binds tightly enough adds an operand within the text. -/
theorem binaryRestRule_stays (least : Nat) (left : Shape) (hread : ReadsWithin source read)
    (h : c.Within source) : StaysWith source (binaryRestRule least left read x c) := by
  unfold binaryRestRule
  split
  · exact .some h
  · exact .ite (.some h) ((hread h.next).bind fun _ h => .bind_any fun _ => hread h)

/-- An operand behind a prefix operator is read within the text. -/
theorem readOperand_stays (hread : ReadsWithin source read) (h : c.Within source) :
    StaysWith source (readOperand read x c) :=
  (hread h).bind fun _ h => .ite .none (.some h)

theorem readChanged_stays (hread : ReadsWithin source read) (h : c.Within source) :
    StaysWith source (readChanged read x c) :=
  (hread h).bind fun _ h => .ite (.ite (.some h.next) .none) (.some h)

/-- Each prefix operator leaves the cursor in the text. -/
theorem unaryRule_stays (hread : ReadsWithin source read) (h : c.Within source) :
    StaysWith source (unaryRule read x c) := by
  have hoperand : StaysWith source (readOperand read x c.next) := readOperand_stays hread h.next
  unfold unaryRule
  split
  · exact hoperand
  · exact hoperand
  · exact (hread h.next).bind fun _ h => .ite (.some h) .none
  · exact .ite (.some h.next) .none
  · exact hoperand
  · exact hoperand
  · exact hoperand
  · exact .ite hoperand (.ite .none (readChanged_stays hread h))
  · exact readChanged_stays hread h

/-- An arrow function is read within the text from its parameters on. -/
theorem readArrow_stays (isAsync : Bool) (items : List Shape) (hread : ReadsWithin source read)
    (h : c.Within source) : StaysWith source (readArrow read x isAsync items c) :=
  .ite (hread (h.settle _).next) .none

/-- An asynchronous arrow function has one name or a list as its parameters. -/
theorem readAsyncArrow_stays (hread : ReadsWithin source read) (h : c.Within source) :
    StaysWith source (readAsyncArrow read x c) := by
  refine .ite .none ?_
  split
  · exact readArrow_stays _ _ hread h.next.next
  · exact (h.next.take? _).bind fun _ h => (hread h).bind fun _ h => readArrow_stays _ _ hread h

/-- An assignment is read within the text if a target precedes it. -/
theorem readAssigned_stays (s : Shape) (hread : ReadsWithin source read) (h : c.Within source) :
    StaysWith source (readAssigned read x s c) := by
  unfold readAssigned
  split
  · exact .ite ((hread (h.settle _).next).bind fun _ h => .some h) .none
  · exact .ite ((hread h.next).map fun _ h => h) .none
  · exact .ite ((hread h.next).map fun _ h => h) .none
  · exact (hread h.next).bind fun _ h => (h.take? _).bind fun _ h =>
      (hread h).bind fun _ h => .some h
  · exact .some h

/-- A yielded value may be missing. -/
theorem readYield_stays (hread : ReadsWithin source read) (h : c.Within source) :
    StaysWith source (readYield read x c) :=
  .ite (.some h) (.ite ((hread h.next).map fun _ h => h)
    (.ite (.some h) ((hread h).map fun _ h => h)))

/-- An assignment, an arrow function and a choice are read within the text. -/
theorem assignmentRule_stays (hread : ReadsWithin source read) (h : c.Within source) :
    StaysWith source (assignmentRule read x c) := by
  have hasync := readAsyncArrow_stays (x := x) hread h
  refine .ite (readYield_stays hread h.next) (.ite .none ?_)
  split
  · rename_i found hfound
    exact .some (hasync found hfound)
  · refine (hread h).bind fun ⟨s, c⟩ h => .ite ?_ (readAssigned_stays s hread h)
    cases s with
    | name => exact readArrow_stays _ _ hread h
    | group => exact readArrow_stays _ _ hread h
    | parameters => exact readArrow_stays _ _ hread h
    | _ => exact .none

theorem arrowBodyRule_stays (isAsync : Bool) (hread : ReadsWithin source read)
    (h : c.Within source) : StaysWith source (arrowBodyRule isAsync read x c) :=
  .ite ((readBlock_stays hread h).map fun _ h => h) ((hread h).map fun _ h => h)

/-- An expression is a list of assignments. -/
theorem expressionRule_stays (hread : ReadsWithin source read) (h : c.Within source) :
    StaysWith source (expressionRule read x c) :=
  (hread h).bind fun _ h => .ite ((hread h.next).bind fun _ h => .some h) (.some h)

/-! ## Members, calls and lists -/

/-- A member behind a question mark is read within the text. -/
theorem readChained_stays (hread : ReadsWithin source read) (h : c.Within source) :
    Stays source (readChained read x c) := by
  unfold readChained
  split
  · exact (hread h.next).map fun _ h => h
  · exact (hread h.next).bind fun _ h => h.take? _
  · exact .some h.next
  · exact .map_any fun _ => h.next

/-- Each member, call and template behind an expression leaves the cursor in the text. -/
theorem suffixRule_stays (calls : Bool) (base : Shape) (hread : ReadsWithin source read)
    (h : c.Within source) : StaysWith source (suffixRule calls base read x c) := by
  unfold suffixRule
  split
  · split
    · exact hread h.next.next
    · split
      · exact hread h.next.next
      · exact .none
  · exact (hread h.next).bind fun _ h => (h.take? _).bind fun _ h => hread h
  · exact .ite ((hread h.next).bind fun _ h => hread h) (.some h)
  · exact .ite ((readChained_stays hread h.next).bind fun _ h => hread h) (.some h)
  · split
    · exact .none
    · exact (hread h).bind fun _ h => hread h
  · exact .some h

theorem leftSideRule_stays (hread : ReadsWithin source read) (h : c.Within source) :
    StaysWith source (leftSideRule read x c) :=
  (hread h).bind fun _ h => hread h

theorem readItem_stays (hread : ReadsWithin source read) (h : c.Within source) :
    StaysWith source (readItem read x c) :=
  .ite ((hread h.next).map fun _ h => h) (hread h)

/-- Each argument of a call leaves the cursor in the text. -/
theorem argumentsRule_stays (items : List Shape) (hread : ReadsWithin source read)
    (h : c.Within source) : StaysWith source (argumentsRule items read x c) :=
  .ite (.some h.next) ((readItem_stays hread h).bind fun _ h => readFurther_stays hread h _)

/-- Each item in parentheses leaves the cursor in the text, also where they are parameters. -/
theorem groupRule_stays (items : List Shape) (hread : ReadsWithin source read)
    (h : c.Within source) : StaysWith source (groupRule items read x c) := by
  refine .ite (.some h.next) (.ite ?_ ?_)
  · exact (hread h.next).bind fun _ h => (h.take? _).bind fun _ h => .some h
  · exact (hread h).bind fun _ h => readFurther_stays hread h _

/-- Each item of an array leaves the cursor in the text. -/
theorem arrayItemsRule_stays (items : List Shape) (hread : ReadsWithin source read)
    (h : c.Within source) : StaysWith source (arrayItemsRule items read x c) :=
  .ite (.some h.next) (.ite (hread h.next)
    ((readItem_stays hread h).bind fun _ h => readFurther_stays hread h _))

/-- Each piece of a template literal leaves the cursor in the text. -/
theorem templateRule_stays (isTagged : Bool) (hread : ReadsWithin source read)
    (h : c.Within source) : StaysWith source (templateRule isTagged read x c) := by
  unfold templateRule
  split
  · refine .ite .none (.ite (.some h.next) ?_)
    exact (hread h.next).bind fun _ h => h.continueTemplate?.bind fun _ h => hread h
  · exact .none

/-! ## Innermost expressions -/

/-- An imported module is an expression in parentheses. -/
theorem readImportCall_stays (hread : ReadsWithin source read) (h : c.Within source) :
    StaysWith source (readImportCall read x c) := by
  refine (h.take? _).bind fun _ h => (hread h).bind fun _ h => .ite ?_ ?_
  · exact (hread h.next).bind fun _ h => ((h.skipSign _).take? _).bind fun _ h => .some h
  · exact ((h.skipSign _).take? _).bind fun _ h => .some h

/-- An import within an expression is a call, or the properties of the module. -/
theorem readImportExpression_stays (hread : ReadsWithin source read) (h : c.Within source) :
    StaysWith source (readImportExpression read x c) := by
  refine .ite ?_ (readImportCall_stays hread h)
  split
  · exact .ite (.some h.next.next) .none
  · exact readImportCall_stays hread h.next.next
  · exact readImportCall_stays hread h.next.next
  · exact .none

/-- What is constructed is read within the text, with its arguments. -/
theorem readNew_stays (hread : ReadsWithin source read) (h : c.Within source) :
    StaysWith source (readNew read x c) := by
  refine .ite (.ite (.some h.next.next) .none) (.ite .none ?_)
  refine (hread h).bind fun _ h => (hread h).bind fun _ h => .ite .none ?_
  exact .ite ((hread h.next).bind fun _ h => .some h) (.some h)

theorem readFunctionValue_stays (isAsync : Bool) (hread : ReadsWithin source read)
    (h : c.Within source) : StaysWith source (readFunctionValue read isAsync c) :=
  (hread ((h.skipSign _).ite_next _)).map fun _ h => h

theorem readClassValue_stays (hread : ReadsWithin source read) (h : c.Within source) :
    StaysWith source (readClassValue read x c) :=
  (hread (h.ite_next _)).map fun _ h => h

theorem readName_stays (h : c.Within source) : StaysWith source (readName x c) :=
  .map_any fun _ => h.next

/-- A keyword starts a value that is read within the text. -/
theorem readWordValue_stays (k : Keyword) (hread : ReadsWithin source read)
    (h : c.Within source) : StaysWith source (readWordValue read x k c) := by
  unfold readWordValue
  split
  · exact .some h.next
  · exact .some h.next
  · exact .some h.next
  · exact .some h.next
  · exact readFunctionValue_stays _ hread h.next
  · exact readClassValue_stays hread h.next
  · exact readNew_stays hread h.next
  · exact readImportExpression_stays hread h.next
  · exact .ite (.some h.next) .none
  · exact .ite (readFunctionValue_stays _ hread h.next.next) (readName_stays h)
  · exact readName_stays h

/-- Innermost expressions are read within the text. -/
theorem primaryRule_stays (hread : ReadsWithin source read) (h : c.Within source) :
    StaysWith source (primaryRule read x c) := by
  unfold primaryRule
  split
  · exact .some h.next
  · exact .some h.next
  · exact hread h
  · exact readWordValue_stays _ hread h
  · refine (hread h.next).bind fun ⟨s, c⟩ h => ?_
    cases s with
    | parameters => exact .ite (.some h) .none
    | _ => exact .some h
  · exact hread h.next
  · exact hread h.next
  · exact h.skipRegex?.map fun _ h => h
  · exact h.skipRegex?.map fun _ h => h
  · exact (hread h).bind fun _ h => (h.takeWord? _).bind fun _ h => readClassValue_stays hread h
  · exact readName_stays h

/-! ## Imports and exports -/

/-- Each attribute of an import leaves the cursor in the text. -/
theorem readAttributes_stays (n : Nat) (h : c.Within source) :
    Stays source (readAttributes n c) := by
  induction n generalizing c with
  | zero => exact .none
  | succ n ih =>
    refine .ite (.some h.next) (.ite ?_ .none)
    have hcolon := h.next.take? .colon
    split
    · exact .none
    · rename_i c' hc'
      have h' := hcolon c' hc'
      split
      · exact .ite (ih h'.next.next) (h'.next.take? _)
      · exact .none

/-- The name of a module is a string, perhaps with attributes. -/
theorem readModuleName_stays (h : c.Within source) : Stays source (readModuleName c) := by
  unfold readModuleName
  split
  · refine .ite ?_ h.next.endStatement?
    exact (h.next.next.take? _).bind fun _ h => (readAttributes_stays _ h).bind fun _ h =>
      h.endStatement?
  · exact .none

theorem readFrom_stays (h : c.Within source) : Stays source (readFrom c) :=
  (h.takeWord? _).bind fun _ h => readModuleName_stays h

/-- An imported name may be followed by its local one. -/
theorem readImportedName_stays (h : c.Within source) : StaysWith source (readImportedName x c) :=
  .ite (.map_any fun _ => h.next.next.next) (.map_any fun _ => h.next)

/-- Each name in an import list leaves the cursor in the text. -/
theorem readImportedNames_stays (n : Nat) (h : c.Within source) :
    StaysWith source (readImportedNames x n c) := by
  induction n generalizing c with
  | zero => exact .none
  | succ n ih =>
    have hname := readImportedName_stays (x := x) h
    refine .ite (.some h.next) ?_
    split
    · exact .none
    · rename_i text c' hc'
      have h' : c'.Within source := hname _ hc'
      exact .ite ((ih h'.next).map fun _ h => h) ((h'.take? _).map fun _ h => h)

/-- An import clause is a whole module under a name, or names in braces. -/
theorem readImportClause_stays (h : c.Within source) : StaysWith source (readImportClause x c) := by
  refine .ite ?_ ?_
  · exact (h.next.takeWord? _).bind fun _ h => .bind_any fun _ => .some h.next
  · exact (h.take? _).bind fun _ h => readImportedNames_stays _ h

/-- The word for the phase of an import is one token. -/
theorem skipImportPhase_within (h : c.Within source) : (skipImportPhase x c).Within source := by
  unfold skipImportPhase
  split_ifs
  · exact h.next
  · exact h.next
  · exact h

/-- An import is read within the text. -/
theorem readImport_stays (h : c.Within source) : StaysWith source (readImport x c) := by
  unfold readImport
  split
  · exact (readModuleName_stays h).map fun _ h => h
  · have hphase := skipImportPhase_within (x := x) h
    dsimp only
    split
    · refine .ite ?_ ((readFrom_stays hphase.next).map fun _ h => h)
      exact (readImportClause_stays hphase.next.next).bind fun _ h =>
        (readFrom_stays h).bind fun _ h => .some h
    · exact (readImportClause_stays hphase).bind fun _ h =>
        (readFrom_stays h).bind fun _ h => .some h

/-- Each name in an export list leaves the cursor in the text. -/
theorem readExportedNames_stays (n : Nat) (h : c.Within source) :
    StaysWith source (readExportedNames n c) := by
  induction n generalizing c with
  | zero => exact .none
  | succ n ih =>
    refine .ite (.some h.next) ?_
    have hlast : (if c.next.isAtWord .as then c.next.next else c).Within source := by
      split
      · exact h.next.next
      · exact h
    dsimp only
    split
    · exact .ite ((ih hlast.next.next).map fun _ h => h) ((hlast.next.take? _).map fun _ h => h)
    · exact .none

/-- The export of everything in a module is read within the text. -/
theorem readExportAll_stays (h : c.Within source) : StaysWith source (readExportAll c) := by
  refine .ite (.bind_any fun _ => ?_) ((readFrom_stays h).map fun _ h => h)
  exact (readFrom_stays h.next.next).bind fun _ h => .some h

theorem readExportNames_stays (h : c.Within source) : StaysWith source (readExportNames x c) := by
  refine (readExportedNames_stays _ h).bind fun _ h => .ite ?_ (.ite ?_ .none)
  · exact (readFrom_stays h).bind fun _ h => .some h
  · exact h.endStatement?.bind fun _ h => .some h

theorem readUnnamedFunction_stays (isAsync : Bool) (hread : ReadsWithin source read)
    (h : c.Within source) : Stays source (readUnnamedFunction read x isAsync c) :=
  (hread ((h.skipSign _).ite_next _)).map fun _ h => h

theorem readUnnamedClass_stays (hread : ReadsWithin source read) (h : c.Within source) :
    Stays source (readUnnamedClass read x c) :=
  (hread (h.ite_next _)).map fun _ h => h

/-- What is exported as the default is read within the text. -/
theorem readExportDefault_stays (hread : ReadsWithin source read) (h : c.Within source) :
    Stays source (readExportDefault read x c) := by
  refine .ite (readUnnamedFunction_stays _ hread h.next)
    (.ite (readUnnamedFunction_stays _ hread h.next.next) ?_)
  -- Without a class behind them, decorators are read once more as a part of the value.
  refine (hread h).bind fun _ hafter => .ite (readUnnamedClass_stays hread hafter.next) ?_
  exact (hread h).bind fun _ h => h.endStatement?

/-- An export is read within the text. -/
theorem readExport_stays (hread : ReadsWithin source read) (h : c.Within source) :
    StaysWith source (readExport read x c) := by
  refine .ite (readExportAll_stays h.next) (.ite (readExportNames_stays h.next) ?_)
  refine .ite ((readExportDefault_stays hread h.next).map fun _ h => h) (.ite ?_ .none)
  exact (hread h).map fun _ h => h

/-! ## Declarations and loops -/

/-- Declared variables are read within the text, and so is the end of the statement. -/
theorem readDeclaration_stays (needsValue : Bool) (hread : ReadsWithin source read)
    (h : c.Within source) : StaysWith source (readDeclaration read x needsValue c) :=
  (hread h).bind fun _ h => .ite (h.endStatement?.bind fun _ h => .some h) .none

theorem readFunctionDeclaration_stays (isAsync : Bool) (hread : ReadsWithin source read)
    (h : c.Within source) : StaysWith source (readFunctionDeclaration read x isAsync c) :=
  .bind_any fun _ => (hread (h.skipSign _).next).bind fun _ h => .some h

theorem readClassDeclaration_stays (hread : ReadsWithin source read) (h : c.Within source) :
    StaysWith source (readClassDeclaration read x c) :=
  .bind_any fun _ => (hread h.next).bind fun _ h => .some h

theorem readBody_stays (hread : ReadsWithin source read) (h : c.Within source) :
    StaysWith source (readBody read x c) :=
  (hread h).map fun _ h => h

/-- An optional expression in the head of a loop ends with a sign. -/
theorem readUpTo_stays (s : Sign) (hread : ReadsWithin source read) (h : c.Within source) :
    Stays source (readUpTo read x s c) :=
  .ite (.some h.next) ((hread h).bind fun _ h => h.take? _)

theorem readCounting_stays (hread : ReadsWithin source read) (h : c.Within source) :
    StaysWith source (readCounting read x c) :=
  (h.take? _).bind fun _ h => (readUpTo_stays _ hread h).bind fun _ h =>
    (readUpTo_stays _ hread h).bind fun _ h => readBody_stays hread h

/-- The head of a loop over items or keys is read within the text. -/
theorem readRanging_stays (overItems : Bool) (hread : ReadsWithin source read)
    (h : c.Within source) : StaysWith source (readRanging read x overItems c) :=
  (hread h).bind fun _ h => (h.take? _).bind fun _ h => readBody_stays hread h

/-- A loop whose head declares variables is read within the text. -/
theorem readForDeclaration_stays (isAwaited needsValue : Bool) (hread : ReadsWithin source read)
    (h : c.Within source) :
    StaysWith source (readForDeclaration read x isAwaited needsValue c) := by
  refine (hread h).bind fun _ h => .ite (readRanging_stays _ hread h.next) (.ite .none ?_)
  exact .ite (readRanging_stays _ hread h.next) (.ite (readCounting_stays hread h) .none)

/-- A loop whose head starts with an expression is read within the text. -/
theorem readForExpression_stays (isAwaited : Bool) (hread : ReadsWithin source read)
    (h : c.Within source) : StaysWith source (readForExpression read x isAwaited c) := by
  refine (hread h).bind fun _ h => .ite ?_ (.ite .none (.ite ?_ (readCounting_stays hread h)))
  · exact .ite .none (readRanging_stays _ hread (h.settle _).next)
  · exact .ite (readRanging_stays _ hread (h.settle _).next) .none

/-- A loop is read within the text, whichever form its head has. -/
theorem readFor_stays (hread : ReadsWithin source read) (h : c.Within source) :
    StaysWith source (readFor read x c) := by
  have hhead (isAwaited : Bool) {c : Cursor} (h : c.Within source) :
      StaysWith source ((c.take? .openParen).bind fun c =>
        if c.isAt .semicolon && !isAwaited then readCounting read x c
        else if c.isAtWord .var || (c.isAtWord .let_ && startsLet x c) then
          readForDeclaration read x isAwaited false c.next
        else if c.isAtWord .const || (startsUsing x c && !c.next.isAtWord .of) then
          readForDeclaration read x isAwaited true c.next
        else readForExpression read x isAwaited c) :=
    (h.take? _).bind fun _ h => .ite (readCounting_stays hread h)
      (.ite (readForDeclaration_stays _ _ hread h.next)
        (.ite (readForDeclaration_stays _ _ hread h.next) (readForExpression_stays _ hread h)))
  have hawait : Stays source (if x.awaits then some c.next else none) := .ite (.some h.next) .none
  exact .ite (hawait.bind fun _ h => hhead _ h) (hhead _ h)

theorem readDo_stays (hread : ReadsWithin source read) (h : c.Within source) :
    StaysWith source (readDo read x c) :=
  (hread h).bind fun _ h => (h.takeWord? _).bind fun _ h =>
    (readCondition_stays hread h).bind fun _ h => .some (h.skipSign _)

/-! ## Choices and other statements -/

/-- A choice is read within the text, with its other branch or without. -/
theorem readIf_stays (hread : ReadsWithin source read) (h : c.Within source) :
    StaysWith source (readIf read x c) := by
  refine (readCondition_stays hread h).bind fun c h => (hread h).bind fun ⟨_, c⟩ h => ?_
  exact .ite (readBody_stays hread h.next) (.some h)

/-- Each statement of a case leaves the cursor in the text. -/
theorem casesRule_stays (hread : ReadsWithin source read) (h : c.Within source) :
    StaysWith source (casesRule read x c) := by
  refine .ite (.some h.next) (.ite ?_ (.ite ?_ ?_))
  · exact (hread h.next).bind fun _ h => (h.take? _).bind fun _ h => hread h
  · exact (h.next.take? _).bind fun _ h => hread h
  · exact (hread h).bind fun _ h => hread h

theorem readSwitch_stays (hread : ReadsWithin source read) (h : c.Within source) :
    StaysWith source (readSwitch read x c) :=
  (readCondition_stays hread h).bind fun _ h => (h.take? _).bind fun _ h => .ite (hread h) .none

/-- Each statement of a block leaves the cursor in the text. -/
theorem statementsRule_stays (hread : ReadsWithin source read) (h : c.Within source) :
    StaysWith source (statementsRule read x c) :=
  .ite (.some h.next) ((hread h).bind fun _ h => hread h)

/-- An attempt is read within the text, with the blocks for its failure and its end. -/
theorem readTry_stays (hread : ReadsWithin source read) (h : c.Within source) :
    StaysWith source (readTry read x c) := by
  have hlast {c : Cursor} (h : c.Within source) :
      StaysWith source ((readBlock read x c).map fun c => (Shape.value, c)) :=
    (readBlock_stays hread h).map fun _ h => h
  have hcaught {c : Cursor} (h : c.Within source) :
      StaysWith source ((readBlock read x c).bind fun c =>
        if c.isAtWord .finally_ then (readBlock read x c.next).map fun c => (Shape.value, c)
        else some (.value, c)) :=
    (readBlock_stays hread h).bind fun _ h => .ite (hlast h.next) (.some h)
  refine (readBlock_stays hread h).bind fun _ h => .ite (.ite ?_ (hcaught h.next)) ?_
  · exact (hread h.next.next).bind fun ⟨_, c⟩ h => (h.take? _).bind fun _ h => hcaught h
  · exact (h.takeWord? _).bind fun _ h => hlast h

theorem readLeave_stays (h : c.Within source) : StaysWith source (readLeave x c) :=
  (h.ite_next _).endStatement?.map fun _ h => h

/-- A returned value may be missing. -/
theorem readReturn_stays (hread : ReadsWithin source read) (h : c.Within source) :
    StaysWith source (readReturn read x c) := by
  have hend := h.endStatement?
  refine .ite .none ?_
  split
  · rename_i c' hc'
    exact .some (hend c' hc')
  · exact (hread h).bind fun _ h => h.endStatement?.bind fun _ h => .some h

theorem readExpressionStatement_stays (hread : ReadsWithin source read) (h : c.Within source) :
    StaysWith source (readExpressionStatement read x c) :=
  (hread h).bind fun _ h => h.endStatement?.bind fun _ h => .some h

/-- A statement that starts with a reserved word is read within the text. -/
theorem readReservedStatement_stays (isAlone : Bool) (k : Keyword) (hread : ReadsWithin source read)
    (h : c.Within source) : StaysWith source (readReservedStatement read x isAlone k c) := by
  have hguarded : StaysWith source ((readCondition read x c.next).bind (readBody read x)) :=
    (readCondition_stays hread h.next).bind fun _ h => readBody_stays hread h
  unfold readReservedStatement
  split
  · exact readDeclaration_stays _ hread h.next
  · exact .ite .none (readDeclaration_stays _ hread h.next)
  · exact (readFunctionDeclaration_stays _ hread h.next).bind fun _ h => .ite .none (.some h)
  · exact .ite .none (readClassDeclaration_stays hread h.next)
  · exact readIf_stays hread h.next
  · exact readFor_stays hread h.next
  · exact hguarded
  · exact readDo_stays hread h.next
  · exact readLeave_stays h.next
  · exact readLeave_stays h.next
  · exact readReturn_stays hread h.next
  · exact hguarded
  · exact readSwitch_stays hread h.next
  · exact .ite .none (readExpressionStatement_stays hread h.next)
  · exact readTry_stays hread h.next
  · exact h.next.endStatement?.map fun _ h => h
  · exact .ite (readExpressionStatement_stays hread h) ((readImport_stays h.next).map fun _ h => h)
  · exact (readExport_stays hread h.next).map fun _ h => h
  · exact readExpressionStatement_stays hread h

/-- A word may start a statement or an expression. -/
theorem readWordStatement_stays (isAlone : Bool) (k : Keyword) (hread : ReadsWithin source read)
    (h : c.Within source) : StaysWith source (readWordStatement read x isAlone k c) := by
  have hdeclaration (needsValue : Bool) {c : Cursor} (h : c.Within source) :
      StaysWith source (if isAlone then none else readDeclaration read x needsValue c) :=
    .ite .none (readDeclaration_stays needsValue hread h)
  refine .ite (readReservedStatement_stays _ _ hread h) (.ite (hdeclaration _ h.next)
    (.ite (hdeclaration _ h.next) (.ite (hdeclaration _ h.next.next) (.ite ?_ ?_))))
  · exact .ite .none (readFunctionDeclaration_stays _ hread h.next.next)
  · exact readExpressionStatement_stays hread h

/-- Statements are read within the text, those inside others as well. -/
theorem statementRule_stays (isAlone : Bool) (hread : ReadsWithin source read)
    (h : c.Within source) : StaysWith source (statementRule isAlone read x c) := by
  refine .ite (readBody_stays hread h.next.next) ?_
  split
  · exact (readBlock_stays hread h).map fun _ h => h
  · exact .some h.next
  · exact (hread h).bind fun _ h => .ite (hread h) .none
  · exact readWordStatement_stays _ _ hread h
  · exact readExpressionStatement_stays hread h

/-! ## The grammar -/

/-- A rule stays in a text if its reader does. -/
theorem rule_stays (goal : Goal) (hread : ReadsWithin source read) (h : c.Within source) :
    StaysWith source (rule goal read x c) := by
  cases goal with
  | expression => exact expressionRule_stays hread h
  | assignment => exact assignmentRule_stays hread h
  | binary least => exact binaryRule_stays least hread h
  | binaryRest least left => exact binaryRestRule_stays least left hread h
  | unary => exact unaryRule_stays hread h
  | leftSide => exact leftSideRule_stays hread h
  | primary => exact primaryRule_stays hread h
  | suffix calls base => exact suffixRule_stays calls base hread h
  | arguments items => exact argumentsRule_stays items hread h
  | group items => exact groupRule_stays items hread h
  | arrayItems items => exact arrayItemsRule_stays items hread h
  | objectItems items => exact objectItemsRule_stays items hread h
  | template isTagged => exact templateRule_stays isTagged hread h
  | arrowBody isAsync => exact arrowBodyRule_stays isAsync hread h
  | function isAsync isGenerator => exact functionRule_stays (x := x) isAsync isGenerator hread h
  | parameters items => exact parametersRule_stays items hread h
  | classRest => exact classRestRule_stays hread h
  | classItems => exact classItemsRule_stays hread h
  | decorators => exact decoratorsRule_stays hread h
  | binding => exact bindingRule_stays hread h
  | arrayPattern items => exact arrayPatternRule_stays items hread h
  | objectPattern items => exact objectPatternRule_stays items hread h
  | statement isAlone => exact statementRule_stays isAlone hread h
  | statements => exact statementsRule_stays hread h
  | declarators items => exact declaratorsRule_stays items hread h
  | cases => exact casesRule_stays hread h

/-- The grammar stays in the text that is read. -/
theorem grammar_readsWithin (source : List Char) (n : Nat) : ReadsWithin source (grammar n) := by
  induction n with
  | zero => exact fun _ _ _ _ => .none
  | succ n ih => exact fun _ goal _ h => rule_stays goal ih h

/-! ## Whole scripts -/

/-- An item of a script is read within the text. -/
theorem readItem?_stays (hread : ReadsWithin source read) (h : c.Within source) :
    Ensures (fun r => r.2.2.Within source) (readItem? read c) :=
  .ite ((readImport_stays h.next).map fun _ h => h)
    (.ite ((readExport_stays hread h.next).map fun _ h => h) ((hread h).map fun _ h => h))

/-- The comments in front of the end of a script were found in its text. -/
theorem readItems?_comments (hread : ReadsWithin source read) (n : Nat) (h : c.Within source) :
    Ensures (fun s => ∀ t ∈ s.comments, t <:+ source) (readItems? read n c) := by
  induction n generalizing c with
  | zero => exact .none
  | succ n ih =>
    have hitem := readItem?_stays hread h
    refine .ite (.ite (.some ?_) .none) ?_
    · simpa using h.comments
    · split
      · exact .none
      · rename_i hc'
        exact (ih (hitem _ hc')).map fun _ h => h

/-- A comment of a script is an end of its text. -/
theorem suffix_of_mem_comments {s : Script} (h : read? source = some s) {t : List Char}
    (ht : t ∈ s.comments) : t <:+ source := by
  have hitems := readItems?_comments (grammar_readsWithin source (depthOf source))
    (source.length + 1) (Cursor.within_start source)
  unfold read? at h
  split at h
  · rename_i s' hs'
    have hs : s' = s := by simpa using (Option.ite_none_right_eq_some.1 h).2
    exact hitems s (hs ▸ hs') t ht
  · cases h

end TemplateImports.Script
