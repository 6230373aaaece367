import TemplateImports.Proofs.Text.Pieces
import TemplateImports.Workspace.Path

/-!
# Parts of paths

The parts of a path are those that tell where it starts, of which there is at most one, and the inner
ones, which the pieces between its slashes stand for one by one.  A path behind another one keeps the
start of that one and adds its own inner parts.  A path that is made of the parts of another one has
these parts again, so that the text of a path carries no more than its parts do.

Main results:

- Structure `IsEntryName` says which names the parts of paths have.
- Theorem `parts_eq` cuts the parts of a path into its start and its inner parts.
- Theorem `parts_join` says what the parts of a path behind another one are.
- Theorem `parts_joined` reads the parts of a path back from the text made of them.
-/

namespace TemplateImports

open Text

/-! ## Names -/

/-- A name that an entry of a directory can have. -/
structure IsEntryName (name : String) : Prop where
  ne_empty : name ≠ ""
  ne_here : name ≠ "."
  ne_up : name ≠ ".."
  no_slash : '/' ∉ name.toList

namespace IsEntryName

variable {name : String}

/-- A name has characters. -/
theorem toList_ne_nil (h : IsEntryName name) : name.toList ≠ [] := by
  simpa using h.ne_empty

/-- A name is no void piece of a path. -/
theorem isVoid_eq_false (h : IsEntryName name) : Path.isVoid name.toList = false := by
  have hhere : name.toList ≠ ['.'] := fun he => h.ne_here (String.toList_injective he)
  simp [Path.isVoid, h.toList_ne_nil, hhere]

theorem toList_ne_up (h : IsEntryName name) : name.toList ≠ ['.', '.'] :=
  fun he => h.ne_up (String.toList_injective he)

/-- A name is a part of a path on its own. -/
theorem partOf_toList (h : IsEntryName name) : Path.partOf name.toList = .name name.toList := by
  simp [Path.partOf, h.toList_ne_up]

/-- A name is no absolute path. -/
theorem isAbsolute_eq_false (h : IsEntryName name) : (Path.mk name).isAbsolute = false := by
  cases hcs : name.toList with
  | nil => simp [Path.isAbsolute, hcs]
  | cons c cs =>
    have hc : c ≠ '/' := by
      rintro rfl
      exact h.no_slash (by simp [hcs])
    simp [Path.isAbsolute, hcs, hc]

end IsEntryName

namespace Path

/-! ## Inner parts -/

/-- The parts that the pieces of a path stand for. -/
def innerParts (pieces : List (List Char)) : List Part :=
  (pieces.filter (!isVoid ·)).map partOf

/-- The parts of a path behind its start. -/
def inner (p : Path) : List Part :=
  innerParts (splitOn '/' p.text.toList)

/-- The part that tells where a path starts, if there is one. -/
def start (p : Path) : List Part :=
  (opening p.text.toList).1

/-- The inner parts of pieces behind each other stand behind each other. -/
theorem innerParts_append (front back : List (List Char)) :
    innerParts (front ++ back) = innerParts front ++ innerParts back := by
  simp [innerParts]

/-- A void piece has no part. -/
theorem innerParts_cons_of_isVoid {piece : List Char} (h : isVoid piece = true)
    (pieces : List (List Char)) : innerParts (piece :: pieces) = innerParts pieces := by
  simp [innerParts, h]

/-- Any other piece has one part. -/
theorem innerParts_cons_of_not_isVoid {piece : List Char} (h : isVoid piece = false)
    (pieces : List (List Char)) :
    innerParts (piece :: pieces) = partOf piece :: innerParts pieces := by
  simp [innerParts, h]

/-- A part that can stand behind the start of a path. -/
def Part.IsInner : Part → Prop
  | .root => False
  | .here => False
  | .up => True
  | .name text => IsEntryName (String.ofList text)

namespace Part.IsInner

variable {part : Part}

theorem no_slash (h : part.IsInner) : '/' ∉ part.text := by
  cases part with
  | root => exact h.elim
  | here => exact h.elim
  | up => decide
  | name text => simpa [Part.text] using IsEntryName.no_slash h

/-- The text of an inner part is no void piece. -/
theorem isVoid_text (h : part.IsInner) : isVoid part.text = false := by
  cases part with
  | root => exact h.elim
  | here => exact h.elim
  | up => rfl
  | name text => simpa [Part.text] using IsEntryName.isVoid_eq_false h

/-- An inner part is read back from its text. -/
theorem partOf_text (h : part.IsInner) : partOf part.text = part := by
  cases part with
  | root => exact h.elim
  | here => exact h.elim
  | up => rfl
  | name text => simpa [Part.text] using IsEntryName.partOf_toList h

end Part.IsInner

/-- A piece that stands for a name is that name. -/
theorem isEntryName_of_partOf {piece text : List Char} (hslash : '/' ∉ piece)
    (hvoid : isVoid piece = false) (h : partOf piece = .name text) :
    IsEntryName (String.ofList text) := by
  unfold partOf at h
  split at h
  · cases h
  · rename_i hup
    obtain rfl : piece = text := by simpa using h
    simp only [isVoid, Bool.or_eq_false_iff] at hvoid
    have hne : ∀ {other : String}, piece ≠ other.toList → String.ofList piece ≠ other :=
      fun hother he => hother (by simp [← he])
    exact ⟨hne (by simpa using hvoid.1), hne (by simpa using hvoid.2), hne (by simpa using hup),
      by simpa using hslash⟩

/-- The parts of pieces without slashes are inner ones. -/
theorem isInner_of_mem_innerParts {pieces : List (List Char)}
    (h : ∀ piece ∈ pieces, '/' ∉ piece) {part : Part} (hpart : part ∈ innerParts pieces) :
    part.IsInner := by
  obtain ⟨piece, hpiece, hpartOf⟩ := List.mem_map.1 hpart
  obtain ⟨hmem, hvoid⟩ := List.mem_filter.1 hpiece
  cases part with
  | up => trivial
  | name text => exact isEntryName_of_partOf (h piece hmem) (by simpa using hvoid) hpartOf
  | root => unfold partOf at hpartOf; split at hpartOf <;> cases hpartOf
  | here => unfold partOf at hpartOf; split at hpartOf <;> cases hpartOf

theorem isInner_of_mem_inner {p : Path} {part : Part} (h : part ∈ p.inner) : part.IsInner :=
  isInner_of_mem_innerParts (fun _ hpiece => not_mem_of_mem_splitOn hpiece) h

/-- Inner parts are those that their texts stand for. -/
theorem innerParts_map_text {parts : List Part} (h : ∀ part ∈ parts, part.IsInner) :
    innerParts (parts.map Part.text) = parts := by
  induction parts with
  | nil => rfl
  | cons part parts ih =>
    have hpart := h part (by simp)
    rw [List.map_cons, innerParts_cons_of_not_isVoid hpart.isVoid_text, hpart.partOf_text,
      ih fun other hother => h other (List.mem_cons_of_mem _ hother)]

/-! ## Starts -/

/-- A path has the part that tells where it starts, and then its inner parts. -/
theorem parts_eq (p : Path) : p.parts = p.start ++ p.inner := by
  have hinner : innerParts (opening p.text.toList).2 = p.inner := by
    unfold opening inner
    split
    · rename_i pieces hsplit
      rw [hsplit, innerParts_cons_of_isVoid rfl]
    · rename_i pieces hsplit
      rw [hsplit, innerParts_cons_of_isVoid rfl]
    · rfl
  rw [← hinner]
  rfl

/-- A path starts at the root, at the place that it is read from, or with neither mark. -/
theorem start_eq_or (p : Path) : p.start = [] ∨ p.start = [.root] ∨ p.start = [.here] := by
  unfold start opening
  split
  · split <;> simp
  · simp
  · simp

/-- An absolute path is one that starts at the root. -/
theorem isAbsolute_iff_start {p : Path} : p.isAbsolute = true ↔ p.start = [.root] := by
  unfold isAbsolute start opening
  cases p.text.toList with
  | nil => simp [splitOn]
  | cons c cs =>
    by_cases hc : c = '/'
    · simp [splitOn, hc, splitOn_ne_nil]
    · obtain ⟨piece, pieces, hpieces⟩ := List.exists_cons_of_ne_nil (splitOn_ne_nil '/' cs)
      simp only [List.head?_cons, beq_iff_eq, Option.some.injEq, hc, splitOn, hpieces, if_false,
        false_iff]
      split <;> simp_all

/-- The root stands at the start of a path only. -/
theorem root_mem_parts_iff {p : Path} : .root ∈ p.parts ↔ p.isAbsolute = true := by
  rw [isAbsolute_iff_start, parts_eq, List.mem_append]
  have hinner : .root ∉ p.inner := fun h => isInner_of_mem_inner h
  rcases p.start_eq_or with h | h | h <;> simp [h, hinner]

/-- The names in the parts of a path are proper. -/
theorem isEntryName_of_mem_parts {p : Path} {text : List Char} (h : .name text ∈ p.parts) :
    IsEntryName (String.ofList text) := by
  rw [parts_eq, List.mem_append] at h
  rcases h with h | h
  · rcases p.start_eq_or with hstart | hstart | hstart <;> simp [hstart] at h
  · exact isInner_of_mem_inner h

/-- The empty path has no parts. -/
theorem parts_of_text_eq_empty {p : Path} (hp : p.text = "") : p.parts = [] := by
  obtain rfl : p = ⟨""⟩ := congrArg Path.mk hp
  rfl

/-- A path that is not empty has parts. -/
theorem parts_ne_nil {p : Path} (hp : p.text ≠ "") : p.parts ≠ [] := by
  obtain ⟨piece, pieces, hsplit⟩ := List.exists_cons_of_ne_nil (splitOn_ne_nil '/' p.text.toList)
  have htext : joinWith ['/'] (piece :: pieces) = p.text.toList := by
    rw [← hsplit, joinWith_splitOn]
  rw [parts_eq, start, inner, opening, hsplit]
  by_cases hempty : piece = []
  · have hmore : pieces ≠ [] := by
      rintro rfl
      rw [hempty] at htext
      exact hp (String.toList_eq_nil_iff.1 htext.symm)
    simp [hempty, hmore]
  · by_cases hhere : piece = ['.']
    · simp [hhere]
    · have hvoid : isVoid piece = false := by simp [isVoid, hempty, hhere]
      simp [innerParts_cons_of_not_isVoid hvoid]

/-- All parts of a path but the first one are inner parts. -/
theorem isInner_of_mem_tail {p : Path} {part : Part} (h : part ∈ p.parts.tail) :
    part.IsInner := by
  rw [parts_eq] at h
  rcases p.start_eq_or with hstart | hstart | hstart <;> rw [hstart] at h
  · exact isInner_of_mem_inner (List.mem_of_mem_tail h)
  · exact isInner_of_mem_inner h
  · exact isInner_of_mem_inner h

/-! ## Paths behind each other -/

/-- Behind the empty path there is only the second one. -/
theorem join_of_text_eq_empty {p : Path} (hp : p.text = "") (q : Path) : p.join q = q := by
  unfold join
  split
  · rfl
  · simp [hp]

/-- A relative path is put behind a slash, unless one is there. -/
theorem text_join {p q : Path} (hp : p.text ≠ "") (hq : q.isAbsolute = false) :
    (p.join q).text.toList =
      p.text.toList ++ (if p.text.toList.getLast? = some '/' then [] else ['/']) ++
        q.text.toList := by
  by_cases hslash : p.text.toList.getLast? = some '/' <;> simp [join, hq, hp, hslash]

/-- A path behind another one adds its pieces; a slash at the end of the first one is used for
that. -/
theorem splitOn_join {p q : Path} (hp : p.text ≠ "") (hq : q.isAbsolute = false) :
    ∃ pieces, pieces ≠ [] ∧
      splitOn '/' (p.join q).text.toList = pieces ++ splitOn '/' q.text.toList ∧
      (pieces ≠ [[]] ∧ splitOn '/' p.text.toList = pieces ∨
        splitOn '/' p.text.toList = pieces ++ [[]]) := by
  have htext : p.text.toList ≠ [] := by simpa using hp
  rw [text_join hp hq]
  by_cases hslash : p.text.toList.getLast? = some '/'
  · obtain ⟨front, hfront⟩ := List.getLast?_eq_some_iff.1 hslash
    refine ⟨splitOn '/' front, splitOn_ne_nil _ _, ?_, Or.inr ?_⟩
    · simp [hfront, splitOn_append_cons]
    · rw [hfront, splitOn_append_cons]
      rfl
  · refine ⟨splitOn '/' p.text.toList, splitOn_ne_nil _ _, ?_, Or.inl ⟨?_, rfl⟩⟩
    · simp [hslash, splitOn_append_cons]
    · intro hempty
      exact htext (by simpa [hempty, joinWith] using (joinWith_splitOn '/' p.text.toList).symm)

/-- A joined path is absolute if its first one is. -/
theorem isAbsolute_join {p q : Path} (hp : p.text ≠ "") (hq : q.isAbsolute = false) :
    (p.join q).isAbsolute = p.isAbsolute := by
  obtain ⟨c, cs, hcs⟩ := List.exists_cons_of_ne_nil (by simpa using hp : p.text.toList ≠ [])
  simp [isAbsolute, text_join hp hq, hcs]

/-- The inner parts of a joined path are those of both. -/
theorem inner_join {p q : Path} (hp : p.text ≠ "") (hq : q.isAbsolute = false) :
    (p.join q).inner = p.inner ++ q.inner := by
  obtain ⟨pieces, -, hjoin, hpieces⟩ := splitOn_join hp hq
  unfold inner
  rw [hjoin, innerParts_append]
  rcases hpieces with ⟨-, hpieces⟩ | hpieces
  · rw [hpieces]
  · have hempty : innerParts [[]] = [] := rfl
    rw [hpieces, innerParts_append, hempty, List.append_nil]

/-- A path that is not empty keeps its start when another one stands behind it. -/
theorem start_join {p q : Path} (hp : p.text ≠ "") (hq : q.isAbsolute = false) :
    (p.join q).start = p.start := by
  obtain ⟨pieces, hne, hjoin, hpieces⟩ := splitOn_join hp hq
  obtain ⟨piece, pieces, rfl⟩ := List.exists_cons_of_ne_nil hne
  have hmore := splitOn_ne_nil '/' q.text.toList
  unfold start opening
  rw [hjoin]
  rcases hpieces with ⟨hroot, hpieces⟩ | hpieces
  · rw [hpieces]
    by_cases hempty : piece = []
    · have hrest : pieces ≠ [] := by simpa [hempty] using hroot
      simp [hempty, hrest]
    · by_cases hhere : piece = ['.'] <;> simp [hempty, hhere]
  · rw [hpieces]
    by_cases hempty : piece = []
    · simp [hempty, hmore]
    · by_cases hhere : piece = ['.'] <;> simp [hempty, hhere]

/-- A path behind another one that is not empty adds its inner parts. -/
theorem parts_join {p q : Path} (hp : p.text ≠ "") (hq : q.isAbsolute = false) :
    (p.join q).parts = p.parts ++ q.inner := by
  rw [parts_eq, parts_eq p, start_join hp hq, inner_join hp hq, List.append_assoc]

/-! ## Texts of parts -/

/-- A slash in front of a text adds no inner part. -/
theorem inner_root_append (text : String) : (Path.mk ("/" ++ text)).inner = (Path.mk text).inner := by
  have hsplit : splitOn '/' ("/" ++ text).toList = [] :: splitOn '/' text.toList := by
    simp [splitOn]
  rw [inner, hsplit, innerParts_cons_of_isVoid rfl]
  rfl

/-- A text behind a slash is a path from the root. -/
theorem parts_root_append (text : String) :
    (Path.mk ("/" ++ text)).parts = .root :: (Path.mk text).inner := by
  have habsolute : (Path.mk ("/" ++ text)).isAbsolute = true := by simp [isAbsolute]
  rw [parts_eq, isAbsolute_iff_start.1 habsolute, inner_root_append]
  rfl

/-- A text behind a dot and a slash is a path that starts with the dot. -/
theorem parts_here_append (text : String) :
    (Path.mk ("./" ++ text)).parts = .here :: (Path.mk text).inner := by
  have hsplit : splitOn '/' ("./" ++ text).toList = ['.'] :: splitOn '/' text.toList := by
    simp [splitOn]
  have hstart : (Path.mk ("./" ++ text)).start = [.here] := by
    rw [start, opening, hsplit]
    rfl
  rw [parts_eq, hstart, inner, hsplit, innerParts_cons_of_isVoid rfl]
  rfl

/-- The text of inner parts is a path with these parts. -/
theorem parts_joined_of_isInner {parts : List Part} (h : ∀ part ∈ parts, part.IsInner) :
    (Path.mk (joined parts)).parts = parts ∧ (Path.mk (joined parts)).inner = parts := by
  cases parts with
  | nil => exact ⟨rfl, rfl⟩
  | cons part rest =>
    have hsplit : splitOn '/' (joined (part :: rest)).toList = (part :: rest).map Part.text := by
      rw [joined, String.toList_ofList]
      refine splitOn_joinWith (by simp) fun piece hpiece => ?_
      obtain ⟨other, hother, rfl⟩ := List.mem_map.1 hpiece
      exact (h other hother).no_slash
    have hvoid := (h part (by simp)).isVoid_text
    simp only [isVoid, Bool.or_eq_false_iff, List.isEmpty_eq_false_iff, beq_eq_false_iff_ne]
      at hvoid
    have hstart : (Path.mk (joined (part :: rest))).start = [] := by
      simp [start, opening, hsplit, hvoid]
    have hinner : (Path.mk (joined (part :: rest))).inner = part :: rest := by
      rw [inner, hsplit, innerParts_map_text h]
    exact ⟨by rw [parts_eq, hstart, hinner, List.nil_append], hinner⟩

/-- The parts of a path are read back from the text made of them. -/
theorem parts_joined (p : Path) : (Path.mk (joined p.parts)).parts = p.parts := by
  obtain ⟨hparts, hinner⟩ := parts_joined_of_isInner fun part => isInner_of_mem_inner (p := p)
  have hbehind : p.inner ≠ [] → ∀ first : Part, joined (first :: p.inner) =
      String.ofList first.text ++ ("/" ++ joined p.inner) := by
    intro hne first
    obtain ⟨part, parts, h⟩ := List.exists_cons_of_ne_nil hne
    rw [← String.toList_inj]
    simp [joined, joinWith, h]
  rw [parts_eq p]
  rcases p.start_eq_or with hstart | hstart | hstart
  · rw [hstart, List.nil_append, hparts]
  · by_cases hnil : p.inner = []
    · rw [hstart, hnil]
      rfl
    · have hroot : String.ofList Part.root.text = "/" := rfl
      rw [hstart, List.singleton_append, hbehind hnil, hroot, parts_root_append, inner_root_append,
        hinner]
  · by_cases hnil : p.inner = []
    · rw [hstart, hnil]
      rfl
    · have hhere : String.ofList Part.here.text ++ ("/" ++ joined p.inner) =
          "./" ++ joined p.inner := by
        rw [← String.append_assoc]
        rfl
      rw [hstart, List.singleton_append, hbehind hnil, hhere, parts_here_append, hinner]

end Path

end TemplateImports
