import TemplateImports.Proofs.Workspace.Descent

/-!
# Places of paths

Where a path leads is read off its parts from left to right.  A name goes down, and a part that goes up
takes back the name before it.  Where no name is left there is nothing to go up to at the root of the
file system, but a path that starts elsewhere climbs above its start, and its place counts how often.

Normalizing a path writes down the names of its place.  So a normalized path is found at the same place
exactly if the path does not climb: a climb is forgotten, wherever in the path it stands.

Main results:

- Definition `place` evaluates a path; theorem `normalize_eq` says what normalizing makes of it.
- Theorem `climbs_eq_zero_iff` says when a path does not climb, by counting its parts.
- Theorem `parts_normalize` lists the parts of a normalized path, and theorem
  `place_normalize_eq_iff` says when it has kept its place.
- Definition `FileTree.entryAt` is the entry at a place; theorem `entryAt_of_find` says that a path
  leads to nothing else.
-/

namespace TemplateImports

open Text

namespace Path

/-! ## Evaluating paths -/

/-- A place, seen from where a path starts. -/
structure Place where
  /-- How often the path goes up above its start. -/
  climbs : Nat := 0
  /-- The names that it goes down from there. -/
  names : List String := []
deriving Repr, DecidableEq

/-- The place that the next part leads to.  Nothing is above the start if that is the root. -/
def Place.next (fromRoot : Bool) (place : Place) : Part → Place
  | .root => place
  | .here => place
  | .name text => { place with names := place.names ++ [String.ofList text] }
  | .up =>
    if place.names ≠ [] then { place with names := place.names.dropLast }
    else if fromRoot then place
    else { place with climbs := place.climbs + 1 }

/-- The place that a path leads to. -/
def place (p : Path) : Place :=
  p.parts.foldl (Place.next p.isAbsolute) {}

/-- The path that goes down names, from the root or from where it starts. -/
def ofNames (fromRoot : Bool) (names : List String) : Path :=
  ⟨(if fromRoot then "/" else "") ++ "/".intercalate names⟩

/-- The part that tells where a path starts leads nowhere else. -/
theorem foldl_next_start (fromRoot : Bool) (p : Path) :
    p.start.foldl (Place.next fromRoot) {} = {} := by
  rcases p.start_eq_or with h | h | h <;> rw [h] <;> rfl

/-- A path leads to the place that its inner parts lead to. -/
theorem place_eq_foldl_inner (p : Path) :
    p.place = p.inner.foldl (Place.next p.isAbsolute) {} := by
  rw [place, parts_eq, List.foldl_append, foldl_next_start]

/-- A path behind another one goes on from the place of that one. -/
theorem place_join {p q : Path} (hp : p.isAbsolute = false) (hq : q.isAbsolute = false) :
    (p.join q).place = q.inner.foldl (Place.next false) p.place := by
  by_cases hempty : p.text = ""
  · have hplace : p.place = {} := by rw [place, parts_of_text_eq_empty hempty, List.foldl_nil]
    rw [join_of_text_eq_empty hempty, place_eq_foldl_inner, hq, hplace]
  · rw [place_eq_foldl_inner, isAbsolute_join hempty hq, hp, inner_join hempty hq,
      List.foldl_append, place_eq_foldl_inner p, hp]

/-- The names of a place are those that a normalized path is made of. -/
theorem evaluate_eq_names (fromRoot : Bool) (place : Place) (parts : List Part) :
    evaluate (place.names.reverse.map String.toList) parts =
      (parts.foldl (Place.next fromRoot) place).names.reverse.map String.toList := by
  induction parts generalizing place with
  | nil => rfl
  | cons part parts ih =>
    rw [List.foldl_cons, ← ih]
    cases part with
    | root => rfl
    | here => rfl
    | name text => simp [evaluate, Place.next]
    | up =>
      rcases List.eq_nil_or_concat place.names with hnil | ⟨names, name, hconcat⟩
      · by_cases hroot : fromRoot = true <;> simp [evaluate, Place.next, hnil, hroot]
      · simp [evaluate, Place.next, hconcat]

theorem reverse_evaluate (p : Path) :
    (evaluate [] p.parts).reverse = p.place.names.map String.toList := by
  have h := evaluate_eq_names p.isAbsolute {} p.parts
  rw [← List.reverse_inj, ← List.map_reverse, List.reverse_reverse]
  exact h

/-- Normalizing a path writes down the names of its place. -/
theorem normalize_eq (p : Path) : p.normalize = ofNames p.isAbsolute p.place.names := by
  rw [normalize, ofNames, reverse_evaluate, joinWith_map_toList, String.ofList_toList]

/-- The names of a place are proper. -/
theorem isEntryName_of_mem_place {p : Path} {name : String} (h : name ∈ p.place.names) :
    IsEntryName name := by
  refine Workspace.isEntryName_of_mem_namesOf (p := p) ?_
  rw [Workspace.namesOf, reverse_evaluate, List.map_map]
  simpa using h

/-! ## Paths made of names -/

section

variable {fromRoot : Bool} {names : List String}

theorem parts_ofNames (h : ∀ name ∈ names, IsEntryName name) :
    (ofNames fromRoot names).parts =
      (if fromRoot then [.root] else []) ++ names.map fun name => .name name.toList := by
  have hinner : ∀ part ∈ names.map fun name => Part.name name.toList, part.IsInner := by
    intro part hpart
    obtain ⟨name, hname, rfl⟩ := List.mem_map.1 hpart
    simpa [Part.IsInner] using h name hname
  obtain ⟨hparts, hinnerParts⟩ := parts_joined_of_isInner hinner
  rw [joined_names] at hparts hinnerParts
  cases fromRoot with
  | false => simpa [ofNames] using hparts
  | true => simp [ofNames, parts_root_append, hinnerParts]

theorem isAbsolute_ofNames (h : ∀ name ∈ names, IsEntryName name) :
    (ofNames fromRoot names).isAbsolute = fromRoot := by
  rw [Bool.eq_iff_iff, ← root_mem_parts_iff, parts_ofNames h]
  cases fromRoot <;> simp

theorem foldl_next_names (place : Place) (names : List String) :
    (names.map fun name => .name name.toList).foldl (Place.next fromRoot) place =
      { place with names := place.names ++ names } := by
  induction names generalizing place with
  | nil => simp
  | cons name names ih => simp [Place.next, ih]

/-- A path made of names leads down these names. -/
theorem place_ofNames (h : ∀ name ∈ names, IsEntryName name) :
    (ofNames fromRoot names).place = ⟨0, names⟩ := by
  have hstart : (if fromRoot then [Part.root] else []).foldl (Place.next fromRoot) {} = {} := by
    cases fromRoot <;> rfl
  rw [place, isAbsolute_ofNames h, parts_ofNames h, List.foldl_append, hstart, foldl_next_names]
  rfl

end

/-! ## Normalized paths -/

/-- A normalized path has the names of its place for parts, and the root if it starts there. -/
theorem parts_normalize (p : Path) :
    p.normalize.parts = (if p.isAbsolute then [.root] else []) ++
      p.place.names.map fun name => .name name.toList := by
  rw [normalize_eq, parts_ofNames fun _ => isEntryName_of_mem_place]

theorem place_normalize (p : Path) : p.normalize.place = ⟨0, p.place.names⟩ := by
  rw [normalize_eq, place_ofNames fun _ => isEntryName_of_mem_place]

/-- A normalized path stays as it is. -/
theorem normalize_normalize (p : Path) : p.normalize.normalize = p.normalize := by
  rw [normalize_eq p.normalize, place_normalize, normalize_eq p,
    isAbsolute_ofNames fun _ => isEntryName_of_mem_place]

/-- A normalized path keeps its place exactly if the path does not climb. -/
theorem place_normalize_eq_iff {p : Path} : p.normalize.place = p.place ↔ p.place.climbs = 0 := by
  rw [place_normalize]
  constructor
  · intro h
    exact (congrArg Place.climbs h).symm
  · intro h
    rw [← h]

/-- A normalized path has no dots. -/
theorem no_dots_normalize (p : Path) : .here ∉ p.normalize.parts ∧ .up ∉ p.normalize.parts := by
  rw [parts_normalize]
  cases p.isAbsolute <;> simp

/-! ## Climbing -/

/-- Whether a part is a name. -/
def Part.isName : Part → Bool
  | .name _ => true
  | _ => false

/-- Nowhere in a path have there been more parts that go up than names. -/
def StaysBelow (p : Path) : Prop :=
  ∀ front, front <+: p.parts → front.count .up ≤ front.countP Part.isName

/-- Nothing is above the root. -/
theorem climbs_foldl_next_root (place : Place) (parts : List Part) :
    (parts.foldl (Place.next true) place).climbs = place.climbs := by
  induction parts generalizing place with
  | nil => rfl
  | cons part parts ih =>
    rw [List.foldl_cons, ih]
    cases part with
    | up => by_cases hnames : place.names = [] <;> simp [Place.next, hnames]
    | _ => rfl

theorem climbs_of_isAbsolute {p : Path} (h : p.isAbsolute = true) : p.place.climbs = 0 := by
  rw [place, h, climbs_foldl_next_root]

/-- What the beginnings of a list satisfy, part by part. -/
theorem forall_prefix_cons_iff {α : Type} {P : List α → Prop} {a : α} {as : List α} :
    (∀ front, front <+: a :: as → P front) ↔ P [] ∧ ∀ front, front <+: as → P (a :: front) := by
  constructor
  · intro h
    exact ⟨h [] List.nil_prefix, fun front hfront => h _ (List.cons_prefix_cons.2 ⟨rfl, hfront⟩)⟩
  · rintro ⟨hnil, hcons⟩ front hfront
    rcases List.prefix_cons_iff.1 hfront with rfl | ⟨rest, rfl, hrest⟩
    · exact hnil
    · exact hcons rest hrest

/-- Parts climb no further exactly if the names at a place make up for all parts among them that go
up. -/
theorem climbs_foldl_next_eq_zero_iff (place : Place) (parts : List Part) :
    (parts.foldl (Place.next false) place).climbs = 0 ↔
      place.climbs = 0 ∧ ∀ front, front <+: parts →
        front.count .up ≤ place.names.length + front.countP Part.isName := by
  induction parts generalizing place with
  | nil => simp
  | cons part parts ih =>
    rw [List.foldl_cons, ih, forall_prefix_cons_iff]
    cases part with
    | root => simp [Place.next, Part.isName]
    | here => simp [Place.next, Part.isName]
    | name text =>
      have hcount : ∀ front : List Part, (.name text :: front).count .up = front.count .up ∧
          (.name text :: front).countP Part.isName = front.countP Part.isName + 1 := by
        simp [List.countP_cons, Part.isName]
      simp only [Place.next, List.length_append, List.length_singleton, hcount, List.count_nil,
        List.countP_nil, Nat.zero_le, true_and]
      refine and_congr_right fun _ => forall₂_congr fun front _ => ?_
      omega
    | up =>
      have hcount : ∀ front : List Part, (.up :: front).count .up = front.count .up + 1 ∧
          (.up :: front).countP Part.isName = front.countP Part.isName := by
        simp [Part.isName]
      simp only [hcount, List.count_nil, List.countP_nil, Nat.zero_le, true_and]
      by_cases hnames : place.names = []
      · -- Nothing makes up for this part: it climbs, and it is the first one in the list.
        simp only [Place.next, hnames, ne_eq, not_true_eq_false, if_false, Bool.false_eq_true,
          Nat.add_eq_zero_iff, one_ne_zero, and_false, false_and, false_iff, not_and]
        intro _ hfront
        simpa using hfront [] List.nil_prefix
      · have hpos := List.length_pos_iff.2 hnames
        simp only [Place.next, ne_eq, hnames, not_false_eq_true, if_true, List.length_dropLast]
        refine and_congr_right fun _ => forall₂_congr fun front _ => ?_
        omega

/-- A path that does not start at the root does not climb exactly if nowhere in it there have been
more parts that go up than names. -/
theorem climbs_eq_zero_iff {p : Path} (h : p.isAbsolute = false) :
    p.place.climbs = 0 ↔ p.StaysBelow := by
  rw [place, h, climbs_foldl_next_eq_zero_iff]
  simp [StaysBelow]

/-- A path climbs behind another one if it goes up more often at its start than there are names. -/
theorem climbs_join_pos {p q : Path} {n : Nat} {rest : List Part} (hp : p.isAbsolute = false)
    (hq : q.isAbsolute = false) (hinner : q.inner = List.replicate n .up ++ rest)
    (hn : p.place.names.length < n) : 0 < (p.join q).place.climbs := by
  rw [Nat.pos_iff_ne_zero, ne_eq, place_join hp hq, climbs_foldl_next_eq_zero_iff, hinner]
  rintro ⟨-, hfront⟩
  have hups := hfront (List.replicate n .up) (List.prefix_append _ rest)
  have hnames : (List.replicate n Part.up).countP Part.isName = 0 := by
    simp [List.countP_replicate, Part.isName]
  rw [List.count_replicate_self, hnames] at hups
  omega

end Path

/-! ## Entries at places -/

namespace FileTree

open TemplateImports.Path

variable {tree : FileTree} {fromRoot : Bool}

/-- The entry at a place: first up from where the path starts, and then down the names. -/
def entryAt (tree : FileTree) (fromRoot : Bool) (place : Place) : Except ReadFault Entry :=
  place.names.foldl child
    (.ok (.directory (tree.current ((tree.start fromRoot).drop place.climbs))))

/-- The directories that are entered on the way down names, behind those that were entered before. -/
inductive Descends (tree : FileTree) (before : List Workspace) :
    List String → List Workspace → Prop where
  | start : Descends tree before [] before
  | enter {names : List String} {entered : List Workspace} {name : String} {entries : Workspace}
      (outer : Descends tree before names entered)
      (found : (tree.current entered).lookup name = some (.directory entries)) :
      Descends tree before (names ++ [name]) (entries :: entered)

namespace Descends

variable {before entered : List Workspace} {names : List String}

/-- The names lead from entry to entry to the directory that was entered last. -/
theorem foldl_child (h : Descends tree before names entered) :
    names.foldl child (.ok (.directory (tree.current before))) =
      .ok (.directory (tree.current entered)) := by
  induction h with
  | start => rfl
  | enter outer found ih =>
    rw [List.foldl_append, ih]
    simp [child, found]

/-- Going up takes back the last name. -/
theorem tail (h : Descends tree before names entered) (hnames : names ≠ []) :
    Descends tree before names.dropLast entered.tail := by
  cases h with
  | start => exact absurd rfl hnames
  | enter outer found => simpa using outer

/-- Where there is no name to take back, nothing has been entered. -/
theorem eq_of_nil (h : Descends tree before [] entered) : entered = before := by
  generalize hnil : ([] : List String) = names at h
  cases h with
  | start => rfl
  | enter outer found => exact absurd hnil (by simp)

end Descends

/-- Following pieces leads to nothing but the entry at the place that they lead to. -/
theorem entryAt_of_follow {entered : List Workspace} {pieces : List (List Char)} {entry : Entry}
    (h : tree.follow entered pieces = .ok entry) (place : Place)
    (hplace : Descends tree ((tree.start fromRoot).drop place.climbs) place.names entered) :
    tree.entryAt fromRoot ((innerParts pieces).foldl (Place.next fromRoot) place) = .ok entry := by
  induction entered, pieces using follow.induct tree generalizing place with
  | case1 entered =>
    rw [follow, Except.ok.injEq] at h
    rw [← h]
    exact hplace.foldl_child
  | case2 entered piece pieces hvoid ih =>
    rw [innerParts_cons_of_isVoid hvoid]
    exact ih (by simpa [follow, hvoid] using h) place hplace
  | case3 entered piece pieces hvoid hup ih =>
    rw [follow, if_neg hvoid, if_pos hup] at h
    rw [innerParts_cons_of_not_isVoid (Bool.eq_false_iff.2 hvoid), partOf, if_pos hup,
      List.foldl_cons]
    refine ih h _ ?_
    by_cases hnames : place.names = []
    · obtain rfl := Descends.eq_of_nil (hnames ▸ hplace)
      by_cases hroot : fromRoot = true
      · -- Above the root there is nothing to go up to, so the place stays as it is.
        simpa [Place.next, hnames, hroot, start] using Descends.start
      · simpa [Place.next, hnames, hroot, List.tail_drop] using Descends.start
    · simpa [Place.next, hnames] using hplace.tail hnames
  | case4 entered piece pieces hvoid hup hmissing => simp [follow, hvoid, hup, hmissing] at h
  | case5 entered piece pieces hvoid hup entries hentries ih =>
    rw [innerParts_cons_of_not_isVoid (Bool.eq_false_iff.2 hvoid), partOf, if_neg hup]
    exact ih (by simpa [follow, hvoid, hup, hentries] using h) _ (hplace.enter hentries)
  | case6 entered piece pieces hvoid hup content hfile hlast =>
    obtain rfl : pieces = [] := by simpa using hlast
    have hentry : Entry.file content = entry := by simpa [follow, hvoid, hup, hfile] using h
    have hlookup : child (.ok (.directory (tree.current entered))) (String.ofList piece) =
        .ok (.file content) := by
      simp [child, hfile]
    rw [innerParts_cons_of_not_isVoid (Bool.eq_false_iff.2 hvoid), partOf, if_neg hup,
      ← hentry, ← hlookup, ← hplace.foldl_child]
    exact List.foldl_append
  | case7 entered piece pieces hvoid hup content hfile hmore =>
    simp [follow, hvoid, hup, hfile, hmore] at h

/-- A path leads to nothing but the entry at its place. -/
theorem entryAt_of_find {p : Path} {entry : Entry} (h : tree.find p = .ok entry) :
    tree.entryAt p.isAbsolute p.place = .ok entry := by
  rw [tree.find_of_text_ne_empty (text_ne_empty_of_find h)] at h
  rw [place_eq_foldl_inner]
  exact entryAt_of_follow h {} Descends.start

/-- A path made of names leads to the entry at their place. -/
theorem find_ofNames {names : List String} (hne : names ≠ [])
    (h : ∀ name ∈ names, IsEntryName name) :
    tree.find (ofNames fromRoot names) = tree.entryAt fromRoot ⟨0, names⟩ := by
  have htext : (ofNames fromRoot names).text ≠ "" := by
    intro hempty
    have hparts := parts_of_text_eq_empty hempty
    rw [parts_ofNames h] at hparts
    simp [hne] at hparts
  have hsplit : splitOn '/' (ofNames fromRoot names).text.toList =
      (if fromRoot then [[]] else []) ++ names.map String.toList := by
    rw [← splitOn_intercalate hne h]
    cases fromRoot <;> simp [ofNames, splitOn]
  have hstart : tree.follow (tree.start fromRoot) (if fromRoot then [[]] else []) =
      .ok (.directory (tree.current (tree.start fromRoot))) := by
    cases fromRoot <;> simp [follow, isVoid]
  rw [tree.find_of_text_ne_empty htext, isAbsolute_ofNames h, hsplit,
    tree.follow_append_names _ _ h, hstart]
  rfl

/-- A path made of names leads to a file exactly if there is one at their place. -/
theorem isFile_ofNames {names : List String} (h : ∀ name ∈ names, IsEntryName name) :
    tree.isFile (ofNames fromRoot names) = true ↔
      ∃ content, tree.entryAt fromRoot ⟨0, names⟩ = .ok (.file content) := by
  rw [isFile_iff]
  by_cases hne : names = []
  · -- The path is empty or the root, and at the place is a directory.
    subst hne
    cases fromRoot <;> simp [ofNames, find, entryAt, splitOn, follow, isVoid]
  · rw [find_ofNames hne h]

end FileTree

end TemplateImports
