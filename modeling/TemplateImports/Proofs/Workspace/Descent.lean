import Mathlib
import TemplateImports.Proofs.Workspace.PathParts
import TemplateImports.Workspace.Tree

/-!
# Going down in a file tree

The names of a directory are pieces of paths that stand for themselves.  A path that goes on with
such a name leads to the entry with that name, and behind the path that it goes on from it is written
as the names that were added.  This holds for paths from the root and for those that start at the
place of the run.

Every workspace that is built by adding files and directories has such names only, and has each of
them once in a directory.

Main results:

- Predicates `Workspace.WellFormed` and `FileTree.WellFormed` say what names there are.
- Definition `Path.below` goes on with names; theorem `find_below` says where that leads, and
  theorem `relativeTo_below` how it is written.
- Theorem `intercalate_injective` says that names can be read off the path made of them.
- Theorems `WellFormed.addFile` and `WellFormed.addDirectory` say that building keeps a workspace
  well-formed.
-/

namespace TemplateImports

open Text

/-! ## Names -/

/-- Joining the characters of names joins the names. -/
theorem joinWith_map_toList (names : List String) :
    joinWith ['/'] (names.map String.toList) = ("/".intercalate names).toList := by
  induction names with
  | nil => simp [joinWith]
  | cons name names ih =>
    cases names with
    | nil => simp [joinWith]
    | cons other names =>
      rw [String.intercalate_cons_cons, String.toList_append, ← ih]
      simp [joinWith]

/-- Names that are joined by slashes are found again between them. -/
theorem splitOn_intercalate {names : List String} (hne : names ≠ [])
    (h : ∀ name ∈ names, IsEntryName name) :
    splitOn '/' ("/".intercalate names).toList = names.map String.toList := by
  rw [← joinWith_map_toList]
  refine splitOn_joinWith (by simpa using hne) ?_
  intro piece hpiece
  obtain ⟨name, hname, rfl⟩ := List.mem_map.1 hpiece
  exact (h name hname).no_slash

/-- The names can be read off the path that is made of them. -/
theorem intercalate_injective {names others : List String} (hnames : names ≠ [])
    (hothers : others ≠ []) (hn : ∀ name ∈ names, IsEntryName name)
    (ho : ∀ name ∈ others, IsEntryName name)
    (h : "/".intercalate names = "/".intercalate others) : names = others := by
  have hsame := splitOn_intercalate hnames hn
  rw [h, splitOn_intercalate hothers ho] at hsame
  exact (List.map_injective_iff.2 (fun _ _ => String.toList_injective) hsame).symm

/-! ## Paths that go on with names -/

namespace Path

/-- The path that goes on from another one with names. -/
def below (root : Path) (names : List String) : Path :=
  names.foldl (fun p name => p.join ⟨name⟩) root

/-- The text of parts that are names. -/
theorem joined_names (names : List String) :
    joined (names.map fun name => .name name.toList) = "/".intercalate names := by
  have htexts : (names.map fun name => Part.name name.toList).map Part.text =
      names.map String.toList := by
    rw [List.map_map]
    rfl
  rw [joined, htexts, joinWith_map_toList, String.ofList_toList]

/-- A path that goes on with a name is not empty. -/
theorem text_join_ne_empty (p : Path) {name : String} (h : IsEntryName name) :
    (p.join ⟨name⟩).text ≠ "" := by
  simp [join, h.isAbsolute_eq_false, h.ne_empty]

/-- Going on with a name adds it as the last part. -/
theorem parts_join_name (p : Path) {name : String} (h : IsEntryName name) :
    (p.join ⟨name⟩).parts = p.parts ++ [.name name.toList] := by
  have hinner : (Path.mk name).inner = [.name name.toList] := by
    rw [inner, splitOn_of_not_mem h.no_slash, innerParts_cons_of_not_isVoid h.isVoid_eq_false,
      h.partOf_toList]
    rfl
  by_cases hp : p.text = ""
  · have hhere : name.toList ≠ ['.'] := fun he => h.ne_here (String.toList_injective he)
    have hstart : (Path.mk name).start = [] := by
      simp [start, opening, splitOn_of_not_mem h.no_slash, h.toList_ne_nil, hhere]
    rw [join_of_text_eq_empty hp, parts_eq, hstart, hinner, parts_of_text_eq_empty hp]
  · rw [parts_join hp h.isAbsolute_eq_false, hinner]

/-- The names below a path are its last parts. -/
theorem parts_below (root : Path) {names : List String} (h : ∀ name ∈ names, IsEntryName name) :
    (root.below names).parts = root.parts ++ names.map fun name => .name name.toList := by
  induction names generalizing root with
  | nil => simp [below]
  | cons name names ih =>
    have hbelow : root.below (name :: names) = (root.join ⟨name⟩).below names := rfl
    rw [hbelow, ih _ fun n hn => h n (List.mem_cons_of_mem _ hn),
      parts_join_name root (h name (List.mem_cons_self ..))]
    simp

/-- The path behind the one that it goes on from consists of the names that were added. -/
theorem relativeTo_below (root : Path) {names : List String}
    (h : ∀ name ∈ names, IsEntryName name) :
    (root.below names).relativeTo root = "/".intercalate names := by
  rw [relativeTo, stripPrefix?_eq_some_iff.2 (parts_below root h)]
  exact joined_names names

end Path

/-! ## Following names -/

namespace FileTree

variable (tree : FileTree)

/-- The entry with a name in what was found before. -/
def child (found : Except ReadFault Entry) (name : String) : Except ReadFault Entry :=
  match found with
  | .ok (.directory entries) =>
    match entries.lookup name with
    | some entry => .ok entry
    | none => .error .missing
  | .ok (.file _) => .error .notDirectory
  | .error fault => .error fault

/-- A slash at the end asks for a directory. -/
theorem follow_append_nil (entered : List Workspace) (pieces : List (List Char)) :
    tree.follow entered (pieces ++ [[]]) =
      match tree.follow entered pieces with
      | .ok (.file _) => .error .notDirectory
      | found => found := by
  induction entered, pieces using follow.induct tree with
  | case1 entered => simp [follow, Path.isVoid]
  | case2 entered piece pieces hvoid ih => simp [follow, hvoid, ih]
  | case3 entered piece pieces hvoid hup ih => simp [follow, hvoid, hup, ih]
  | case4 entered piece pieces hvoid hup hmissing => simp [follow, hvoid, hup, hmissing]
  | case5 entered piece pieces hvoid hup entries hentries ih =>
    simp [follow, hvoid, hup, hentries, ih]
  | case6 entered piece pieces hvoid hup content hfile hlast =>
    simp [follow, hvoid, hup, hfile, hlast]
  | case7 entered piece pieces hvoid hup content hfile hmore =>
    simp [follow, hvoid, hup, hfile, hmore]

/-- A name at the end leads to the entry with that name. -/
theorem follow_append_name (entered : List Workspace) (pieces : List (List Char)) {name : String}
    (h : IsEntryName name) :
    tree.follow entered (pieces ++ [name.toList]) = child (tree.follow entered pieces) name := by
  induction entered, pieces using follow.induct tree with
  | case1 entered =>
    cases hlookup : (tree.current entered).lookup name with
    | none => simp [follow, h.isVoid_eq_false, h.toList_ne_up, child, hlookup]
    | some entry =>
      cases entry <;> simp [follow, h.isVoid_eq_false, h.toList_ne_up, child, hlookup]
  | case2 entered piece pieces hvoid ih => simp [follow, hvoid, ih]
  | case3 entered piece pieces hvoid hup ih => simp [follow, hvoid, hup, ih]
  | case4 entered piece pieces hvoid hup hmissing => simp [follow, hvoid, hup, hmissing, child]
  | case5 entered piece pieces hvoid hup entries hentries ih =>
    simp [follow, hvoid, hup, hentries, ih]
  | case6 entered piece pieces hvoid hup content hfile hlast =>
    simp [follow, hvoid, hup, hfile, hlast, child]
  | case7 entered piece pieces hvoid hup content hfile hmore =>
    simp [follow, hvoid, hup, hfile, hmore, child]

/-- Names at the end lead from entry to entry. -/
theorem follow_append_names (entered : List Workspace) (pieces : List (List Char))
    {names : List String} (h : ∀ name ∈ names, IsEntryName name) :
    tree.follow entered (pieces ++ names.map String.toList) =
      names.foldl child (tree.follow entered pieces) := by
  induction names using List.reverseRecOn with
  | nil => simp
  | append_singleton names name ih =>
    rw [List.map_append, List.map_singleton, ← List.append_assoc, List.foldl_append,
      tree.follow_append_name entered _ (h name (by simp)),
      ih fun other hother => h other (List.mem_append_left _ hother)]
    rfl

/-- A path that is not empty is followed from the place where it starts. -/
theorem find_of_text_ne_empty {p : Path} (hp : p.text ≠ "") :
    tree.find p = tree.follow (tree.start p.isAbsolute) (splitOn '/' p.text.toList) := by
  rw [find, if_neg (by simpa using hp)]

/-- Going on with a name leads to the entry with that name. -/
theorem find_join {p : Path} {name : String} (hp : p.text ≠ "") (h : IsEntryName name) :
    tree.find (p.join ⟨name⟩) = child (tree.find p) name := by
  obtain ⟨front, -, hjoin, hfront⟩ := Path.splitOn_join hp h.isAbsolute_eq_false
  rw [splitOn_of_not_mem h.no_slash] at hjoin
  rw [tree.find_of_text_ne_empty (Path.text_join_ne_empty p h), tree.find_of_text_ne_empty hp,
    Path.isAbsolute_join hp h.isAbsolute_eq_false, hjoin, tree.follow_append_name _ _ h]
  rcases hfront with ⟨-, hfront⟩ | hfront
  · rw [hfront]
  · rw [hfront, follow_append_nil]
    generalize tree.follow (tree.start p.isAbsolute) front = found
    match found with
    | .error fault => rfl
    | .ok (.directory entries) => rfl
    | .ok (.file content) => rfl

/-- Going on with names leads from entry to entry. -/
theorem find_below {root : Path} {names : List String} (hroot : root.text ≠ "")
    (h : ∀ name ∈ names, IsEntryName name) :
    tree.find (root.below names) = names.foldl child (tree.find root) := by
  induction names generalizing root with
  | nil => rfl
  | cons name names ih =>
    have hname := h name (List.mem_cons_self ..)
    have hbelow : root.below (name :: names) = (root.join ⟨name⟩).below names := rfl
    rw [hbelow, ih (Path.text_join_ne_empty root hname)
      fun n hn => h n (List.mem_cons_of_mem _ hn), tree.find_join hroot hname]
    rfl

/-- Nothing is found behind a fault. -/
theorem foldl_child_error (fault : ReadFault) (names : List String) :
    names.foldl child (.error fault) = .error fault := by
  induction names with
  | nil => rfl
  | cons name names ih => exact ih

/-- Nothing is found behind a file. -/
theorem foldl_child_file {content : Option String} {names : List String} {entry : Entry}
    (h : names.foldl child (.ok (.file content)) = .ok entry) : names = [] := by
  cases names with
  | nil => rfl
  | cons name names =>
    have hfault : names.foldl child (.error .notDirectory) = .ok entry := h
    rw [foldl_child_error] at hfault
    cases hfault

variable {tree} {entries : Workspace} {p : Path}

/-- The empty path leads nowhere. -/
theorem text_ne_empty_of_find {entry : Entry} (h : tree.find p = .ok entry) : p.text ≠ "" := by
  intro hempty
  simp [find, hempty] at h

/-- The entries at a path are those of the directory that it leads to. -/
theorem entries?_eq_some_iff :
    tree.entries? p = some entries ↔ tree.find p = .ok (.directory entries) := by
  unfold entries?
  split <;> simp_all

/-- A path is a file's if it leads to one. -/
theorem isFile_iff : tree.isFile p = true ↔ ∃ content, tree.find p = .ok (.file content) := by
  unfold isFile
  split <;> simp_all

end FileTree

/-! ## Well-formed trees -/

/-- An entry in which each directory has proper names, and each of them once. -/
inductive Entry.WellFormed : Entry → Prop where
  | file (content : Option String) : WellFormed (.file content)
  | directory {entries : List (String × Entry)} (distinct : (entries.map Prod.fst).Nodup)
      (named : ∀ e ∈ entries, IsEntryName e.1) (inner : ∀ e ∈ entries, WellFormed e.2) :
      WellFormed (.directory entries)

namespace Workspace

/-- A workspace in which each directory has proper names, and each of them once. -/
def WellFormed (files : Workspace) : Prop :=
  (Entry.directory files).WellFormed

/-- The names of a well-formed workspace are distinct. -/
theorem WellFormed.distinct {files : Workspace} (h : files.WellFormed) :
    (files.map Prod.fst).Nodup := by
  cases h
  assumption

theorem WellFormed.isEntryName {files : Workspace} (h : files.WellFormed) {e : String × Entry}
    (he : e ∈ files) : IsEntryName e.1 := by
  cases h with
  | directory _ named _ => exact named e he

theorem WellFormed.entry {files : Workspace} (h : files.WellFormed) {e : String × Entry}
    (he : e ∈ files) : e.2.WellFormed := by
  cases h with
  | directory _ _ inner => exact inner e he

theorem wellFormed_nil : WellFormed [] :=
  .directory List.nodup_nil (by simp) (by simp)

/-- In a well-formed workspace, a name leads to its entry. -/
theorem WellFormed.lookup_eq_some_iff {files : Workspace} (h : files.WellFormed) {name : String}
    {entry : Entry} : files.lookup name = some entry ↔ (name, entry) ∈ files := by
  constructor
  · intro hlookup
    obtain ⟨front, back, hfiles, -⟩ := List.lookup_eq_some_iff.1 hlookup
    simp [hfiles]
  · exact KeyedList.lookup_of_mem h.distinct

/-- An entry that is looked up in a well-formed workspace is well-formed. -/
theorem WellFormed.of_lookup {files : Workspace} (h : files.WellFormed) {name : String}
    {entry : Entry} (hlookup : files.lookup name = some entry) : entry.WellFormed :=
  h.entry (h.lookup_eq_some_iff.1 hlookup)

/-- The entries of a directory in a well-formed workspace have proper names as well. -/
theorem WellFormed.inner {files : Workspace} (h : files.WellFormed) (name : String) :
    (files.inner name).WellFormed := by
  unfold Workspace.inner
  split
  · rename_i entries hlookup
    exact h.of_lookup hlookup
  · exact wellFormed_nil

end Workspace

namespace FileTree

/-- A tree in which each directory has proper names, and each of them once. -/
def WellFormed (tree : FileTree) : Prop :=
  tree.top.WellFormed

namespace WellFormed

variable {tree : FileTree} {entered entries : List Workspace}

/-- Where a walk stands is well-formed if all that it entered is. -/
theorem current (h : tree.WellFormed) (hentered : ∀ files ∈ entered, files.WellFormed) :
    (tree.current entered).WellFormed := by
  cases entered with
  | nil => exact h
  | cons files entered => exact hentered files (List.mem_cons_self ..)

/-- The directories on the way to where a path starts are well-formed. -/
theorem of_mem_start (h : tree.WellFormed) (fromRoot : Bool) :
    ∀ files ∈ tree.start fromRoot, files.WellFormed := by
  unfold start
  split
  · simp
  · refine List.foldlRecOn tree.place _ (motive := fun entered : List Workspace =>
      ∀ files ∈ entered, files.WellFormed) (by simp) ?_
    intro entered hentered name _ files hfiles
    rcases List.mem_cons.1 hfiles with rfl | hfiles
    · exact (h.current hentered).inner name
    · exact hentered files hfiles

/-- What is found in a well-formed tree is well-formed. -/
theorem of_follow (h : tree.WellFormed) {pieces : List (List Char)} {entry : Entry}
    (hentered : ∀ files ∈ entered, files.WellFormed)
    (hfollow : tree.follow entered pieces = .ok entry) : entry.WellFormed := by
  induction entered, pieces using follow.induct tree with
  | case1 entered =>
    simp only [follow, Except.ok.injEq] at hfollow
    exact hfollow ▸ h.current hentered
  | case2 entered piece pieces hvoid ih =>
    simp only [follow, hvoid, if_true] at hfollow
    exact ih hentered hfollow
  | case3 entered piece pieces hvoid hup ih =>
    simp only [follow, hvoid, hup] at hfollow
    exact ih (fun files hmem => hentered files (List.mem_of_mem_tail hmem)) hfollow
  | case4 entered piece pieces hvoid hup hmissing => simp [follow, hvoid, hup, hmissing] at hfollow
  | case5 entered piece pieces hvoid hup entries hentries ih =>
    simp only [follow, hvoid, hup, hentries] at hfollow
    refine ih (fun files hmem => ?_) hfollow
    rcases List.mem_cons.1 hmem with rfl | hmem
    · exact (h.current hentered).of_lookup hentries
    · exact hentered files hmem
  | case6 entered piece pieces hvoid hup content hfile hlast =>
    simp only [follow, hvoid, hup, hfile, hlast] at hfollow
    cases hfollow
    exact .file content
  | case7 entered piece pieces hvoid hup content hfile hmore =>
    simp [follow, hvoid, hup, hfile, hmore] at hfollow

/-- The directories of a well-formed tree are well-formed. -/
theorem of_entries? (h : tree.WellFormed) {entries : Workspace} {p : Path}
    (hentries : tree.entries? p = some entries) : entries.WellFormed := by
  have hfind := entries?_eq_some_iff.1 hentries
  rw [tree.find_of_text_ne_empty (text_ne_empty_of_find hfind)] at hfind
  exact h.of_follow (h.of_mem_start p.isAbsolute) hfind

end WellFormed

end FileTree

namespace Workspace

/-! ## Building keeps workspaces well-formed -/

/-- An entry may be put into a well-formed workspace under any name. -/
theorem WellFormed.put {files : Workspace} (h : files.WellFormed) {name : String}
    (hname : IsEntryName name) {entry : Entry} (hentry : entry.WellFormed) :
    WellFormed (KeyedList.put name entry files) := by
  refine .directory (KeyedList.nodup_keys_put h.distinct name entry) ?_ ?_
  · intro e he
    rcases KeyedList.mem_of_mem_put he with rfl | he
    · exact hname
    · exact h.isEntryName he
  · intro e he
    rcases KeyedList.mem_of_mem_put he with rfl | he
    · exact hentry
    · exact h.entry he

/-- An entry is added in a well-formed workspace at the place that proper names lead to. -/
theorem WellFormed.insertAt {files : Workspace} (h : files.WellFormed) {entry : Entry}
    (hentry : entry.WellFormed) {names : List String} (hnames : ∀ name ∈ names, IsEntryName name) :
    (files.insertAt entry names).WellFormed := by
  induction names generalizing files with
  | nil => exact h
  | cons name names ih =>
    have hname := hnames name (List.mem_cons_self ..)
    have hrest := fun n hn => hnames n (List.mem_cons_of_mem _ hn)
    cases names with
    | nil => exact h.put hname hentry
    | cons next names =>
      exact h.put hname (ih (h.inner name) hrest)

/-- The names that are kept when parts are evaluated are those of parts. -/
theorem mem_evaluate {names : List (List Char)} {parts : List Path.Part} {text : List Char}
    (h : text ∈ Path.evaluate names parts) : text ∈ names ∨ .name text ∈ parts := by
  induction parts generalizing names with
  | nil => exact Or.inl h
  | cons part parts ih =>
    cases part with
    | root => exact (ih h).imp_right (List.mem_cons_of_mem _)
    | here => exact (ih h).imp_right (List.mem_cons_of_mem _)
    | up =>
      exact (ih h).imp List.mem_of_mem_tail (List.mem_cons_of_mem _)
    | name other =>
      rcases ih h with hnames | hparts
      · rcases List.mem_cons.1 hnames with rfl | hnames
        · exact Or.inr (List.mem_cons_self ..)
        · exact Or.inl hnames
      · exact Or.inr (List.mem_cons_of_mem _ hparts)

/-- The names that a path is made of are proper. -/
theorem isEntryName_of_mem_namesOf {p : Path} {name : String} (h : name ∈ namesOf p) :
    IsEntryName name := by
  obtain ⟨text, htext, rfl⟩ := List.mem_map.1 h
  rcases mem_evaluate (List.mem_reverse.1 htext) with hnil | hpart
  · simp at hnil
  · exact Path.isEntryName_of_mem_parts hpart

/-- Adding a file keeps a workspace well-formed. -/
theorem WellFormed.addFile {files : Workspace} (h : files.WellFormed) (p : Path)
    (content : Option String) : (files.addFile p content).WellFormed :=
  h.insertAt (.file content) fun _ => isEntryName_of_mem_namesOf

/-- Adding a directory keeps a workspace well-formed. -/
theorem WellFormed.addDirectory {files : Workspace} (h : files.WellFormed) (p : Path) :
    (files.addDirectory p).WellFormed := by
  unfold Workspace.addDirectory
  split
  · exact h
  · exact h.insertAt wellFormed_nil fun _ => isEntryName_of_mem_namesOf

end Workspace

end TemplateImports
