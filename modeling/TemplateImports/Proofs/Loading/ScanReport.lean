import TemplateImports.Loading.Scan
import TemplateImports.Proofs.Text.ByteOrder
import TemplateImports.Proofs.Workspace.Descent

/-!
# What a scan reports

A scan walks through a tree of directories and reports on each component once.  The names that lead
to the components are listed without the path of the root, so that the walk is an induction on the
tree: names differ because those of a directory do, and the paths of the reports differ because names
can be read off them.

The reports are sorted by path.  As the paths differ, there is only one way to sort them, and neither
the order of the walk nor the order in which the analyses finish is left in the result.

Main results:

- Definition `namesBelow` lists the names that lead to components; theorem `mem_namesBelow_iff` says
  which names these are.
- Theorem `nodup_namesBelow` says that no names are listed twice.
- Structure `Loader.ReportsOnce` lists what a scan reports; theorem `scan_reports_once` says that it
  holds of every scan of a directory.
-/

namespace TemplateImports

open Text FileTree

/-! ## The names of components -/

mutual

/-- The names that lead to components in an entry, its own name first. -/
def namesIn (name : String) : Entry → List (List String)
  | .file _ => if isComponentName name then [[name]] else []
  | .directory entries =>
    if isPassedOver name then [] else (namesBelow entries).map (name :: ·)

/-- The names that lead to components in the entries of a directory. -/
def namesBelow : List (String × Entry) → List (List String)
  | [] => []
  | (name, entry) :: entries => namesIn name entry ++ namesBelow entries

end

mutual

/-- The components in an entry are found under the names that lead to them. -/
theorem componentsIn_eq (p : Path) (name : String) (entry : Entry) :
    componentsIn (p.join ⟨name⟩) name entry = (namesIn name entry).map p.below := by
  match entry with
  | .file _ =>
    unfold componentsIn namesIn
    split <;> rfl
  | .directory entries =>
    unfold componentsIn namesIn
    split
    · rfl
    · rw [componentsBelow_eq, List.map_map]
      rfl

/-- The components below a directory are where their names lead to. -/
theorem componentsBelow_eq (p : Path) (entries : List (String × Entry)) :
    componentsBelow p entries = (namesBelow entries).map p.below := by
  match entries with
  | [] => rfl
  | (name, entry) :: entries =>
    rw [componentsBelow, namesBelow, List.map_append, componentsIn_eq, componentsBelow_eq]

end

/-- The names below a directory are those in each of its entries. -/
theorem namesBelow_eq_flatMap (entries : List (String × Entry)) :
    namesBelow entries = entries.flatMap fun e => namesIn e.1 e.2 := by
  induction entries with
  | nil => rfl
  | cons e entries ih => rw [namesBelow, ih, List.flatMap_cons]

/-- A file is found under its own name if that is a component's. -/
theorem mem_namesIn_file {name : String} {content : Option String} {names : List String} :
    names ∈ namesIn name (.file content) ↔ isComponentName name = true ∧ names = [name] := by
  simp [namesIn]

/-- What is below a directory is found under its name, unless it is passed over. -/
theorem mem_namesIn_directory {name : String} {entries : List (String × Entry)}
    {names : List String} :
    names ∈ namesIn name (.directory entries) ↔
      isPassedOver name = false ∧ ∃ rest ∈ namesBelow entries, name :: rest = names := by
  by_cases h : isPassedOver name = true <;> simp [namesIn, h]

/-- Names that lead to a component in an entry start with that of the entry. -/
theorem exists_cons_of_mem_namesIn {name : String} {entry : Entry} {names : List String}
    (h : names ∈ namesIn name entry) : ∃ rest, names = name :: rest := by
  cases entry with
  | file content => exact ⟨[], (mem_namesIn_file.1 h).2⟩
  | directory entries =>
    obtain ⟨-, rest, -, rfl⟩ := mem_namesIn_directory.1 h
    exact ⟨rest, rfl⟩

/-- The empty list of names leads to no component. -/
theorem nil_not_mem_namesBelow (entries : List (String × Entry)) : [] ∉ namesBelow entries := by
  rw [namesBelow_eq_flatMap, List.mem_flatMap]
  rintro ⟨e, -, hnames⟩
  obtain ⟨rest, hrest⟩ := exists_cons_of_mem_namesIn hnames
  cases hrest

/-- Names lead to a component below a directory if they do so in the entry that the first one leads
to. -/
theorem mem_namesBelow_cons {entries : Workspace} (h : entries.WellFormed) {name : String}
    {rest : List String} :
    name :: rest ∈ namesBelow entries ↔
      ∃ entry, entries.lookup name = some entry ∧ name :: rest ∈ namesIn name entry := by
  rw [namesBelow_eq_flatMap, List.mem_flatMap]
  constructor
  · rintro ⟨⟨other, entry⟩, hmem, hnames⟩
    obtain ⟨back, hback⟩ := exists_cons_of_mem_namesIn hnames
    obtain rfl : name = other := (List.cons.inj hback).1
    exact ⟨entry, h.lookup_eq_some_iff.2 hmem, hnames⟩
  · rintro ⟨entry, hlookup, hnames⟩
    exact ⟨(name, entry), h.lookup_eq_some_iff.1 hlookup, hnames⟩

/-- The names of a file that a scan looks at: that of the file ends in a certain way, with something
before that, and no directory on the way is passed over. -/
structure IsScanned (directories : List String) (name : String) : Prop where
  ending : ∃ c cs, name.toList = c :: cs ++ ".vue".toList
  entered : ∀ d ∈ directories, d ≠ "node_modules" ∧ d ≠ "dist" ∧ d.toList.head? ≠ some '.'

/-- All directories are entered but hidden ones and those of packages and builds. -/
theorem isPassedOver_eq_false_iff {name : String} :
    isPassedOver name = false ↔
      name ≠ "node_modules" ∧ name ≠ "dist" ∧ name.toList.head? ≠ some '.' := by
  simp [isPassedOver, and_comm, and_left_comm, and_assoc]

/-- A file at the root is scanned if its name is a component's. -/
theorem isScanned_nil_iff {name : String} : IsScanned [] name ↔ isComponentName name = true := by
  rw [isComponentName_iff]
  exact ⟨IsScanned.ending, fun h => ⟨h, by simp⟩⟩

/-- A file below a directory is scanned if the directory is entered. -/
theorem isScanned_cons_iff {directory name : String} {directories : List String} :
    IsScanned (directory :: directories) name ↔
      isPassedOver directory = false ∧ IsScanned directories name := by
  rw [isPassedOver_eq_false_iff]
  constructor
  · rintro ⟨hending, hentered⟩
    exact ⟨hentered directory (List.mem_cons_self ..),
      hending, fun d hd => hentered d (List.mem_cons_of_mem _ hd)⟩
  · rintro ⟨hfirst, hending, hentered⟩
    exact ⟨hending, List.forall_mem_cons.2 ⟨hfirst, hentered⟩⟩

/-- The names that are listed are those that lead to a file which a scan looks at. -/
theorem mem_namesBelow_iff {entries : Workspace} (h : entries.WellFormed)
    {directories : List String} {name : String} :
    directories ++ [name] ∈ namesBelow entries ↔
      IsScanned directories name ∧
        ∃ content, (directories ++ [name]).foldl child (.ok (.directory entries)) =
          .ok (.file content) := by
  induction directories generalizing entries with
  | nil =>
    rw [List.nil_append, mem_namesBelow_cons h, isScanned_nil_iff, List.foldl_cons, List.foldl_nil,
      child]
    cases hlookup : entries.lookup name with
    | none => simp
    | some entry =>
      cases entry with
      | file content => simp [mem_namesIn_file]
      | directory inner => simp [mem_namesIn_directory, nil_not_mem_namesBelow]
  | cons directory directories ih =>
    rw [List.cons_append, mem_namesBelow_cons h, isScanned_cons_iff, List.foldl_cons, child]
    cases hlookup : entries.lookup directory with
    | none => simp [foldl_child_error, -List.foldl_append]
    | some entry =>
      cases entry with
      | file content =>
        have hnothing : ∀ found, (directories ++ [name]).foldl child (.ok (.file content)) ≠
            .ok found := by
          intro found hfound
          simpa using foldl_child_file hfound
        simp [mem_namesIn_file, hnothing, -List.foldl_append]
      | directory inner =>
        simp [mem_namesIn_directory, ih (h.of_lookup hlookup), and_assoc, -List.foldl_append]

/-- Every list of names has a last one, that of the file. -/
theorem exists_concat_of_mem_namesBelow {entries : List (String × Entry)} {names : List String}
    (h : names ∈ namesBelow entries) : ∃ directories name, names = directories ++ [name] := by
  rcases List.eq_nil_or_concat names with rfl | ⟨directories, name, rfl⟩
  · exact absurd h (nil_not_mem_namesBelow entries)
  · exact ⟨directories, name, by simp⟩

/-- The names that are listed are proper. -/
theorem isEntryName_of_mem_namesBelow {entries : Workspace} (h : entries.WellFormed)
    {names : List String} (hnames : names ∈ namesBelow entries) :
    ∀ name ∈ names, IsEntryName name := by
  induction names generalizing entries with
  | nil => simp
  | cons name rest ih =>
    obtain ⟨entry, hlookup, hin⟩ := (mem_namesBelow_cons h).1 hnames
    refine List.forall_mem_cons.2 ⟨h.isEntryName (h.lookup_eq_some_iff.1 hlookup), ?_⟩
    cases entry with
    | file content =>
      obtain ⟨-, hrest⟩ := mem_namesIn_file.1 hin
      simp [(List.cons.inj hrest).2]
    | directory inner =>
      obtain ⟨-, back, hback, hrest⟩ := mem_namesIn_directory.1 hin
      exact ih (h.of_lookup hlookup) ((List.cons.inj hrest).2 ▸ hback)

/-- The names in different entries differ in the first one. -/
theorem nodup_namesBelow_of_forall {entries : List (String × Entry)}
    (distinct : (entries.map Prod.fst).Nodup) (h : ∀ e ∈ entries, (namesIn e.1 e.2).Nodup) :
    (namesBelow entries).Nodup := by
  rw [namesBelow_eq_flatMap, List.nodup_flatMap]
  refine ⟨h, (List.pairwise_map.1 distinct).imp ?_⟩
  intro e f hne names hnames hothers
  obtain ⟨rest, rfl⟩ := exists_cons_of_mem_namesIn hnames
  obtain ⟨back, hback⟩ := exists_cons_of_mem_namesIn hothers
  exact hne (List.cons.inj hback).1

/-- In a well-formed entry each component is found once. -/
theorem nodup_namesIn {entry : Entry} (h : entry.WellFormed) (name : String) :
    (namesIn name entry).Nodup := by
  induction h generalizing name with
  | file content =>
    unfold namesIn
    split <;> simp
  | directory distinct named inner ih =>
    unfold namesIn
    split
    · exact List.nodup_nil
    · exact (nodup_namesBelow_of_forall distinct fun e he => ih e he e.1).map
        fun _ _ h => (List.cons.inj h).2

/-- No names are listed twice, since those of a directory differ. -/
theorem nodup_namesBelow {entries : Workspace} (h : entries.WellFormed) :
    (namesBelow entries).Nodup :=
  nodup_namesBelow_of_forall h.distinct fun _ he => nodup_namesIn (h.entry he) _

/-- The names of a file are listed if a scan looks at it. -/
theorem mem_namesBelow_iff_of_isFile {tree : FileTree} {entries : Workspace} {root : Path}
    (htree : tree.WellFormed) (hroot : tree.entries? root = some entries)
    {directories : List String} {name : String}
    (hnames : ∀ n ∈ directories ++ [name], IsEntryName n) :
    directories ++ [name] ∈ namesBelow entries ↔
      IsScanned directories name ∧
        tree.isFile (root.below (directories ++ [name])) = true := by
  have hfind := entries?_eq_some_iff.1 hroot
  rw [mem_namesBelow_iff (htree.of_entries? hroot), isFile_iff,
    tree.find_below (text_ne_empty_of_find hfind) hnames, hfind]

/-! ## Sorting what has distinct keys -/

/-- Values with distinct keys are sorted in one way only. -/
theorem sortOn_eq_of_perm {α : Type} {key : α → String} {values others : List α}
    (hdistinct : (values.map key).Nodup) (h : others.Perm values) :
    sortOn key others = sortOn key values := by
  have hperm := (sortOn_perm key others).trans (h.trans (sortOn_perm key values).symm)
  refine hperm.eq_of_pairwise ?_ (sortOn_pairwise key others) (sortOn_pairwise key values)
  intro a b ha hb hab hba
  have ha' : a ∈ values := h.mem_iff.1 ((sortOn_perm key others).mem_iff.1 ha)
  have hb' : b ∈ values := (sortOn_perm key values).mem_iff.1 hb
  exact List.inj_on_of_nodup_map hdistinct ha' hb' (String.le_antisymm hab hba)

/-- Among values with distinct keys, only one has its key. -/
theorem filter_key_eq_singleton {α : Type} {key : α → String} {values : List α}
    (hdistinct : (values.map key).Nodup) {a : α} (ha : a ∈ values) :
    values.filter (fun b => key b == key a) = [a] := by
  obtain ⟨front, back, rfl⟩ := List.append_of_mem ha
  have hkeys : ∀ b ∈ front ++ back, key b ≠ key a := by
    have hnodup := (List.perm_middle.map key).nodup_iff.1 hdistinct
    have hnot : key a ∉ (front ++ back).map key := (List.nodup_cons.1 hnodup).1
    intro b hb he
    exact hnot (he ▸ List.mem_map_of_mem hb)
  rw [List.filter_eq_cons_iff]
  refine ⟨front, back, rfl, ?_, by simp, ?_⟩
  · intro b hb
    simpa using hkeys b (List.mem_append_left _ hb)
  · rw [List.filter_eq_nil_iff]
    intro b hb
    simpa using hkeys b (List.mem_append_right _ hb)

/-! ## The reports -/

/-- A report gives the result of an analysis: either the analysis, or the code and the wording of the
failure. -/
def Report.Gives (report : Report) : Except Failure Analysis → Prop
  | .ok analysis => report.analysis? = some analysis ∧ report.error? = none
  | .error failure =>
    report.analysis? = none ∧ report.error? = some (failure.code, failure.message)

/-- A report gives the outcome that it was made of. -/
theorem Report.gives_outcome (report : Report) : report.Gives report.outcome := by
  cases h : report.outcome <;> simp [Gives, analysis?, error?, h, Except.toOption]

/-- The request for the file that names lead to from the root of a scan. -/
def requestBelow (root : Path) (names : List String) : Request :=
  { path := root.below names, root := root }

namespace Loader

variable (loader : Loader) {tree : FileTree} {entries : Workspace} {root : Path}

/-- The report on a file below the root has its names as its path. -/
theorem path_report (host : Host) {names : List String} (h : ∀ name ∈ names, IsEntryName name) :
    (loader.report host root (root.below names)).path = "/".intercalate names :=
  Path.relativeTo_below root h

/-- A scan sorts the reports on all components below its root. -/
theorem scan_eq (hroot : tree.entries? root = some entries) :
    scan loader tree root =
      sortOn Report.path
        ((componentsBelow root entries).map (loader.report ⟨tree, some root⟩ root)) := by
  rw [scan, hroot]

/-- The reports have distinct paths. -/
theorem nodup_path_reports (h : entries.WellFormed) (host : Host) (root : Path) :
    (((componentsBelow root entries).map (loader.report host root)).map Report.path).Nodup := by
  have hpaths : ((componentsBelow root entries).map (loader.report host root)).map Report.path =
      (namesBelow entries).map ("/".intercalate ·) := by
    rw [componentsBelow_eq, List.map_map, List.map_map]
    refine List.map_congr_left fun names hnames => ?_
    exact loader.path_report host (isEntryName_of_mem_namesBelow h hnames)
  rw [hpaths]
  refine (nodup_namesBelow h).map_on fun names hnames others hothers he => ?_
  refine intercalate_injective ?_ ?_ (isEntryName_of_mem_namesBelow h hnames)
    (isEntryName_of_mem_namesBelow h hothers) he
  · rintro rfl
    exact nil_not_mem_namesBelow entries hnames
  · rintro rfl
    exact nil_not_mem_namesBelow entries hothers

/-- A report is on the file that listed names lead to. -/
theorem mem_scan_iff (hroot : tree.entries? root = some entries) {report : Report} :
    report ∈ scan loader tree root ↔
      ∃ names ∈ namesBelow entries,
        loader.report ⟨tree, some root⟩ root (root.below names) = report := by
  rw [loader.scan_eq hroot, (sortOn_perm _ _).mem_iff, componentsBelow_eq, List.map_map]
  exact List.mem_map

/-- What a scan reports on a directory of a tree. -/
structure ReportsOnce (loader : Loader) (tree : FileTree) (root : Path) (entries : Workspace) :
    Prop where
  /-- There is a report on a file exactly if its name ends in `.vue`, with something before that, and
  its path leads through no directory that is passed over. -/
  reported_iff : ∀ (directories : List String) (name : String),
    (∀ n ∈ directories ++ [name], IsEntryName n) →
    tree.isFile (root.below (directories ++ [name])) = true →
    ((∃ report ∈ scan loader tree root,
        report.path = "/".intercalate (directories ++ [name])) ↔ IsScanned directories name)
  /-- It is the only one with its path, and it gives what the analysis of the file alone gives. -/
  reported_once : ∀ (directories : List String) (name : String),
    (∀ n ∈ directories ++ [name], IsEntryName n) →
    tree.isFile (root.below (directories ++ [name])) = true → IsScanned directories name →
    ∃ report,
      (scan loader tree root).filter
        (fun r => r.path == "/".intercalate (directories ++ [name])) = [report] ∧
      report.Gives
        (loader.analyze ⟨tree, some root⟩ (requestBelow root (directories ++ [name]))).outcome
  /-- There are no other reports. -/
  reports_file : ∀ report ∈ scan loader tree root, ∃ directories name,
    (∀ n ∈ directories ++ [name], IsEntryName n) ∧
    tree.isFile (root.below (directories ++ [name])) = true ∧ IsScanned directories name ∧
    report.path = "/".intercalate (directories ++ [name])
  /-- The reports ascend strictly in the order of the bytes of their paths. -/
  ascending : (scan loader tree root).Pairwise fun r s => utf8 r.path < utf8 s.path
  /-- They are the same for every order in which the files are visited and every order in which their
  analyses finish. -/
  order_free : ∀ (visited : List Path) (finished : List Report),
    visited.Perm (componentsBelow root entries) →
    finished.Perm (visited.map (loader.report ⟨tree, some root⟩ root)) →
    sortOn Report.path finished = scan loader tree root

/-- A scan of a directory reports on each of its components once. -/
theorem scan_reports_once (loader : Loader) {tree : FileTree} {entries : Workspace} {root : Path}
    (htree : tree.WellFormed) (hroot : tree.entries? root = some entries) :
    loader.ReportsOnce tree root entries := by
  have hentries := htree.of_entries? hroot
  have hdistinct := loader.nodup_path_reports hentries ⟨tree, some root⟩ root
  -- Each file that is scanned has its report in the scan.
  have hfound : ∀ {directories : List String} {name : String},
      (∀ n ∈ directories ++ [name], IsEntryName n) →
      tree.isFile (root.below (directories ++ [name])) = true → IsScanned directories name →
      loader.report ⟨tree, some root⟩ root (root.below (directories ++ [name])) ∈
        scan loader tree root := by
    intro directories name hnames hfile hscanned
    refine (loader.mem_scan_iff hroot).2 ⟨_, ?_, rfl⟩
    exact (mem_namesBelow_iff_of_isFile htree hroot hnames).2 ⟨hscanned, hfile⟩
  constructor
  case reported_iff =>
    intro directories name hnames hfile
    constructor
    · rintro ⟨report, hreport, he⟩
      obtain ⟨names, hmem, rfl⟩ := (loader.mem_scan_iff hroot).1 hreport
      have hproper := isEntryName_of_mem_namesBelow hentries hmem
      rw [loader.path_report _ hproper] at he
      have hne : names ≠ [] := by
        rintro rfl
        exact nil_not_mem_namesBelow entries hmem
      obtain rfl := intercalate_injective hne (by simp) hproper hnames he
      exact ((mem_namesBelow_iff_of_isFile htree hroot hnames).1 hmem).1
    · intro hscanned
      exact ⟨_, hfound hnames hfile hscanned, loader.path_report _ hnames⟩
  case reported_once =>
    intro directories name hnames hfile hscanned
    refine ⟨loader.report ⟨tree, some root⟩ root (root.below (directories ++ [name])), ?_,
      Report.gives_outcome _⟩
    rw [← loader.path_report ⟨tree, some root⟩ hnames]
    refine filter_key_eq_singleton ?_ (hfound hnames hfile hscanned)
    rw [loader.scan_eq hroot]
    exact ((sortOn_perm _ _).map _).nodup_iff.2 hdistinct
  case reports_file =>
    intro report hreport
    obtain ⟨names, hnames, rfl⟩ := (loader.mem_scan_iff hroot).1 hreport
    obtain ⟨directories, name, rfl⟩ := exists_concat_of_mem_namesBelow hnames
    have hproper := isEntryName_of_mem_namesBelow hentries hnames
    obtain ⟨hscanned, hfile⟩ :=
      (mem_namesBelow_iff_of_isFile htree hroot hproper).1 hnames
    exact ⟨directories, name, hproper, hfile, hscanned, loader.path_report _ hproper⟩
  case ascending =>
    rw [loader.scan_eq hroot]
    exact (pairwise_lt_sortOn hdistinct).imp lt_iff_utf8_lt.1
  case order_free =>
    intro visited finished hvisited hfinished
    rw [loader.scan_eq hroot]
    exact sortOn_eq_of_perm hdistinct (hfinished.trans (hvisited.map _))

/-- A component beside an installed package is reported once, with the failure to read it. -/
theorem scan_reports_once_beside_package :
    ∃ report,
      (scan ⟨{}, fun _ => [], fun _ => 0, []⟩
        ⟨[("proj", .directory [("node_modules", .directory [("a.vue", .file (some ""))]),
          ("views", .directory [("b.c.vue", .file none)])])], []⟩ ⟨"/proj"⟩).filter
        (fun r => r.path == "/".intercalate (["views"] ++ ["b.c.vue"])) = [report] ∧
      report.error? = some ("USAGE-ERR-READ",
        "Failed to read /proj/views/b.c.vue: stream did not contain valid UTF-8") := by
  have hproj : IsEntryName "proj" := ⟨by decide, by decide, by decide, by decide⟩
  have hpackages : IsEntryName "node_modules" := ⟨by decide, by decide, by decide, by decide⟩
  have hviews : IsEntryName "views" := ⟨by decide, by decide, by decide, by decide⟩
  have ha : IsEntryName "a.vue" := ⟨by decide, by decide, by decide, by decide⟩
  have hb : IsEntryName "b.c.vue" := ⟨by decide, by decide, by decide, by decide⟩
  have hentries : Workspace.WellFormed
      [("node_modules", .directory [("a.vue", .file (some ""))]),
        ("views", .directory [("b.c.vue", .file none)])] :=
    (Workspace.wellFormed_nil.put hpackages
      (Workspace.wellFormed_nil.put ha (.file (some "")))).put hviews
        (Workspace.wellFormed_nil.put hb (.file none))
  have htree : FileTree.WellFormed
      ⟨[("proj", .directory [("node_modules", .directory [("a.vue", .file (some ""))]),
        ("views", .directory [("b.c.vue", .file none)])])], []⟩ :=
    Workspace.wellFormed_nil.put hproj hentries
  have hroot : FileTree.entries?
      ⟨[("proj", .directory [("node_modules", .directory [("a.vue", .file (some ""))]),
        ("views", .directory [("b.c.vue", .file none)])])], []⟩ ⟨"/proj"⟩ = some
      [("node_modules", .directory [("a.vue", .file (some ""))]),
        ("views", .directory [("b.c.vue", .file none)])] :=
    rfl
  obtain ⟨report, hreport, hgives⟩ :=
    (scan_reports_once ⟨{}, fun _ => [], fun _ => 0, []⟩ htree hroot).reported_once ["views"]
      "b.c.vue" (by simp [hviews, hb]) rfl ⟨⟨'b', ['.', 'c'], rfl⟩, by simp⟩
  refine ⟨report, hreport, ?_⟩
  have houtcome : (analyze ⟨{}, fun _ => [], fun _ => 0, []⟩
      ⟨⟨[("proj", .directory [("node_modules", .directory [("a.vue", .file (some ""))]),
        ("views", .directory [("b.c.vue", .file none)])])], []⟩, some ⟨"/proj"⟩⟩
      (requestBelow ⟨"/proj"⟩ (["views"] ++ ["b.c.vue"]))).outcome =
      .error (.unreadable ⟨"/proj/views/b.c.vue"⟩ .notText) :=
    rfl
  rw [houtcome] at hgives
  exact hgives.2

end Loader

end TemplateImports
