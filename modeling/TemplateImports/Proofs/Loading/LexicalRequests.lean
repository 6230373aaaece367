import TemplateImports.Proofs.Loading.SharedHost
import TemplateImports.Proofs.Workspace.Places

/-!
# Requests without looking at files

The candidate of a request is found from the texts of the request and of the path that it goes on from
alone.  Only then is one question asked about the files, whether the candidate is one of them.  The
texts of files have no part in the answer, and nothing is recorded.

The candidate is a normalized path, so it is the place that the request leads to as long as the request
does not climb above the start of a relative path.  A request that does is answered as if it had not:
by a file below the start that happens to have the remaining names.

Main results:

- Theorem `FileTree.isFile_unreadable` says that files are found without their texts.
- Theorem `Host.resolve_lexically` says how a request is answered that does not climb; the structure
  `ResolvesLexically` lists what that is.
- Theorem `Host.normalize_forgets_climbs` says when a normalized path keeps its place, and how a
  request is answered that may climb; the structure `ForgetsClimbs` lists what that is.
-/

namespace TemplateImports

open Text

/-! ## Files without texts -/

mutual

/-- The entry with the same entries below it, but with files that cannot be read. -/
def Entry.unreadable : Entry → Entry
  | .file _ => .file none
  | .directory entries => .directory (Workspace.unreadable entries)

/-- The workspace with the same entries, but with files that cannot be read. -/
def Workspace.unreadable : Workspace → Workspace
  | [] => []
  | (name, entry) :: entries => (name, entry.unreadable) :: Workspace.unreadable entries

end

namespace Workspace

theorem lookup_unreadable (files : Workspace) (name : String) :
    files.unreadable.lookup name = (files.lookup name).map Entry.unreadable := by
  induction files with
  | nil => rfl
  | cons e files ih =>
    obtain ⟨other, entry⟩ := e
    rw [unreadable, List.lookup_cons, List.lookup_cons]
    cases name == other
    · exact ih
    · rfl

theorem inner_unreadable (files : Workspace) (name : String) :
    files.unreadable.inner name = (files.inner name).unreadable := by
  unfold inner
  rw [lookup_unreadable]
  cases files.lookup name with
  | none => rfl
  | some entry =>
    cases entry with
    | file content => rfl
    | directory entries => simp [Entry.unreadable]

end Workspace

namespace FileTree

variable (tree : FileTree)

/-- The tree with the same entries, but with files that cannot be read. -/
def unreadable : FileTree :=
  ⟨tree.top.unreadable, tree.place⟩

theorem current_unreadable (entered : List Workspace) :
    tree.unreadable.current (entered.map Workspace.unreadable) =
      (tree.current entered).unreadable := by
  cases entered <;> rfl

theorem start_unreadable (fromRoot : Bool) :
    tree.unreadable.start fromRoot = (tree.start fromRoot).map Workspace.unreadable := by
  unfold start
  split
  · rfl
  · rw [← List.foldl_hom (List.map Workspace.unreadable)]
    · rfl
    · intro entered name
      rw [current_unreadable, Workspace.inner_unreadable, List.map_cons]

/-- Paths are followed in the same way where files cannot be read. -/
theorem follow_unreadable (entered : List Workspace) (pieces : List (List Char)) :
    tree.unreadable.follow (entered.map Workspace.unreadable) pieces =
      (tree.follow entered pieces).map Entry.unreadable := by
  have hlookup : ∀ (entered : List Workspace) (name : String),
      (tree.unreadable.current (entered.map Workspace.unreadable)).lookup name =
        ((tree.current entered).lookup name).map Entry.unreadable := by
    intro entered name
    rw [current_unreadable, Workspace.lookup_unreadable]
  induction entered, pieces using follow.induct tree with
  | case1 entered => simp [follow, current_unreadable, Entry.unreadable, Except.map]
  | case2 entered piece pieces hvoid ih => simp only [follow, hvoid, if_true, ih]
  | case3 entered piece pieces hvoid hup ih => simpa [follow, hvoid, hup] using ih
  | case4 entered piece pieces hvoid hup hmissing =>
    simp [follow, hvoid, hup, hlookup, hmissing, Except.map]
  | case5 entered piece pieces hvoid hup entries hentries ih =>
    have hinner : Entry.unreadable (.directory entries) =
        .directory (Workspace.unreadable entries) := by
      rw [Entry.unreadable]
    simpa [follow, hvoid, hup, hlookup, hentries, hinner] using ih
  | case6 entered piece pieces hvoid hup content hfile hlast =>
    simp [follow, hvoid, hup, hlookup, hfile, hlast, Entry.unreadable, Except.map]
  | case7 entered piece pieces hvoid hup content hfile hmore =>
    simp [follow, hvoid, hup, hlookup, hfile, hmore, Entry.unreadable, Except.map]

theorem find_unreadable (p : Path) :
    tree.unreadable.find p = (tree.find p).map Entry.unreadable := by
  unfold find
  split
  · rfl
  · rw [start_unreadable, follow_unreadable]

/-- Which paths lead to files does not depend on the texts of the files. -/
theorem isFile_unreadable (p : Path) : tree.unreadable.isFile p = tree.isFile p := by
  unfold isFile
  rw [find_unreadable]
  cases tree.find p with
  | error fault => rfl
  | ok entry => cases entry <;> simp [Except.map, Entry.unreadable]

theorem read_unreadable (p : Path) (text : String) : tree.unreadable.read p ≠ .ok text := by
  unfold read
  rw [find_unreadable]
  cases tree.find p with
  | error fault => simp [Except.map]
  | ok entry => cases entry <;> simp [Except.map, Entry.unreadable]

end FileTree

/-! ## Candidates -/

namespace Host

/-- A request goes on from its context if it starts with one or two dots and a slash, and otherwise
from the root of the host, or from its context if there is no root. -/
structure GoesOnFrom (host : Host) (context : Path) (request : String) (base : Path) : Prop where
  of_dots : ((∃ rest, request = "./" ++ rest) ∨ ∃ rest, request = "../" ++ rest) → base = context
  of_no_dots : ¬ ((∃ rest, request = "./" ++ rest) ∨ ∃ rest, request = "../" ++ rest) →
    base = host.root.getD context

theorem isLocal_iff {request : String} :
    isLocal request = true ↔
      (∃ rest, request = "./" ++ rest) ∨ ∃ rest, request = "../" ++ rest := by
  have hprefix : ∀ front : String,
      front.toList <+: request.toList ↔ ∃ rest, request = front ++ rest := by
    intro front
    constructor
    · rintro ⟨rest, hrest⟩
      exact ⟨String.ofList rest, by rw [← String.toList_inj]; simp [hrest]⟩
    · rintro ⟨rest, rfl⟩
      exact ⟨rest.toList, by simp⟩
  simp only [isLocal, Bool.or_eq_true, List.isPrefixOf_iff_prefix, hprefix]

variable {host : Host} {context base : Path} {request : String}

/-- The candidate of a request is the normalized path that the request goes on to. -/
theorem GoesOnFrom.candidate_eq (h : host.GoesOnFrom context request base) :
    host.candidate context request = (base.join ⟨request⟩).normalize := by
  have hbase : base = if isLocal request then context else host.root.getD context := by
    by_cases hdots : isLocal request = true
    · rw [if_pos hdots, h.of_dots (isLocal_iff.1 hdots)]
    · rw [if_neg hdots, h.of_no_dots fun hor => hdots (isLocal_iff.2 hor)]
  rw [candidate, hbase]

/-- A request does not look at the texts of files. -/
theorem resolve_unreadable (host : Host) (context : Path) (request : String) :
    ({ host with files := host.files.unreadable } : Host).resolve context request =
      host.resolve context request := by
  have hfiles : host.files.unreadable.isFile = host.files.isFile :=
    funext host.files.isFile_unreadable
  simp only [resolve, hfiles]
  rfl

/-! ## Answers -/

/-- A request that leads to a path is answered by the place of that path: its candidate is written
down from the texts of the request and of the path alone. -/
structure ResolvesLexically (host : Host) (context : Path) (request : String) (reached : Path) :
    Prop where
  /-- The candidate is made of the names at the place that the request leads to. -/
  candidate_eq : host.candidate context request =
    Path.ofNames reached.isAbsolute reached.place.names
  isAbsolute_eq : (host.candidate context request).isAbsolute = reached.isAbsolute
  place_eq : (host.candidate context request).place = reached.place
  no_here : .here ∉ (host.candidate context request).parts
  no_up : .up ∉ (host.candidate context request).parts
  normalize_eq :
    (host.candidate context request).normalize = host.candidate context request
  /-- The request is answered by its candidate if that is a file, in any way to tell which paths
  lead to files. -/
  resolveBy_ok : ∀ (isFile : Path → Bool) (p : Path),
    host.resolveBy isFile context request = .ok p ↔
      host.candidate context request = p ∧ isFile p = true
  /-- It fails otherwise, with the request, its context and the candidate. -/
  resolveBy_error : ∀ (isFile : Path → Bool) (failure : Failure),
    host.resolveBy isFile context request = .error failure ↔
      isFile (host.candidate context request) = false ∧
        failure = .unresolved request context (host.candidate context request)
  code_eq : (Failure.unresolved request context (host.candidate context request)).code =
    "USAGE-ERR-RESOLVE"
  message_eq : (Failure.unresolved request context (host.candidate context request)).message =
    "Cannot resolve '" ++ request ++ "' from " ++ context.text ++ ": " ++
      (host.candidate context request).text ++ " does not exist"
  /-- The files are asked one question, whether there is a file at the place. -/
  resolve_ok : ∀ p, host.resolve context request = .ok p ↔
    host.candidate context request = p ∧
      ∃ content, host.files.entryAt reached.isAbsolute reached.place = .ok (.file content)
  resolve_eq : host.resolve context request = host.resolveBy host.files.isFile context request
  /-- The answer is the same where no file can be read. -/
  read_unreadable : ∀ p text, host.files.unreadable.read p ≠ .ok text
  resolve_unreadable :
    ({ host with files := host.files.unreadable } : Host).resolve context request =
      host.resolve context request
  /-- Nothing is recorded. -/
  runOn_eq : ∀ recorded, (Tracked.ofExcept (host.resolve context request)).runOn recorded =
    (host.resolve context request, recorded)

/-- If a request leads to a path from the root of the file system, or to one that does not climb above
its start, then it is resolved lexically. -/
theorem resolve_lexically (hbase : host.GoesOnFrom context request base)
    (hstays : (base.join ⟨request⟩).isAbsolute = true ∨ (base.join ⟨request⟩).StaysBelow) :
    host.ResolvesLexically context request (base.join ⟨request⟩) := by
  have hclimbs : (base.join ⟨request⟩).place.climbs = 0 := by
    by_cases habsolute : (base.join ⟨request⟩).isAbsolute = true
    · exact Path.climbs_of_isAbsolute habsolute
    · exact (Path.climbs_eq_zero_iff (Bool.eq_false_iff.2 habsolute)).2
        (hstays.resolve_left habsolute)
  have hcandidate := hbase.candidate_eq
  have hnames := hcandidate.trans (Path.normalize_eq _)
  have hproper : ∀ name ∈ (base.join ⟨request⟩).place.names, IsEntryName name :=
    fun _ => Path.isEntryName_of_mem_place
  have hplace : (base.join ⟨request⟩).place = ⟨0, (base.join ⟨request⟩).place.names⟩ := by
    rw [← hclimbs]
  constructor
  case candidate_eq => exact hnames
  case isAbsolute_eq => rw [hnames, Path.isAbsolute_ofNames hproper]
  case place_eq => rw [hcandidate, Path.place_normalize_eq_iff.2 hclimbs]
  case no_here =>
    rw [hcandidate]
    exact (Path.no_dots_normalize _).1
  case no_up =>
    rw [hcandidate]
    exact (Path.no_dots_normalize _).2
  case normalize_eq => rw [hcandidate, Path.normalize_normalize]
  case resolveBy_ok => exact fun isFile p => resolveBy_eq_ok_iff
  case resolveBy_error => exact fun isFile failure => resolveBy_eq_error_iff
  case code_eq => rfl
  case message_eq => rfl
  case resolve_ok =>
    intro p
    rw [resolve_eq_ok_iff, hplace, ← FileTree.isFile_ofNames hproper, ← hnames]
    exact and_congr_right fun hp => by rw [hp]
  case resolve_eq => rfl
  case read_unreadable => exact host.files.read_unreadable
  case resolve_unreadable => exact host.resolve_unreadable context request
  case runOn_eq =>
    intro recorded
    simp [Tracked.runOn, Tracked.ofExcept]

/-- A request behind a root is looked up among the directories above it, and the answer is found
without the text of the file. -/
theorem resolve_lexically_behind_root :
    Host.resolve
        ⟨⟨[("proj", .directory [("lib", .directory [("t.html", .file none)])])], ["proj"]⟩,
          some ⟨"./src/"⟩⟩
        ⟨"src/pages"⟩ "a//../../lib/t.html" = .ok ⟨"lib/t.html"⟩ := by
  have hbase : GoesOnFrom
      ⟨⟨[("proj", .directory [("lib", .directory [("t.html", .file none)])])], ["proj"]⟩,
        some ⟨"./src/"⟩⟩
      ⟨"src/pages"⟩ "a//../../lib/t.html" ⟨"./src/"⟩ := by
    refine ⟨fun hdots => ?_, fun _ => rfl⟩
    have hnone : isLocal "a//../../lib/t.html" = false := by decide
    rw [isLocal_iff.2 hdots] at hnone
    cases hnone
  have hstays : ((Path.mk "./src/").join ⟨"a//../../lib/t.html"⟩).StaysBelow :=
    (Path.climbs_eq_zero_iff rfl).1 (by decide)
  have hlexically := resolve_lexically hbase (Or.inr hstays)
  have hnames : ((Path.mk "./src/").join ⟨"a//../../lib/t.html"⟩).place = ⟨0, ["lib", "t.html"]⟩ := by
    decide
  rw [hlexically.resolve_ok, hlexically.candidate_eq, hnames]
  exact ⟨rfl, none, rfl⟩

/-- What becomes of a path that does not start at the root when it is normalized, and of the requests
that lead to it. -/
structure ForgetsClimbs (p : Path) : Prop where
  /-- Only the names at the place of the path are left. -/
  parts_eq : p.normalize.parts = p.place.names.map fun name => .name name.toList
  /-- The parts that climb above the start are kept exactly if there are none. -/
  keeps_climbs_iff : p.normalize.parts = List.replicate p.place.climbs .up ++
      p.place.names.map (fun name => .name name.toList) ↔ p.place.climbs = 0
  place_eq_iff : p.normalize.place = p.place ↔ p.place.climbs = 0
  /-- A request that leads to the path is answered exactly if the names at its place lead to a file
  from the start. -/
  resolve_ok : ∀ (host : Host) (context base : Path) (request : String),
    host.GoesOnFrom context request base → base.join ⟨request⟩ = p → ∀ q,
    (host.resolve context request = .ok q ↔
      Path.ofNames false p.place.names = q ∧
        ∃ content, host.files.entryAt false ⟨0, p.place.names⟩ = .ok (.file content))
  /-- The path itself leads to nothing but the entry at its place, which is above the start if the
  path climbs. -/
  find_ok : ∀ (tree : FileTree) (entry : Entry),
    tree.find p = .ok entry → tree.entryAt false p.place = .ok entry
  /-- Behind a directory, the path climbs if it goes up more often there than the directory has
  names. -/
  climbs_pos : ∀ (context q : Path) (n : Nat) (rest : List Path.Part),
    context.isAbsolute = false → q.isAbsolute = false → context.join q = p →
    q.inner = List.replicate n .up ++ rest → context.place.names.length < n → 0 < p.place.climbs

/-- A path that does not start at the root is normalized to the names at its place, so that a request
which climbs above the start is answered by a file below it. -/
theorem normalize_forgets_climbs {p : Path} (hp : p.isAbsolute = false) : ForgetsClimbs p := by
  have hparts : p.normalize.parts = p.place.names.map fun name => .name name.toList := by
    rw [Path.parts_normalize, hp]
    rfl
  constructor
  case parts_eq => exact hparts
  case keeps_climbs_iff =>
    rw [hparts, List.self_eq_append_left, List.replicate_eq_nil_iff]
  case place_eq_iff => exact Path.place_normalize_eq_iff
  case resolve_ok =>
    intro host context base request hbase hleads q
    have hfile : host.files.isFile (.ofNames false p.place.names) = true ↔
        ∃ content, host.files.entryAt false ⟨0, p.place.names⟩ = .ok (.file content) :=
      FileTree.isFile_ofNames fun _ => Path.isEntryName_of_mem_place
    rw [resolve_eq_ok_iff, hbase.candidate_eq, hleads, Path.normalize_eq, hp, ← hfile]
    exact and_congr_right fun hq => by rw [hq]
  case find_ok =>
    intro tree entry hfind
    rw [← hp]
    exact FileTree.entryAt_of_find hfind
  case climbs_pos =>
    rintro context q n rest hcontext hq rfl hinner hn
    exact Path.climbs_join_pos hcontext hq hinner hn

/-- A request goes up twice from a directory with one name, which is above the start, and is answered
by a file in the directory where the path starts. -/
theorem normalize_forgets_climbs_template :
    ((Path.mk "src").join ⟨"../../t.html"⟩).normalize.parts = [.name "t.html".toList] ∧
      0 < ((Path.mk "src").join ⟨"../../t.html"⟩).place.climbs ∧
      (Workspace.toFileTree [("t.html", .file (some ""))]).isFile
        ((Path.mk "src").join ⟨"../../t.html"⟩) = false ∧
      (Host.mk (Workspace.toFileTree [("t.html", .file (some ""))]) none).resolve ⟨"src"⟩
        "../../t.html" = .ok ⟨"t.html"⟩ := by
  have hrelative : ((Path.mk "src").join ⟨"../../t.html"⟩).isAbsolute = false := rfl
  have hplace : ((Path.mk "src").join ⟨"../../t.html"⟩).place = ⟨1, ["t.html"]⟩ := by decide
  have hforgets := normalize_forgets_climbs hrelative
  refine ⟨?_, ?_, ?_, ?_⟩
  · rw [hforgets.parts_eq, hplace]
    rfl
  · exact hforgets.climbs_pos ⟨"src"⟩ ⟨"../../t.html"⟩ 2 [.name "t.html".toList] rfl rfl rfl rfl
      (by decide)
  · rw [Bool.eq_false_iff]
    intro hfile
    obtain ⟨content, hfind⟩ := FileTree.isFile_iff.1 hfile
    have hentry := hforgets.find_ok _ _ hfind
    rw [hplace] at hentry
    cases hentry
  · have hbase : GoesOnFrom ⟨Workspace.toFileTree [("t.html", .file (some ""))], none⟩ ⟨"src"⟩
        "../../t.html" ⟨"src"⟩ := ⟨fun _ => rfl, fun _ => rfl⟩
    rw [hforgets.resolve_ok _ _ _ _ hbase rfl, hplace]
    exact ⟨rfl, some "", rfl⟩

/-- The part that goes up above the start is not kept, and a file below the start is found. -/
theorem climb_finds_file_below :
    (Path.mk "src/../../t.html").place = ⟨1, ["t.html"]⟩ ∧
      (Path.mk "src/../../t.html").normalize.parts ≠ [.up, .name "t.html".toList] ∧
      (Path.mk "src/../../t.html").normalize.parts = [.name "t.html".toList] ∧
      (Host.mk (Workspace.toFileTree [("t.html", .file (some ""))]) none).resolve ⟨"src"⟩
        "../../t.html" = .ok ⟨"t.html"⟩ := by
  refine ⟨by decide, by decide, by decide, rfl⟩

end Host

end TemplateImports
