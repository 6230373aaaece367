import Mathlib
import TemplateImports.Loading.Transformation

/-!
# Jobs on a shared host

A host serves many jobs, one after the other, and keeps one record of the files that they depend
on.  A job adds to the record while it runs, also when it fails halfway, and nothing that a job does
reads the record.  So a job is answered as if it were alone, and the record is put together from
what each job adds.

What a job adds follows the places where it can fail: the path of the component comes before the
component is read, and the path of an external template before the template is read.

Main results:

- Definition `Loader.serve` runs jobs on a host with a record.
- Theorem `runOn_bind` says that a sequence of steps writes to the record step by step.
- Theorem `dependencies_answer` says what a job adds to the record.
- Structure `Loader.ServesIndependently` lists how the jobs of a run are answered and what is
  recorded; theorem `serve_independent` says that it holds of every run.
-/

namespace TemplateImports

/-! ## Running on a record -/

namespace Tracked

variable {α β : Type}

/-- Runs a step on a host that has recorded dependencies before. -/
def runOn (step : Tracked α) (recorded : List Path) : Except Failure α × List Path :=
  (step.outcome, recorded ++ step.dependencies)

/-- A sequence goes on with the record that its first step leaves, unless that step fails. -/
theorem runOn_bind (first : Tracked α) (next : α → Tracked β) (recorded : List Path) :
    (first.bind next).runOn recorded =
      match first.runOn recorded with
      | (.ok value, recorded) => (next value).runOn recorded
      | (.error failure, recorded) => (.error failure, recorded) := by
  cases h : first.outcome <;> simp [runOn, bind, h]

/-- A last step without dependencies adds none. -/
theorem dependencies_bind_pure (first : Tracked α) (f : α → β) :
    (first.bind fun value => .pure (f value)).dependencies = first.dependencies := by
  cases h : first.outcome <;> simp [bind, h, pure]

/-- A last step that cannot fail changes the result only. -/
theorem outcome_bind_pure (first : Tracked α) (f : α → β) :
    (first.bind fun value => .pure (f value)).outcome = first.outcome.map f := by
  cases h : first.outcome <;> simp [bind, h, pure, Except.map]

end Tracked

/-! ## Jobs -/

/-- What can be done for a request. -/
inductive JobKind where
  | transform
  | process
  | analyze
deriving Repr, DecidableEq

/-- A request with the script that was generated for it, and what is to be done. -/
structure Job where
  kind : JobKind
  request : Request
  content : String := ""
deriving Repr, DecidableEq

/-- The answer to a job. -/
inductive Answer where
  | transformed (result : Transformed)
  | processed (code : String)
  | analyzed (analysis : Analysis)
deriving Repr, DecidableEq

/-- Whether a job asks to transform a part of a component, which is passed over. -/
def Job.isPassedOver (job : Job) : Bool :=
  job.kind != .analyze && job.request.isPartial

namespace Loader

/-- Does a job. -/
def answer (loader : Loader) (host : Host) (job : Job) : Tracked Answer :=
  match job.kind with
  | .transform =>
    (loader.transform host job.request job.content).bind fun t => .pure (.transformed t)
  | .process => (loader.process host job.request job.content).bind fun c => .pure (.processed c)
  | .analyze => (loader.analyze host job.request).bind fun a => .pure (.analyzed a)

/-- Does jobs one after the other on a host that has recorded dependencies before. -/
def serve (loader : Loader) (host : Host) :
    List Path → List Job → List (Except Failure Answer) × List Path
  | recorded, [] => ([], recorded)
  | recorded, job :: jobs =>
    let (outcome, recorded) := (loader.answer host job).runOn recorded
    let (outcomes, recorded) := serve loader host recorded jobs
    (outcome :: outcomes, recorded)

end Loader

/-! ## Dependencies of a job -/

theorem toOption_eq_some_iff {α : Type} {outcome : Except Failure α} {value : α} :
    outcome.toOption = some value ↔ outcome = .ok value := by
  cases outcome <;> simp [Except.toOption]

namespace Host

/-- The file of the template of a component, if the component can be read, its template block names
a file, and the name leads to one. -/
def templateFile? (host : Host) (r : Request) : Option Path := do
  let source ← (host.read r.path).toOption
  let block ← (Component.parse source).template
  let src ← block.src
  (host.resolve r.directory src).toOption

/-- The files that a job depends on. -/
def dependenciesOf (host : Host) (job : Job) : List Path :=
  if job.isPassedOver then []
  else job.request.path :: (host.templateFile? job.request).toList

theorem templateFile?_eq_some_iff {host : Host} {r : Request} {p : Path} :
    host.templateFile? r = some p ↔
      ∃ source block src, host.read r.path = .ok source ∧
        (Component.parse source).template = some block ∧ block.src = some src ∧
        host.resolve r.directory src = .ok p := by
  simp [templateFile?, Option.bind_eq_some_iff, toOption_eq_some_iff]

/-- A block depends on the file that its name leads to, whether or not that can be read. -/
theorem dependencies_content (host : Host) (r : Request) (block : Component.Block) :
    (host.content r block).dependencies =
      (block.src.bind fun src => (host.resolve r.directory src).toOption).toList := by
  unfold content
  cases block.src with
  | none => rfl
  | some src =>
    cases h : host.resolve r.directory src with
    | error failure => simp [h, Tracked.bind, Tracked.ofExcept, Except.toOption]
    | ok p => simp [h, Tracked.bind, Tracked.ofExcept, Tracked.depend, Except.toOption]

end Host

/-- A template depends on what its block depends on. -/
theorem dependencies_loadTemplate (host : Host) (renderers : Renderers) (r : Request)
    (component : Component) :
    (loadTemplate host renderers r component).dependencies =
      (component.template.bind fun block =>
        block.src.bind fun src => (host.resolve r.directory src).toOption).toList := by
  unfold loadTemplate
  cases component.template with
  | none => rfl
  | some block =>
    exact (Tracked.dependencies_bind_pure _ _).trans (host.dependencies_content r block)

namespace Loader

/-- An analysis depends on the component, whether or not that can be read, and on the file of its
template. -/
theorem dependencies_analyze (loader : Loader) (host : Host) (r : Request) :
    (loader.analyze host r).dependencies = r.path :: (host.templateFile? r).toList := by
  have hstart : (Tracked.depend r.path).outcome = .ok () := rfl
  unfold analyze
  rw [Tracked.dependencies_bind_ok hstart]
  refine congrArg (r.path :: ·) ?_
  cases h : host.read r.path with
  | error failure =>
    have hnone : host.templateFile? r = none := by simp [Host.templateFile?, h, Except.toOption]
    rw [hnone, Tracked.dependencies_bind_error rfl]
    rfl
  | ok source =>
    have htemplate : host.templateFile? r = (Component.parse source).template.bind fun block =>
        block.src.bind fun src => (host.resolve r.directory src).toOption := by
      simp [Host.templateFile?, h, Except.toOption]
    rw [Tracked.dependencies_bind_ok rfl, htemplate]
    exact (Tracked.dependencies_bind_pure _ _).trans (dependencies_loadTemplate host _ r _)

variable {loader : Loader} {host : Host} {r : Request}

/-- A request for a whole component is transformed by its analysis. -/
theorem transform_of_not_isPartial (h : r.isPartial = false) (content : String) :
    loader.transform host r content =
      (loader.analyze host r).bind fun a =>
        .pure ⟨injectAll (.ofSettings loader.settings) a content, some a⟩ := by
  simp [transform, h]

theorem dependencies_process (loader : Loader) (host : Host) (r : Request) (content : String) :
    (loader.process host r content).dependencies =
      (loader.transform host r content).dependencies :=
  Tracked.dependencies_bind_pure _ _

theorem dependencies_transform (loader : Loader) (host : Host) (r : Request) (content : String) :
    (loader.transform host r content).dependencies =
      if r.isPartial then [] else r.path :: (host.templateFile? r).toList := by
  by_cases h : r.isPartial = true
  · simp [transform_of_isPartial h, h, Tracked.pure]
  · rw [transform_of_not_isPartial (by simpa using h), Tracked.dependencies_bind_pure,
      dependencies_analyze]
    simp [h]

/-- A job that is passed over returns its script and adds nothing. -/
theorem outcome_of_isPartial (h : r.isPartial = true) (content : String) :
    (loader.transform host r content).outcome = .ok ⟨content, none⟩ ∧
      (loader.process host r content).outcome = .ok content := by
  rw [process, transform_of_isPartial h]
  exact ⟨rfl, rfl⟩

/-- What a job adds to the record. -/
theorem dependencies_answer (loader : Loader) (host : Host) (job : Job) :
    (loader.answer host job).dependencies = host.dependenciesOf job := by
  obtain ⟨kind, r, content⟩ := job
  cases kind <;>
    simp [answer, Tracked.dependencies_bind_pure, dependencies_process, dependencies_transform,
      dependencies_analyze, Host.dependenciesOf, Job.isPassedOver]

/-! ## Runs -/

/-- What a run answers and records. -/
theorem serve_eq (loader : Loader) (host : Host) (recorded : List Path) (jobs : List Job) :
    loader.serve host recorded jobs =
      (jobs.map fun job => (loader.answer host job).outcome,
        recorded ++ jobs.flatMap host.dependenciesOf) := by
  induction jobs generalizing recorded with
  | nil => simp [serve]
  | cons job jobs ih => simp [serve, Tracked.runOn, ih, dependencies_answer]

/-- Jobs with their answers in a run. -/
theorem zip_serve (loader : Loader) (host : Host) (recorded : List Path) (jobs : List Job) :
    jobs.zip (loader.serve host recorded jobs).1 =
      jobs.map fun job => (job, (loader.answer host job).outcome) := by
  rw [serve_eq]
  induction jobs with
  | nil => rfl
  | cons job jobs ih => simpa using ih

/-- The failures of a transformation, of its script and of an analysis are the same. -/
theorem outcome_eq_error_iff (h : r.isPartial = false) (content : String) (failure : Failure) :
    ((loader.transform host r content).outcome = .error failure ↔
        (loader.analyze host r).outcome = .error failure) ∧
      ((loader.process host r content).outcome = .error failure ↔
        (loader.analyze host r).outcome = .error failure) := by
  have hprocess : (loader.process host r content).outcome =
      (loader.transform host r content).outcome.map Transformed.code :=
    Tracked.outcome_bind_pure _ _
  rw [hprocess, transform_of_not_isPartial h, Tracked.outcome_bind_pure]
  cases (loader.analyze host r).outcome <;> simp [Except.map]

/-- What a run of jobs on one host answers, and what it records. -/
structure ServesIndependently (loader : Loader) (host : Host) (recorded : List Path)
    (jobs : List Job) : Prop where
  /-- Every job is answered as if it were alone on a fresh host. -/
  answers_eq : (loader.serve host recorded jobs).1 =
    jobs.flatMap fun job => (loader.serve host [] [job]).1
  /-- Another order of the jobs only reorders their answers. -/
  answers_perm : ∀ jobs', jobs.Perm jobs' →
    (jobs.zip (loader.serve host recorded jobs).1).Perm
      (jobs'.zip (loader.serve host recorded jobs').1)
  /-- The record is put together from what the jobs add in turn. -/
  record_eq : (loader.serve host recorded jobs).2 = recorded ++ jobs.flatMap host.dependenciesOf
  /-- A transformation of a part of a component adds nothing, and its script stays as it is. -/
  partial_job : ∀ job : Job, job.kind ≠ .analyze → job.request.query ≠ "" →
    host.dependenciesOf job = [] ∧
    (loader.transform host job.request job.content).outcome = .ok ⟨job.content, none⟩ ∧
    (loader.process host job.request job.content).outcome = .ok job.content
  /-- Any other job adds the path of the component, followed by the file of its template exactly if
  the component can be read, its template block names a file, and the name leads to one. -/
  whole_job : ∀ job : Job, job.kind = .analyze ∨ job.request.query = "" →
    ∃ file : Option Path,
      host.dependenciesOf job = job.request.path :: file.toList ∧
      ∀ p, file = some p ↔
        ∃ source block src, host.read job.request.path = .ok source ∧
          (Component.parse source).template = some block ∧ block.src = some src ∧
          host.resolve job.request.directory src = .ok p
  /-- For a whole component, the three kinds of jobs depend on the same files. -/
  same_dependencies : ∀ r content, r.query = "" →
    (loader.transform host r content).dependencies = (loader.analyze host r).dependencies ∧
    (loader.process host r content).dependencies = (loader.analyze host r).dependencies
  /-- For a whole component, the three kinds of jobs fail alike. -/
  same_failures : ∀ r content, r.query = "" → ∀ failure,
    ((loader.transform host r content).outcome = .error failure ↔
      (loader.analyze host r).outcome = .error failure) ∧
    ((loader.process host r content).outcome = .error failure ↔
      (loader.analyze host r).outcome = .error failure)

/-- In a run of jobs on one host, no job has to do with the others, and the record holds exactly what
each of them adds. -/
theorem serve_independent (loader : Loader) (host : Host) (recorded : List Path)
    (jobs : List Job) : loader.ServesIndependently host recorded jobs := by
  constructor
  case answers_eq => simp [serve_eq, List.map_eq_flatMap]
  case answers_perm =>
    intro jobs' h
    rw [zip_serve, zip_serve]
    exact h.map _
  case record_eq => rw [serve_eq]
  case partial_job =>
    intro job hkind hquery
    have hpart : job.request.isPartial = true := by simpa [Request.isPartial] using hquery
    exact ⟨by simp [Host.dependenciesOf, Job.isPassedOver, hkind, hpart],
      outcome_of_isPartial hpart job.content⟩
  case whole_job =>
    intro job hwhole
    have hpassed : job.isPassedOver = false := by
      rcases hwhole with hkind | hquery
      · simp [Job.isPassedOver, hkind]
      · simp [Job.isPassedOver, Request.isPartial, hquery]
    exact ⟨host.templateFile? job.request, by simp [Host.dependenciesOf, hpassed],
      fun p => Host.templateFile?_eq_some_iff⟩
  case same_dependencies =>
    intro r content hquery
    have hwhole : r.isPartial = false := by simp [Request.isPartial, hquery]
    have htransform : (loader.transform host r content).dependencies =
        (loader.analyze host r).dependencies := by
      simp [dependencies_transform, dependencies_analyze, hwhole]
    exact ⟨htransform, (dependencies_process loader host r content).trans htransform⟩
  case same_failures =>
    intro r content hquery failure
    have hwhole : r.isPartial = false := by simp [Request.isPartial, hquery]
    exact outcome_eq_error_iff hwhole content failure

set_option maxRecDepth 4000 in
/-- A transformation fails at the file of its template, which is no text, and leaves both paths on
the record; a transformation of a part of a component that does not exist follows. -/
theorem serve_independent_unreadable :
    (serve ⟨{}, fun _ => [], fun _ => 0, []⟩
      ⟨⟨[("proj", .directory [("a.vue", .file (some "<template src=\"./b\"/>")),
        ("b", .file none)])], []⟩, none⟩ []
      [⟨.transform, { path := ⟨"/proj/a.vue"⟩ }, "x"⟩,
        ⟨.process, { path := ⟨"/proj/c.vue"⟩, query := "?vue" }, "y"⟩]).2 =
      [⟨"/proj/a.vue"⟩, ⟨"/proj/b"⟩] := by
  have hserves := serve_independent ⟨{}, fun _ => [], fun _ => 0, []⟩
    ⟨⟨[("proj", .directory [("a.vue", .file (some "<template src=\"./b\"/>")),
      ("b", .file none)])], []⟩, none⟩ []
    [⟨.transform, { path := ⟨"/proj/a.vue"⟩ }, "x"⟩,
      ⟨.process, { path := ⟨"/proj/c.vue"⟩, query := "?vue" }, "y"⟩]
  obtain ⟨file, hfiles, hfile⟩ :=
    hserves.whole_job ⟨.transform, { path := ⟨"/proj/a.vue"⟩ }, "x"⟩ (Or.inr rfl)
  obtain ⟨hnone, -⟩ :=
    hserves.partial_job ⟨.process, { path := ⟨"/proj/c.vue"⟩, query := "?vue" }, "y"⟩
      (by decide) (by decide)
  have hread : (Component.parse "<template src=\"./b\"/>").template =
      some ⟨"template", "", [("src", "./b")]⟩ := by
    cbv
  have hresolve : Host.resolve ⟨⟨[("proj", .directory
      [("a.vue", .file (some "<template src=\"./b\"/>")), ("b", .file none)])], []⟩, none⟩
      ⟨"/proj"⟩ "./b" = .ok ⟨"/proj/b"⟩ := by
    cbv
  have hb : file = some ⟨"/proj/b"⟩ := (hfile ⟨"/proj/b"⟩).2 ⟨_, _, _, rfl, hread, rfl, hresolve⟩
  rw [hserves.record_eq, List.flatMap_cons, hfiles, hb, List.flatMap_singleton, hnone]
  rfl

end Loader

end TemplateImports
