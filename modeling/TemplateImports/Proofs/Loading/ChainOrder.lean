import TemplateImports.Loading.Loader

/-!
# The order of matchers in a loader

A loader is built from settings and then receives more matchers, which may belong to any category.
Each category has its own chain and its own count of the matchers added so far, and a new matcher
is put at the place that the count names.  The count is right because it is the length of the part
of the chain that holds the added matchers: this is the invariant of a run of additions.

Main results:

- Theorem `ofSettings_eq` says what is built from settings, and which rule is reported if nothing
  is.
- Definition `Loader.addMatchers` is a run of additions, and definition `addedFor` lists the
  matchers that it adds for a category.
- Structure `Arranged` is the invariant; theorem `Arranged.addMatchers` says that a run keeps it.
- Theorem `ofSettings_chain_order` says which matcher answers a name.
-/

namespace TemplateImports

/-! ## Building chains from rules -/

/-- Whether the pattern of a rule cannot be read. -/
def Rule.isMalformed (rule : Rule) : Bool :=
  (Pattern.compile? rule.pattern).isNone

theorem Rule.isMalformed_iff {rule : Rule} :
    rule.isMalformed = true ↔ Pattern.compile? rule.pattern = none := by
  simp [isMalformed]

theorem Rule.isMalformed_eq_false_iff {rule : Rule} :
    rule.isMalformed = false ↔ (Pattern.compile? rule.pattern).isSome := by
  simp [isMalformed]

theorem Rule.matcher?_isNone (rule : Rule) : rule.matcher?.isNone = rule.isMalformed := by
  simp [matcher?, isMalformed]

/-- The matchers of rules. -/
def rulesChain (rules : List Rule) : Chain :=
  rules.filterMap Rule.matcher?

/-- If no rule is malformed, each of them has its matcher. -/
theorem map_matcher?_eq {rules : List Rule} (h : ∀ rule ∈ rules, rule.isMalformed = false) :
    rules.map Rule.matcher? = (rulesChain rules).map some := by
  induction rules with
  | nil => rfl
  | cons rule rules ih =>
    have hrest := ih fun other hmem => h other (List.mem_cons_of_mem _ hmem)
    have hrule := h rule List.mem_cons_self
    rw [← rule.matcher?_isNone] at hrule
    cases hm : rule.matcher? with
    | none => simp [hm] at hrule
    | some m => simp [rulesChain, hm, hrest]

namespace Loader

/-- The matchers of rules are those of all of them, unless one is malformed: then the first such
rule is the failure. -/
theorem ruleMatchers_eq (rules : List Rule) :
    ruleMatchers rules =
      match rules.find? Rule.isMalformed with
      | some rule => .error (.malformedPattern rule.pattern)
      | none => .ok (rulesChain rules) := by
  induction rules with
  | nil => rfl
  | cons rule rules ih =>
    have hrule := rule.matcher?_isNone
    cases hm : rule.matcher? with
    | none =>
      rw [hm] at hrule
      have hbad : rule.isMalformed = true := by simpa using hrule.symm
      simp [ruleMatchers, ruleMatcher, hm, hbad]
    | some m =>
      rw [hm] at hrule
      have hgood : rule.isMalformed = false := by simpa using hrule.symm
      simp only [ruleMatchers, ruleMatcher, hm, ih, List.find?_cons_of_neg, hgood,
        Bool.false_eq_true, not_false_eq_true]
      cases rules.find? Rule.isMalformed with
      | none => simp [rulesChain, hm]
      | some bad => rfl

/-- All rules of settings, in the order in which they are read. -/
def declaredRules (settings : Settings) : List Rule :=
  Category.all.flatMap settings.rules

theorem mem_declaredRules {settings : Settings} {rule : Rule} :
    rule ∈ declaredRules settings ↔ ∃ c, rule ∈ settings.rules c := by
  simp [declaredRules, Category.mem_all]

/-- The loader of settings without malformed rules: each chain has the rules of its category, and
the built-in matcher behind them. -/
def declared (settings : Settings) : Loader where
  settings
  chains c := rulesChain (settings.rules c) ++ [settings.library.matcher c]

/-- A loader is built from settings unless a rule is malformed; the first such rule is the
failure. -/
theorem ofSettings_eq (settings : Settings) :
    ofSettings settings =
      match (declaredRules settings).find? Rule.isMalformed with
      | some rule => .error (.malformedPattern rule.pattern)
      | none => .ok (declared settings) := by
  have hrules : declaredRules settings =
      settings.rules .tag ++ (settings.rules .directive ++ settings.rules .icon) := by
    simp [declaredRules, Category.all]
  rw [hrules, List.find?_append, List.find?_append]
  simp only [ofSettings, chainOf, ruleMatchers_eq]
  cases (settings.rules .tag).find? Rule.isMalformed with
  | some rule => rfl
  | none =>
    cases (settings.rules .directive).find? Rule.isMalformed with
    | some rule => rfl
    | none =>
      cases (settings.rules .icon).find? Rule.isMalformed with
      | some rule => rfl
      | none =>
        simp only [Option.none_or, Except.map, declared, Except.ok.injEq, Loader.mk.injEq,
          true_and, and_true]
        funext c
        cases c <;> rfl

/-- A loader is built exactly if no rule is malformed. -/
theorem exists_ofSettings_iff {settings : Settings} :
    (∃ loader, ofSettings settings = .ok loader) ↔
      ∀ rule ∈ declaredRules settings, rule.isMalformed = false := by
  rw [ofSettings_eq]
  cases h : (declaredRules settings).find? Rule.isMalformed with
  | none => simpa using h
  | some rule =>
    have hmem := List.mem_of_find?_eq_some h
    have hbad := List.find?_some h
    simp only [reduceCtorEq, exists_false, false_iff]
    intro hall
    simp [hall rule hmem] at hbad

theorem ofSettings_eq_error_iff {settings : Settings} {failure : Failure} :
    ofSettings settings = .error failure ↔
      ∃ rule, (declaredRules settings).find? Rule.isMalformed = some rule ∧
        failure = .malformedPattern rule.pattern := by
  rw [ofSettings_eq]
  cases h : (declaredRules settings).find? Rule.isMalformed with
  | none => simp
  | some rule => simp [eq_comm]

theorem eq_declared_of_ofSettings {settings : Settings} {loader : Loader}
    (h : ofSettings settings = .ok loader) : loader = declared settings := by
  rw [ofSettings_eq] at h
  split at h
  · simp at h
  · exact (Except.ok.inj h).symm

/-! ## Runs of additions -/

/-- A loader after matchers were added to it, one after the other. -/
def addMatchers (loader : Loader) (additions : List (Category × Matcher)) : Loader :=
  additions.foldl (fun loader addition => loader.addMatcher addition.1 addition.2) loader

/-- The matchers that a run adds for a category, in the order of their addition. -/
def addedFor (c : Category) (additions : List (Category × Matcher)) : Chain :=
  (additions.filter fun addition => addition.1 = c).map (·.2)

/-- Every chain starts with the matchers added for its category and goes on with what it was built
with, and the matchers added to it are counted. -/
structure Arranged (built : Category → Chain) (additions : List (Category × Matcher))
    (loader : Loader) : Prop where
  chains : ∀ c, loader.chains c = addedFor c additions ++ built c
  added : ∀ c, loader.added c = (addedFor c additions).length

variable {built : Category → Chain} {additions : List (Category × Matcher)} {loader : Loader}

theorem addedFor_concat (c d : Category) (additions : List (Category × Matcher)) (m : Matcher) :
    addedFor c (additions ++ [(d, m)]) = addedFor c additions ++ if d = c then [m] else [] := by
  by_cases h : d = c <;> simp [addedFor, h]

/-- One addition keeps the chains arranged. -/
theorem Arranged.addMatcher (h : Arranged built additions loader) (d : Category) (m : Matcher) :
    Arranged built (additions ++ [(d, m)]) (loader.addMatcher d m) where
  chains c := by
    rw [addedFor_concat]
    by_cases hc : c = d
    · -- The count is the place right behind the matchers added before.
      subst hc
      simp [Loader.addMatcher, h.chains, h.added, Chain.insertAt]
    · simp [chains_addMatcher_of_ne hc, Ne.symm hc, h.chains]
  added c := by
    rw [addedFor_concat]
    by_cases hc : c = d
    · subst hc
      simp [Loader.addMatcher, h.added]
    · simp [Loader.addMatcher, hc, Ne.symm hc, h.added]

/-- A run of additions keeps the chains arranged. -/
theorem Arranged.addMatchers (h : Arranged built additions loader)
    (more : List (Category × Matcher)) :
    Arranged built (additions ++ more) (loader.addMatchers more) := by
  induction more generalizing additions loader with
  | nil => simpa [Loader.addMatchers] using h
  | cons addition more ih =>
    have hrest := ih (h.addMatcher addition.1 addition.2)
    rwa [List.append_assoc] at hrest

/-- A loader that was just built is arranged. -/
theorem arranged_declared (settings : Settings) :
    Arranged (declared settings).chains [] (declared settings) :=
  ⟨fun _ => rfl, fun _ => rfl⟩

/-- The chains of a loader that was built from settings and then received matchers. -/
theorem chains_addMatchers {settings : Settings} (h : ofSettings settings = .ok loader)
    (additions : List (Category × Matcher)) (c : Category) :
    (loader.addMatchers additions).chains c =
      addedFor c additions ++ rulesChain (settings.rules c) ++ [settings.library.matcher c] := by
  rw [eq_declared_of_ofSettings h,
    ((arranged_declared settings).addMatchers additions).chains c, List.append_assoc]
  rfl

/-! ## Which matcher answers -/

/-- A matcher of a chain answers a used name, and all those before it decline. -/
def AnswersFirst (chain : Chain) (u : NameUse) (answer : Import) : Prop :=
  ∃ before m after, chain = before ++ m :: after ∧ m u = some answer ∧
    ∀ earlier ∈ before, earlier u = none

/-- The answer of a chain is that of the first matcher that has one. -/
theorem answer?_eq_some_iff {chain : Chain} {u : NameUse} {answer : Import} :
    chain.answer? u = some answer ↔ AnswersFirst chain u answer :=
  List.findSome?_eq_some_iff

/-- A loader can be built from settings exactly if the pattern of every rule can be read; otherwise
the first rule whose pattern cannot, in the order of the categories and of the rules of each, is
reported.  However matchers are added to the loader, the names of a category are answered by the
first of these that has an answer: the matchers added for the category in the order of their
addition, its rules in order, and its built-in matcher; and adding a matcher for one category
changes no other chain. -/
theorem ofSettings_chain_order (settings : Settings) :
    ((∃ loader, ofSettings settings = .ok loader) ↔
      ∀ c, ∀ rule ∈ settings.rules c, (Pattern.compile? rule.pattern).isSome) ∧
    (∀ failure, ofSettings settings = .error failure ↔
      ∃ before rule after, Category.all.flatMap settings.rules = before ++ rule :: after ∧
        (∀ earlier ∈ before, (Pattern.compile? earlier.pattern).isSome) ∧
        Pattern.compile? rule.pattern = none ∧ failure = .malformedPattern rule.pattern) ∧
    ∀ loader, ofSettings settings = .ok loader →
      ∀ (additions : List (Category × Matcher)) (c : Category),
        (settings.rules c).map Rule.matcher? = (rulesChain (settings.rules c)).map some ∧
        (loader.addMatchers additions).chains c =
          addedFor c additions ++ rulesChain (settings.rules c) ++ [settings.library.matcher c] ∧
        (∀ u answer, ((loader.addMatchers additions).chains c).answer? u = some answer ↔
          AnswersFirst
            (addedFor c additions ++ rulesChain (settings.rules c) ++ [settings.library.matcher c])
            u answer) ∧
        ∀ d m, d ≠ c → ((loader.addMatchers additions).addMatcher d m).chains c =
          (loader.addMatchers additions).chains c := by
  refine ⟨?_, ?_, ?_⟩
  · rw [exists_ofSettings_iff]
    constructor
    · intro h c rule hmem
      exact Rule.isMalformed_eq_false_iff.1 (h rule (mem_declaredRules.2 ⟨c, hmem⟩))
    · intro h rule hmem
      obtain ⟨c, hc⟩ := mem_declaredRules.1 hmem
      exact Rule.isMalformed_eq_false_iff.2 (h c rule hc)
  · intro failure
    rw [ofSettings_eq_error_iff]
    simp only [List.find?_eq_some_iff_append, Bool.not_eq_true', Rule.isMalformed_eq_false_iff,
      Rule.isMalformed_iff, declaredRules]
    constructor
    · rintro ⟨rule, ⟨hbad, before, after, hcut, hbefore⟩, hfailure⟩
      exact ⟨before, rule, after, hcut, hbefore, hbad, hfailure⟩
    · rintro ⟨before, rule, after, hcut, hbefore, hbad, hfailure⟩
      exact ⟨rule, ⟨hbad, before, after, hcut, hbefore⟩, hfailure⟩
  · intro loader hbuilt additions c
    have hgood := exists_ofSettings_iff.1 ⟨loader, hbuilt⟩
    refine ⟨map_matcher?_eq fun rule hmem => hgood rule (mem_declaredRules.2 ⟨c, hmem⟩),
      chains_addMatchers hbuilt additions c, fun u answer => ?_,
      fun d m hne => chains_addMatcher_of_ne (Ne.symm hne) m⟩
    rw [chains_addMatchers hbuilt, answer?_eq_some_iff]

/-- Matchers of two categories are added in turns to a loader with one rule: the first tag matcher
is asked before the second one, which is asked before the rule. -/
theorem ofSettings_chain_order_interleaved :
    ∃ loader, ofSettings { tagRules := .one ⟨"^v", "K", "import K"⟩ } = .ok loader ∧
      ((loader.addMatchers
        [(.tag, fun u => if u.name == "v-btn" then some ⟨"First", "import First"⟩ else none),
          (.icon, fun _ => some ⟨"Icon", "import Icon"⟩),
          (.tag, fun _ => some ⟨"Second", "import Second"⟩)]).chains .tag).answer?
        ⟨.tag, "v-card", "App.vue", {}⟩ = some ⟨"Second", "import Second"⟩ := by
  obtain ⟨hbuilt, -, horder⟩ :=
    ofSettings_chain_order { tagRules := .one ⟨"^v", "K", "import K"⟩ }
  have hreadable : (Pattern.compile? "^v").isSome = true := by decide
  obtain ⟨loader, hloader⟩ := hbuilt.2 fun c rule hmem => by
    cases c with
    | tag =>
      obtain rfl := List.mem_singleton.1 hmem
      exact hreadable
    | directive => cases hmem
    | icon => cases hmem
  obtain ⟨-, -, hanswer, -⟩ := horder loader hloader
    [(.tag, fun u => if u.name == "v-btn" then some ⟨"First", "import First"⟩ else none),
      (.icon, fun _ => some ⟨"Icon", "import Icon"⟩),
      (.tag, fun _ => some ⟨"Second", "import Second"⟩)] .tag
  exact ⟨loader, hloader, (hanswer _ _).2 ⟨[_], _, _, rfl, rfl, by simp⟩⟩

end Loader

end TemplateImports
