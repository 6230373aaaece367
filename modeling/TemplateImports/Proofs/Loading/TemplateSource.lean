import TemplateImports.Loading.Loader
import TemplateImports.Proofs.Component.Balance

/-!
# Where a template comes from

A template stands in the component, in a file of its own, or in another language that a renderer turns
into markup.  Each way ends in the same markup, so that the analyses are the same unless a matcher
looks at the component itself.

Values with a closing bracket are left out: they end the tag that they stand in.

Main results:

- Predicate `Loader.IgnoresComponents` says that no matcher looks at the component.
- Theorem `parse_template_append` reads a component that starts with a template.
- Theorem `loadTemplate_put_of_fails` says that a renderer that fails is like none.
- Theorem `analyze_of_every_source` says that all sources of a markup have the same analysis.
-/

namespace TemplateImports

open Component

/-! ## Loaders that do not look at components -/

/-- The matchers of a loader answer in the same way whatever the component is. -/
def Loader.IgnoresComponents (loader : Loader) : Prop :=
  ∀ c, ∀ m ∈ loader.chains c, ∀ (u : NameUse) (component : Component),
    m { u with component := component } = m u

/-- Two uses that each matcher answers in the same way have the same first answer. -/
theorem Chain.answer?_congr {chain : Chain} {u v : NameUse} (h : ∀ m ∈ chain, m u = m v) :
    chain.answer? u = chain.answer? v := by
  induction chain with
  | nil => rfl
  | cons m chain ih =>
    rw [answer?_cons, answer?_cons, h m (List.mem_cons_self ..),
      ih fun n hn => h n (List.mem_cons_of_mem _ hn)]

namespace Loader

variable {loader : Loader}

theorem IgnoresComponents.resolveNames_eq (h : loader.IgnoresComponents) (c : Category)
    (path : String) (first second : Component) (names : List String) :
    loader.resolveNames c path first names = loader.resolveNames c path second names := by
  have hanswers : (loader.chains c).answers ⟨c, path, first⟩ names =
      (loader.chains c).answers ⟨c, path, second⟩ names := by
    refine List.filterMap_congr fun name _ => Chain.answer?_congr fun m hm => ?_
    exact h c m hm ⟨c, name, path, second⟩ first
  rw [resolveNames, resolveNames, resolve, resolve, hanswers]

/-- The analysis of a template does not depend on the component around it. -/
theorem IgnoresComponents.analysisOf_eq (h : loader.IgnoresComponents) (path : String)
    (first second : Component) (template : Option String) :
    loader.analysisOf path first template = loader.analysisOf path second template := by
  simp only [analysisOf, h.resolveNames_eq _ path first second]

end Loader

/-! ## Components that start with a template -/

namespace Component

/-- A component that starts with a template has that template, whatever follows. -/
theorem parse_template_append {attributes : List WrittenAttribute} {content : List Char}
    (hattributes : WellFormedAttributes attributes) (hcontent : Balanced 0 content)
    (rest : List Char) :
    (Component.parse (String.ofList
        (writeBlock templateTag attributes content ++ rest))).template =
      some ⟨"template", String.ofList content, attributes.map WrittenAttribute.entry⟩ := by
  have hcut : cutContent templateTag (content ++ ('<' :: '/' :: templateTag ++ '>' :: rest)) =
      some (content, rest) :=
    cutTemplate_of_balanced hcontent rest
  rw [Component.parse, String.toList_ofList,
    blocks_writeBlock_append isTag_templateTag hattributes rest hcut, ofBlocks_eq_gather]
  rfl

end Component

/-! ## Loading -/

/-- A renderer that fails is like none, for every component: the result, the failure and the
dependencies are the same. -/
theorem loadTemplate_put_of_fails (host : Host) {renderers : Renderers} {lang : String}
    {renderer : Renderer} (hfails : ∀ text p, renderer text p = none)
    (hnone : renderers.lookup lang = none) (r : Request) (component : Component) :
    loadTemplate host (KeyedList.put lang renderer renderers) r component =
      loadTemplate host renderers r component := by
  have hrender : ∀ used p text, render (KeyedList.put lang renderer renderers) used p text =
      render renderers used p text := by
    intro used p text
    cases used with
    | none => rfl
    | some used =>
      by_cases hused : used = lang
      · subst hused
        simp [render, KeyedList.lookup_put, hfails, hnone]
      · simp [render, KeyedList.lookup_put, hused]
  simp only [loadTemplate, hrender]

namespace Loader

variable {loader : Loader}

/-- A loader with a renderer that fails is like one without it. -/
theorem analyze_addRenderer_of_fails {lang : String} {renderer : Renderer}
    (hfails : ∀ text p, renderer text p = none) (hnone : loader.renderers.lookup lang = none)
    (host : Host) (r : Request) :
    (loader.addRenderer lang renderer).analyze host r = loader.analyze host r := by
  have hload := fun component =>
    loadTemplate_put_of_fails host hfails hnone r component
  have hanalysis : (loader.addRenderer lang renderer).analysisOf = loader.analysisOf := rfl
  have hrenderers : (loader.addRenderer lang renderer).renderers =
      KeyedList.put lang renderer loader.renderers := rfl
  simp only [analyze, hrenderers, hload, hanalysis]

/-- The analysis of a component that can be read is decided by its template. -/
theorem outcome_analyze {host : Host} {r : Request} {source : String}
    (hread : host.read r.path = .ok source) :
    (loader.analyze host r).outcome =
      ((loadTemplate host loader.renderers r (Component.parse source)).bind fun template =>
        .pure (loader.analysisOf r.relativePath (Component.parse source) template)).outcome := by
  have hdepend : (Tracked.depend r.path).outcome = .ok () := rfl
  have hsource : (Tracked.ofExcept (host.read r.path)).outcome = .ok source := hread
  rw [analyze, Tracked.outcome_bind_ok hdepend, Tracked.outcome_bind_ok hsource]

/-- A component whose template is read and rendered has the analysis of the markup. -/
theorem outcome_analyze_of_template {host : Host} {r : Request} {source text : String}
    {block : Block} (hread : host.read r.path = .ok source)
    (hblock : (Component.parse source).template = some block)
    (htext : (host.content r block).outcome = .ok text) :
    (loader.analyze host r).outcome =
      .ok (loader.analysisOf r.relativePath (Component.parse source)
        (some (render loader.renderers block.lang r.path text))) := by
  have hload : (loadTemplate host loader.renderers r (Component.parse source)).outcome =
      .ok (some (render loader.renderers block.lang r.path text)) := by
    rw [loadTemplate, hblock]
    exact Tracked.outcome_bind_ok htext _
  rw [outcome_analyze hread, Tracked.outcome_bind_ok hload]
  rfl

/-- A template that cannot be read is the failure of the whole analysis. -/
theorem outcome_analyze_of_failure {host : Host} {r : Request} {source : String} {block : Block}
    {failure : Failure} (hread : host.read r.path = .ok source)
    (hblock : (Component.parse source).template = some block)
    (hfailure : (host.content r block).outcome = .error failure) :
    (loader.analyze host r).outcome = .error failure := by
  have hload : (loadTemplate host loader.renderers r (Component.parse source)).outcome =
      .error failure := by
    rw [loadTemplate, hblock]
    simp [Tracked.bind, hfailure]
  rw [outcome_analyze hread]
  simp [Tracked.bind, hload]

end Loader

theorem outcome_content_of_no_src {host : Host} {r : Request} {block : Block}
    (hsrc : block.src = none) : (host.content r block).outcome = .ok block.content := by
  rw [Host.content, hsrc]
  rfl

theorem outcome_content_of_src {host : Host} {r : Request} {block : Block} {src text : String}
    {p : Path} (hsrc : block.src = some src) (hresolve : host.resolve r.directory src = .ok p)
    (hread : host.read p = .ok text) : (host.content r block).outcome = .ok text := by
  have hfile : (Tracked.ofExcept (host.resolve r.directory src)).outcome = .ok p := hresolve
  have hdepend : (Tracked.depend p).outcome = .ok () := rfl
  rw [Host.content, hsrc]
  dsimp only
  rw [Tracked.outcome_bind_ok hfile, Tracked.outcome_bind_ok hdepend]
  exact hread

/-! ## All sources of a markup -/

/-- An attribute value that can be written in the tag of a block: the tag ends at the first closing
bracket. -/
structure IsTagValue (value : String) : Prop where
  no_quote : '"' ∉ value.toList
  no_bracket : '>' ∉ value.toList

/-- The text of a component that starts with a template, which may name its language and the file that
it is kept in. -/
def templateText (lang src : Option String) (content rest : String) : String :=
  "<template" ++ (lang.elim "" fun lang => " lang=\"" ++ lang ++ "\"") ++
    (src.elim "" fun src => " src=\"" ++ src ++ "\"") ++ ">" ++ content ++ "</template>" ++ rest

/-- The attributes of a template that may name its language and its file. -/
def templateAttributes (lang src : Option String) : List WrittenAttribute :=
  (lang.map fun lang => .valued "lang".toList lang.toList).toList ++
    (src.map fun src => .valued "src".toList src.toList).toList

theorem toList_templateText (lang src : Option String) (content rest : String) :
    (templateText lang src content rest).toList =
      writeBlock templateTag (templateAttributes lang src) content.toList ++ rest.toList := by
  have hopening : "<template".toList = '<' :: templateTag := rfl
  have hend : "</template>".toList = '<' :: '/' :: templateTag ++ ['>'] := rfl
  have hlang : " lang=\"".toList = ' ' :: "lang".toList ++ ['=', '"'] := rfl
  have hsrc : " src=\"".toList = ' ' :: "src".toList ++ ['=', '"'] := rfl
  have hquote : "\"".toList = ['"'] := rfl
  have hbracket : ">".toList = ['>'] := rfl
  cases lang <;> cases src <;>
    simp only [templateText, templateAttributes, Option.elim_none, Option.elim_some,
      Option.map_none, Option.map_some, Option.toList_none, Option.toList_some,
      String.toList_append, String.toList_empty, hopening, hend, hlang, hsrc, hquote, hbracket,
      writeBlock, writeAttributes, List.flatMap_cons, List.flatMap_nil, WrittenAttribute.write,
      List.append_assoc, List.cons_append, List.nil_append, List.append_nil]

theorem wellFormedAttributes_template {lang src : Option String} (hlang : ∀ l ∈ lang, IsTagValue l)
    (hsrc : ∀ s ∈ src, IsTagValue s) : WellFormedAttributes (templateAttributes lang src) := by
  have hname : ∀ name ∈ ["lang".toList, "src".toList],
      name ≠ [] ∧ ∀ c ∈ name, WrittenAttribute.isNameChar c = true := by
    decide
  have hvalued : ∀ {name : String} {value : String}, name.toList ∈ ["lang".toList, "src".toList] →
      IsTagValue value → (WrittenAttribute.valued name.toList value.toList).WellFormed :=
    fun hmem hvalue => ⟨(hname _ hmem).1, (hname _ hmem).2, hvalue.no_quote, hvalue.no_bracket⟩
  constructor
  · intro a ha
    rcases List.mem_append.1 ha with ha | ha
    · obtain ⟨l, hl, rfl⟩ := Option.map_eq_some_iff.1 (Option.mem_toList.1 ha)
      exact hvalued (by simp) (hlang l hl)
    · obtain ⟨s, hs, rfl⟩ := Option.map_eq_some_iff.1 (Option.mem_toList.1 ha)
      exact hvalued (by simp) (hsrc s hs)
  · cases lang <;> cases src <;> simp [templateAttributes, WrittenAttribute.name]

/-- The block of a template that may name its language and its file. -/
def templateBlock (lang src : Option String) (content : String) : Block :=
  ⟨"template", content, (templateAttributes lang src).map WrittenAttribute.entry⟩

theorem attributes_templateBlock (lang src : Option String) (content : String) :
    (templateBlock lang src content).attributes =
      (lang.map fun lang => ("lang", lang)).toList ++ (src.map fun src => ("src", src)).toList := by
  cases lang <;> cases src <;>
    simp [templateBlock, templateAttributes, WrittenAttribute.entry]

theorem lang_templateBlock (lang src : Option String) (content : String) :
    (templateBlock lang src content).lang = lang := by
  rw [Block.lang, attributes_templateBlock]
  cases lang <;> cases src <;> rfl

theorem src_templateBlock (lang src : Option String) (content : String) :
    (templateBlock lang src content).src = src := by
  rw [Block.src, attributes_templateBlock]
  cases lang <;> cases src <;> rfl

theorem template_parse_templateText {lang src : Option String} {content : String}
    (hlang : ∀ l ∈ lang, IsTagValue l) (hsrc : ∀ s ∈ src, IsTagValue s)
    (hcontent : Balanced 0 content.toList) (rest : String) :
    (Component.parse (templateText lang src content rest)).template =
      some (templateBlock lang src content) := by
  have hparse := parse_template_append (wellFormedAttributes_template hlang hsrc) hcontent
    rest.toList
  rw [← toList_templateText, String.ofList_toList, String.ofList_toList] at hparse
  exact hparse

namespace Loader

variable {loader : Loader}

/-- A component that starts with a template whose text is rendered to a markup has the analysis of that
markup. -/
theorem outcome_analyze_templateText (hloader : loader.IgnoresComponents) {host : Host}
    {r : Request} {lang src : Option String} {content text rest : String}
    (hlang : ∀ l ∈ lang, IsTagValue l) (hsrc : ∀ s ∈ src, IsTagValue s)
    (hcontent : Balanced 0 content.toList)
    (hread : host.read r.path = .ok (templateText lang src content rest))
    (htext : (host.content r (templateBlock lang src content)).outcome = .ok text) :
    (loader.analyze host r).outcome =
      .ok (loader.analysisOf r.relativePath {} (some (render loader.renderers lang r.path text))) := by
  rw [outcome_analyze_of_template hread (template_parse_templateText hlang hsrc hcontent rest) htext,
    hloader.analysisOf_eq r.relativePath _ {}, lang_templateBlock]

/-- All sources of a markup have the same analysis, if no matcher looks at the component: a template
in the component, a file that the template names, and a renderer for the language of either of them.
What follows the template does not count.

A renderer that always fails gives the same results, failures and dependencies as none. -/
theorem analyze_of_every_source (loader : Loader) (r : Request) :
    (∀ markup rest : String, loader.IgnoresComponents → Balanced 0 markup.toList →
      ∃ analysis,
        (∀ host : Host,
          host.read r.path = .ok (templateText none none markup rest) →
          (loader.analyze host r).outcome = .ok analysis) ∧
        (∀ (host : Host) (src : String) (p : Path), IsTagValue src →
          host.read r.path = .ok (templateText none (some src) "" rest) →
          host.resolve r.directory src = .ok p → host.read p = .ok markup →
          (loader.analyze host r).outcome = .ok analysis) ∧
        ∀ (lang text : String) (renderer : Renderer), IsTagValue lang →
          loader.renderers.lookup lang = some renderer → renderer text r.path = some markup →
          (∀ host : Host, Balanced 0 text.toList →
            host.read r.path = .ok (templateText (some lang) none text rest) →
            (loader.analyze host r).outcome = .ok analysis) ∧
          ∀ (host : Host) (src : String) (p : Path), IsTagValue src →
            host.read r.path = .ok (templateText (some lang) (some src) "" rest) →
            host.resolve r.directory src = .ok p → host.read p = .ok text →
            (loader.analyze host r).outcome = .ok analysis) ∧
    ∀ (host : Host) (lang : String) (renderer : Renderer),
      (∀ text p, renderer text p = none) → loader.renderers.lookup lang = none →
      (∀ component : Component,
        loadTemplate host (loader.addRenderer lang renderer).renderers r component =
          loadTemplate host loader.renderers r component) ∧
      (loader.addRenderer lang renderer).analyze host r = loader.analyze host r := by
  constructor
  · intro markup rest hloader hmarkup
    have hempty : Balanced 0 "".toList := .nil
    have hplain : ∀ text, render loader.renderers none r.path text = text := fun _ => rfl
    refine ⟨loader.analysisOf r.relativePath {} (some markup), ?_, ?_, ?_⟩
    · intro host hread
      have htext : (host.content r (templateBlock none none markup)).outcome = .ok markup :=
        outcome_content_of_no_src (src_templateBlock ..)
      rw [outcome_analyze_templateText hloader (by simp) (by simp) hmarkup hread htext, hplain]
    · intro host src p hsrc hread hresolve hfile
      have htext := outcome_content_of_src (src_templateBlock none (some src) "") hresolve hfile
      rw [outcome_analyze_templateText hloader (by simp) (by simpa using hsrc) hempty hread
        htext, hplain]
    · intro lang text renderer hlang hrenderer hmarkup
      have hrendered : render loader.renderers (some lang) r.path text = markup := by
        simp only [render, hrenderer, hmarkup, Option.getD_some]
      constructor
      · intro host hbalanced hread
        have htext : (host.content r (templateBlock (some lang) none text)).outcome = .ok text :=
          outcome_content_of_no_src (src_templateBlock ..)
        rw [outcome_analyze_templateText hloader (by simpa using hlang) (by simp) hbalanced hread
          htext, hrendered]
      · intro host src p hsrc hread hresolve hfile
        have htext := outcome_content_of_src (src_templateBlock (some lang) (some src) "") hresolve
          hfile
        rw [outcome_analyze_templateText hloader (by simpa using hlang) (by simpa using hsrc) hempty
          hread htext, hrendered]
  · intro host lang renderer hfails hnone
    exact ⟨loadTemplate_put_of_fails host hfails hnone r,
      analyze_addRenderer_of_fails hfails hnone host r⟩

/-- A nested template and a comment with an end tag in it, in the component and in a file. -/
theorem analyze_of_every_source_nested :
    ∃ analysis,
      (Loader.analyze ⟨{}, fun _ => [], fun _ => 0, []⟩
        ⟨⟨[("a.vue", .file (some (templateText none none
          "<template #a>x</template><!--</template>-->" "<script></script>")))], []⟩, none⟩
        { path := ⟨"/a.vue"⟩ }).outcome = .ok analysis ∧
      (Loader.analyze ⟨{}, fun _ => [], fun _ => 0, []⟩
        ⟨⟨[("a.vue", .file (some (templateText none (some "./t.html") "" "<script></script>"))),
          ("t.html", .file (some "<template #a>x</template><!--</template>-->"))], []⟩, none⟩
        { path := ⟨"/a.vue"⟩ }).outcome = .ok analysis := by
  have hcomment : Balanced 0 (writeComment "</template>".toList ++ []) :=
    .comment (by decide) .nil
  have hclosing : Balanced 1 ('<' :: writeTag true [] (writeComment "</template>".toList ++ [])) :=
    .tag ⟨Text.stops_nil _, by simp⟩ rfl hcomment
  have hmarkup : Balanced 0 "<template #a>x</template><!--</template>-->".toList := by
    have htext : "<template #a>x</template><!--</template>-->".toList =
        '<' :: writeTag false [' ', '#', 'a']
          ('x' :: '<' :: writeTag true [] (writeComment "</template>".toList ++ [])) := by
      decide +kernel
    rw [htext]
    exact .tag ⟨Text.stops_cons (by decide) _, by decide⟩ rfl (.text (by decide) hclosing)
  obtain ⟨hsources, -⟩ := analyze_of_every_source ⟨{}, fun _ => [], fun _ => 0, []⟩
    { path := ⟨"/a.vue"⟩ }
  obtain ⟨analysis, hinline, hexternal, -⟩ := hsources _ "<script></script>"
    (fun _ m hm => absurd hm (by simp)) hmarkup
  exact ⟨analysis, hinline _ rfl,
    hexternal _ "./t.html" ⟨"/t.html"⟩ ⟨by decide, by decide⟩ rfl rfl rfl⟩

/-- A closing bracket in a value ends the tag.  So the file of a template is not found if its name has
one, and a nested template with one is left open, so that the whole template is lost. -/
theorem bracket_in_value :
    (Loader.analyze ⟨{}, fun _ => [], fun _ => 0, []⟩
      ⟨⟨[("a.vue", .file (some (templateText none (some "./a>b.html") "" ""))),
        ("a>b.html", .file (some "x"))], []⟩, none⟩ { path := ⟨"a.vue"⟩ }).outcome =
      .error (.unresolved "\"./a" ⟨""⟩ ⟨"\"./a"⟩) ∧
    (Component.parse (templateText none none "<template v-if=\"n > 1\" />x" "")).template =
      none := by
  constructor
  · have htext : (templateText none (some "./a>b.html") "" "").toList =
        '<' :: (templateTag ++ " src=\"./a".toList ++ '>' ::
          ("b.html\">".toList ++ (endTag ++ []))) := by
      decide +kernel
    have hcontent : cutContent templateTag ("b.html\">".toList ++ (endTag ++ [])) =
        some ("b.html\">".toList, []) :=
      cutTemplate_of_balanced (balanced_of_no_bracket (by decide)) []
    have hattributes : readAttributes " src=\"./a".toList = [("src", "\"./a")] := by cbv
    have hblock : (Component.parse (templateText none (some "./a>b.html") "" "")).template =
        some ⟨"template", "b.html\">", [("src", "\"./a")]⟩ := by
      have hblocks : blocks ('<' :: (templateTag ++ " src=\"./a".toList ++ '>' ::
          ("b.html\">".toList ++ (endTag ++ [])))) =
          makeBlock templateTag " src=\"./a".toList "b.html\">".toList :: blocks [] :=
        blocks_opened isTag_templateTag (by decide) (by decide) (by decide) hcontent
      rw [Component.parse, htext, hblocks, makeBlock, hattributes, ofBlocks_eq_gather]
      rfl
    exact outcome_analyze_of_failure rfl hblock rfl
  · have htext : (templateText none none "<template v-if=\"n > 1\" />x" "").toList =
        '<' :: (templateTag ++ [] ++ '>' :: ('<' :: writeTag false " v-if=\"n ".toList
          (" 1\" />x".toList ++ '<' :: writeTag true [] []))) := by
      decide +kernel
    have hopen : IsTagInside " v-if=\"n ".toList := ⟨Text.stops_cons (by decide) _, by decide⟩
    have hclosing : cutTemplate 1 ('<' :: writeTag true [] []) = none := by
      have hdepth : depthBehind 1 true (isSelfClosed []) = some 0 := rfl
      rw [cutTemplate_writeTag ⟨Text.stops_nil _, by simp⟩, hdepth]
      dsimp only
      rw [cutTemplate]
      rfl
    have hcontent : cutContent templateTag ('<' :: writeTag false " v-if=\"n ".toList
        (" 1\" />x".toList ++ '<' :: writeTag true [] [])) = none := by
      have hdepth : depthBehind 0 false (isSelfClosed " v-if=\"n ".toList) = some 1 := rfl
      rw [cutContent, if_pos (by decide), cutTemplate_writeTag hopen, hdepth]
      dsimp only
      rw [cutTemplate_text_append (by decide), hclosing]
      rfl
    rw [Component.parse, htext, blocks_unclosed isTag_templateTag (by decide) (by decide)
      (by decide) hcontent]
    rfl

end Loader

end TemplateImports
