import TemplateImports.Proofs.Markup.Contents
import TemplateImports.Proofs.Template.DocumentOrder
import TemplateImports.Template.Usage

/-!
# What the elements of a document are mentioned with

A forest is made of a document, and names are collected from the forest.  Every element that does
not wrap a document is mentioned with the name and the attributes that its markers bring back,
wherever in the document it stands.  The wrappers themselves may vanish, but what they hold stays,
because only templates have contents of their own.

Main results:

- Structure `Usage.Mentions` says that a usage holds all names of an element.
- Theorem `Usage.Within.collect` says that collecting names loses none.
- Theorem `mentions_collect_ofDocument` finds each element of a document.
-/

namespace TemplateImports

open Markup (Attribute)
open Template (Directive icon?)

namespace Usage

variable {usage usage' : Usage}

/-! ## Mentioned names -/

/-- A usage holds the tag of an element, the names of its directives and its icons. -/
structure Mentions (usage : Usage) (tag : String) (attributes : List Attribute) : Prop where
  tag : tag ∈ usage.tags
  directives : ∀ a ∈ attributes, ∀ d ∈ Directive.parse a.name a.value, d.name ∈ usage.directives
  icons : ∀ a ∈ attributes, ∀ icon ∈ icon? a.value, icon ∈ usage.icons

/-- All names of one usage are in another one. -/
structure Within (usage usage' : Usage) : Prop where
  tags : usage.tags ⊆ usage'.tags
  directives : usage.directives ⊆ usage'.directives
  icons : usage.icons ⊆ usage'.icons

theorem Within.refl (usage : Usage) : usage.Within usage :=
  ⟨fun _ h => h, fun _ h => h, fun _ h => h⟩

theorem Within.trans {usage'' : Usage} (h : usage.Within usage') (h' : usage'.Within usage'') :
    usage.Within usage'' :=
  ⟨fun _ hn => h'.tags (h.tags hn), fun _ hn => h'.directives (h.directives hn),
    fun _ hn => h'.icons (h.icons hn)⟩

theorem Mentions.mono {tag : String} {attributes : List Attribute}
    (h : usage.Mentions tag attributes) (hwithin : usage.Within usage') :
    usage'.Mentions tag attributes :=
  ⟨hwithin.tags h.tag, fun a ha d hd => hwithin.directives (h.directives a ha d hd),
    fun a ha icon hicon => hwithin.icons (h.icons a ha icon hicon)⟩

/-! ## Collected names -/

theorem Within.addElement (usage : Usage) (tag : String) (attributes : List Attribute)
    (directives : List Directive) : usage.Within (usage.addElement tag attributes directives) where
  tags _ h := mem_insertName.2 (Or.inl h)
  directives _ h := mem_insertNames.2 (Or.inl h)
  icons _ h := mem_insertNames.2 (Or.inl h)

/-- Collecting names from a forest loses none. -/
theorem Within.collect (usage : Usage) (nodes : List Template.Node) :
    usage.Within (usage.collect nodes) :=
  collect_induction (Within.refl usage)
    (fun usage' e h => h.trans (Within.addElement usage' e.tag e.attributes e.directives)) nodes

/-- An element is mentioned with its own names. -/
theorem mentions_addElement (usage : Usage) (tag : String) (attributes : List Attribute) :
    (usage.addElement tag attributes
      (attributes.filterMap fun a => Directive.parse a.name a.value)).Mentions tag attributes where
  tag := mem_insertName.2 (Or.inr rfl)
  directives a ha _ hd :=
    mem_insertNames.2 (Or.inr (List.mem_map_of_mem (List.mem_filterMap.2 ⟨a, ha, hd⟩)))
  icons a ha _ hicon := mem_insertNames.2 (Or.inr (List.mem_filterMap.2 ⟨a, ha, hicon⟩))

/-- A node with some attributes is mentioned, and so are the names of its children. -/
theorem collect_ofAttributes (usage : Usage) (tag : String) (attributes : List Attribute)
    (children : List Template.Node) :
    usage.collect [.ofAttributes tag attributes children] =
      (usage.addElement tag attributes
        (attributes.filterMap fun a => Directive.parse a.name a.value)).collect children :=
  rfl

end Usage

/-! ## Elements of documents -/

namespace Template

open Markup.Node (Tidy TidyIn elements elementsIn)
open Node (isWrapper originalTag originalAttributes ofNode ofDocument)

/-- An element that is no wrapper is mentioned with the names that its markers bring back. -/
def Mentioned (usage : Usage) (e : Markup.OpenElement) : Prop :=
  isWrapper e.name.label = false →
    usage.Mentions (originalTag e.name.label e.attributes) (originalAttributes e.attributes)

theorem Mentioned.mono {usage usage' : Usage} {e : Markup.OpenElement} (h : Mentioned usage e)
    (hwithin : usage.Within usage') : Mentioned usage' e :=
  fun hwrapper => (h hwrapper).mono hwithin

/-- A wrapper is no template. -/
theorem isHtml_template_of_isWrapper {name : Markup.ElementName}
    (h : isWrapper name.label = true) : name.isHtml "template" = false := by
  have hlabel : name.label ≠ "template" := by
    intro heq
    rw [heq] at h
    exact absurd h (by decide)
  simp [Markup.ElementName.isHtml, hlabel]

mutual

theorem mentions_collect_ofNode (keepsWrappers : Bool) {node : Markup.Node} (h : TidyIn node)
    {e : Markup.OpenElement} (he : e ∈ elementsIn node) (usage : Usage) :
    Mentioned (usage.collect (ofNode keepsWrappers node)) e := by
  cases node with
  | element id name attributes children contents =>
    obtain ⟨hcontents, hchildren, hinner⟩ := h
    rw [elementsIn] at he
    rw [ofNode]
    split
    · rename_i hvanishes
      have hwrapper : isWrapper name.label = true := (Bool.and_eq_true_iff.1 hvanishes).1
      have hnone : contents = [] :=
        hcontents.resolve_right (by simp [isHtml_template_of_isWrapper hwrapper])
      rcases List.mem_cons.1 he with rfl | he
      · intro hnot
        rw [hwrapper] at hnot
        exact absurd hnot (by decide)
      · rw [hnone, elements, List.append_nil] at he
        exact mentions_collect_ofDocument keepsWrappers hchildren he usage
    · rw [Usage.collect_ofAttributes, Usage.collect_append]
      rcases List.mem_cons.1 he with rfl | he
      · exact fun _ => (Usage.mentions_addElement usage _ _).mono
          ((Usage.Within.collect _ _).trans (Usage.Within.collect _ _))
      · rcases List.mem_append.1 he with he | he
        · exact (mentions_collect_ofDocument keepsWrappers hchildren he _).mono
            (Usage.Within.collect _ _)
        · exact mentions_collect_ofDocument keepsWrappers hinner he _
  | text value => simp [elementsIn] at he
  | comment value => simp [elementsIn] at he
  | doctype declaration => simp [elementsIn] at he

/-- Every element of a document is mentioned, except for wrappers. -/
theorem mentions_collect_ofDocument (keepsWrappers : Bool) {nodes : List Markup.Node}
    (h : Tidy nodes) {e : Markup.OpenElement} (he : e ∈ elements nodes) (usage : Usage) :
    Mentioned (usage.collect (ofDocument keepsWrappers nodes)) e := by
  cases nodes with
  | nil => simp [elements] at he
  | cons node nodes =>
    rw [ofDocument, Usage.collect_append]
    rcases List.mem_append.1 he with he | he
    · exact (mentions_collect_ofNode keepsWrappers h.1 he usage).mono (Usage.Within.collect _ _)
    · exact mentions_collect_ofDocument keepsWrappers h.2 he _

end

end Template

end TemplateImports
