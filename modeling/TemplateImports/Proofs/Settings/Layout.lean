import Mathlib.Logic.Relation
import TemplateImports.Proofs.Settings.Records
import TemplateImports.Proofs.Settings.RoundTrip

/-!
# Layouts of settings

Settings, what they say about the library, the paths of helpers and rules are records, and each of
them may be laid out in several ways.  The rules of a category are tried as a single rule first,
which may be written as a list as well.  No list of rules is taken for one: each of its items is a
record, where a rule has a text.

Main results:

- Theorems `Settings.reader`, `Library.reader`, `HelperPaths.reader` and `Rule.reader` say that
  these are read field by field.
- Inductive `Settings.Relaid` says which changes of the layout keep settings.
- Theorem `Rule.ofJson?_array_of_rules` says that no list of rules is read as a rule.
- Theorem `Settings.parse_of_relaid` says that the settings of a text do not depend on its layout.
-/

namespace TemplateImports

open Json

/-! ## Records of settings -/

namespace Library

/-- The fields of what is known about the library, as they are read. -/
def fields : List (RecordField Library) :=
  let default : Library := {}
  [⟨"tagPrefix", fieldOr text? default.tagPrefix, tagPrefix⟩,
    ⟨"componentsModule", fieldOr text? default.componentsModule, componentsModule⟩,
    ⟨"directivesModule", fieldOr text? default.directivesModule, directivesModule⟩,
    ⟨"iconPrefix", fieldOr text? default.iconPrefix, iconPrefix⟩,
    ⟨"iconsModule", fieldOr text? default.iconsModule, iconsModule⟩,
    ⟨"checkComponents", fieldOr bool? default.checkComponents, checkComponents⟩,
    ⟨"components", fieldOr texts? default.components, components⟩,
    ⟨"directives", fieldOr texts? default.directives, directives⟩]

theorem reader : RecordReader ofJson? fieldNames fields := by
  refine .of_isRecord rfl (by decide) (fun h => by simp [ofJson?, h]) fun {v _} h => ?_
  have hfields : fields? fieldNames v = some
      [held fieldNames "tagPrefix" v, held fieldNames "componentsModule" v,
        held fieldNames "directivesModule" v, held fieldNames "iconPrefix" v,
        held fieldNames "iconsModule" v, held fieldNames "checkComponents" v,
        held fieldNames "components" v, held fieldNames "directives" v] :=
    (fields?_eq_some_iff (by decide)).2 ⟨h, rfl⟩
  simp only [ofJson?, hfields, fields, List.forall_mem_cons, Option.bind_eq_bind,
    Option.bind_eq_some_iff, Option.pure_def, Option.some.injEq]
  constructor
  · rintro ⟨_, h₁, _, h₂, _, h₃, _, h₄, _, h₅, _, h₆, _, h₇, _, h₈, rfl⟩
    exact ⟨h₁, h₂, h₃, h₄, h₅, h₆, h₇, h₈, by simp⟩
  · rintro ⟨h₁, h₂, h₃, h₄, h₅, h₆, h₇, h₈, -⟩
    exact ⟨_, h₁, _, h₂, _, h₃, _, h₄, _, h₅, _, h₆, _, h₇, _, h₈, rfl⟩

end Library

namespace HelperPaths

/-- The fields of the paths of helpers, as they are read. -/
def fields : List (RecordField HelperPaths) :=
  let default : HelperPaths := {}
  [⟨"installComponents", fieldOr text? default.components, components⟩,
    ⟨"installDirectives", fieldOr text? default.directives, directives⟩,
    ⟨"installIcons", fieldOr text? default.icons, icons⟩]

theorem reader : RecordReader ofJson? fieldNames fields := by
  refine .of_isRecord rfl (by decide) (fun h => by simp [ofJson?, h]) fun {v _} h => ?_
  have hfields : fields? fieldNames v = some
      [held fieldNames "installComponents" v, held fieldNames "installDirectives" v,
        held fieldNames "installIcons" v] :=
    (fields?_eq_some_iff (by decide)).2 ⟨h, rfl⟩
  simp only [ofJson?, hfields, fields, List.forall_mem_cons, Option.bind_eq_bind,
    Option.bind_eq_some_iff, Option.pure_def, Option.some.injEq]
  constructor
  · rintro ⟨_, h₁, _, h₂, _, h₃, rfl⟩
    exact ⟨h₁, h₂, h₃, by simp⟩
  · rintro ⟨h₁, h₂, h₃, -⟩
    exact ⟨_, h₁, _, h₂, _, h₃, rfl⟩

end HelperPaths

namespace Settings

/-- The fields of settings, as they are read. -/
def fields : List (RecordField Settings) :=
  let default : Settings := {}
  [⟨"match", fieldOr Rules.ofJson? default.tagRules, tagRules⟩,
    ⟨"attrsMatch", fieldOr Rules.ofJson? default.directiveRules, directiveRules⟩,
    ⟨"iconsMatch", fieldOr Rules.ofJson? default.iconRules, iconRules⟩,
    ⟨"library", fieldOr Library.ofJson? default.library, library⟩,
    ⟨"runtime", fieldOr HelperPaths.ofJson? default.helperPaths, helperPaths⟩,
    ⟨"sentinel", fieldOr text? default.sentinel, sentinel⟩,
    ⟨"marker", fieldOr text? default.marker, marker⟩]

theorem reader : RecordReader ofJson? fieldNames fields := by
  refine .of_isRecord rfl (by decide) (fun h => by simp [ofJson?, h]) fun {v _} h => ?_
  have hfields : fields? fieldNames v = some
      [held fieldNames "match" v, held fieldNames "attrsMatch" v, held fieldNames "iconsMatch" v,
        held fieldNames "library" v, held fieldNames "runtime" v, held fieldNames "sentinel" v,
        held fieldNames "marker" v] :=
    (fields?_eq_some_iff (by decide)).2 ⟨h, rfl⟩
  simp only [ofJson?, hfields, fields, List.forall_mem_cons, Option.bind_eq_bind,
    Option.bind_eq_some_iff, Option.pure_def, Option.some.injEq]
  constructor
  · rintro ⟨_, h₁, _, h₂, _, h₃, _, h₄, _, h₅, _, h₆, _, h₇, rfl⟩
    exact ⟨h₁, h₂, h₃, h₄, h₅, h₆, h₇, by simp⟩
  · rintro ⟨h₁, h₂, h₃, h₄, h₅, h₆, h₇, -⟩
    exact ⟨_, h₁, _, h₂, _, h₃, _, h₄, _, h₅, _, h₆, _, h₇, rfl⟩

end Settings

/-! ## Rules -/

namespace Rule

/-- The fields of a rule, as they are read.  Its pattern and its statement have no defaults. -/
def fields : List (RecordField Rule) :=
  [⟨"pattern", (·.bind text?), pattern⟩, ⟨"key", fieldOr text? "\x7bcamel\x7d", key⟩,
    ⟨"import", (·.bind text?), statement⟩]

theorem reader : RecordReader ofJson? fieldNames fields := by
  refine .of_isRecord rfl (by decide) (fun h => by simp [ofJson?, h]) fun {v _} h => ?_
  have hfields : fields? fieldNames v = some
      [held fieldNames "pattern" v, held fieldNames "key" v, held fieldNames "import" v] :=
    (fields?_eq_some_iff (by decide)).2 ⟨h, rfl⟩
  simp only [ofJson?, hfields, fields, List.forall_mem_cons]
  cases held fieldNames "pattern" v with
  | none => simp
  | some pattern =>
    cases held fieldNames "import" v with
    | none => simp
    | some statement =>
      simp only [Option.bind_some, Option.bind_eq_bind, Option.bind_eq_some_iff, Option.pure_def,
        Option.some.injEq]
      constructor
      · rintro ⟨_, h₁, _, h₂, _, h₃, rfl⟩
        exact ⟨h₁, h₂, h₃, by simp⟩
      · rintro ⟨h₁, h₂, h₃, -⟩
        exact ⟨_, h₁, _, h₂, _, h₃, rfl⟩

/-- Of the fields of a rule only its key has a default. -/
def IsDefault (name : String) (value : Option Json) : Prop :=
  name = "key" ∧ fieldOr text? "\x7bcamel\x7d" value = some "\x7bcamel\x7d"

/-- One change of the layout of a rule.  A member that is added to it has to be sound, with lists
and objects nested in it at most `depth` times. -/
abbrev Relaid (depth : Nat) : Json → Json → Prop :=
  RecordRelaid fieldNames (fun value => value.isSound depth = true) IsDefault

/-- A rule does not depend on its layout. -/
theorem ofJson?_of_relaid {depth : Nat} {v v' : Json} {rule : Rule} (h : Relaid depth v v')
    (hv : ofJson? v = some rule) : ofJson? v' = some rule := by
  refine reader.read_of_relaid (fun f hf x y hx hy => ?_) h hv
  simp only [fields, List.mem_cons, List.not_mem_nil, or_false] at hf
  rcases hf with rfl | rfl | rfl
  · exact absurd hx.1 (by decide)
  · exact hx.2.trans hy.2.symm
  · exact absurd hx.1 (by decide)

/-- What is read as a rule is no text. -/
theorem text?_of_ofJson? {v : Json} {rule : Rule} (h : ofJson? v = some rule) : text? v = none := by
  cases v with
  | string text => exact absurd h (by simp [ofJson?, fields?])
  | _ => rfl

/-- A list of rules is not read as a rule: its first item, if there is one, is no text. -/
theorem ofJson?_array_of_rules {items : List Json} {rules : List Rule}
    (h : items.mapM ofJson? = some rules) : ofJson? (.array items) = none := by
  refine Option.eq_none_iff_forall_ne_some.2 fun rule hrule => ?_
  have hpattern := (reader.read_iff.1 hrule).2 ⟨"pattern", (·.bind text?), pattern⟩
    (by simp [fields])
  cases items with
  | nil => exact absurd hpattern (by simp [held])
  | cons item items =>
    simp only [List.mapM_cons, Option.bind_eq_bind, Option.bind_eq_some_iff] at h
    obtain ⟨first, hfirst, -⟩ := h
    simp [held, fieldNames, text?_of_ofJson? hfirst] at hpattern

end Rule

/-! ### Soundness -/

namespace Json

theorem allSound_iff {depth : Nat} {items : List Json} :
    allSound depth items = true ↔ ∀ item ∈ items, item.isSound depth = true := by
  induction items with
  | nil => simp [allSound]
  | cons item items ih => simp [allSound, ih]

theorem allMembersSound_iff {depth : Nat} {members : List (String × Json)} :
    allMembersSound depth members = true ↔ ∀ p ∈ members, p.2.isSound depth = true := by
  induction members with
  | nil => simp [allMembersSound]
  | cons p members ih =>
    obtain ⟨name, value⟩ := p
    rw [allMembersSound, Bool.and_eq_true, ih, List.forall_mem_cons]

end Json

namespace Rule

/-- What counts as the same field of a rule is sound if the field was, since a default is a text. -/
theorem isSound_of_sameField {depth : Nat} {name : String} {x : Option Json} {value : Json}
    (h : SameField IsDefault name x (some value))
    (hx : ∀ other ∈ x, other.isSound depth = true) : value.isSound depth = true := by
  rcases h with rfl | ⟨-, -, hdefault⟩
  · exact hx value rfl
  · cases value with
    | string text => rw [isSound]
    | _ => exact absurd hdefault (by simp [fieldOr, text?])

/-- In another layout a rule is as sound as before. -/
theorem isSound_of_relaid {depth : Nat} {v v' : Json} (h : Relaid depth v v')
    (hv : v.isSound (depth + 1) = true) : v'.isSound (depth + 1) = true := by
  cases h with
  | reorder h =>
    rw [isSound, allMembersSound_iff] at hv ⊢
    exact fun p hp => hv p (h.mem_iff.2 hp)
  | extend hname h =>
    rw [isSound, allMembersSound_iff] at hv ⊢
    exact List.forall_mem_cons.2 ⟨h, hv⟩
  | @toList members items hlength h =>
    rw [isSound, allMembersSound_iff] at hv
    rw [isSound, allSound_iff]
    intro item hitem
    obtain ⟨i, hi, rfl⟩ := List.getElem_of_mem hitem
    have hfield := h i fieldNames[i] (List.getElem?_eq_getElem (by omega))
    rw [List.getElem?_eq_getElem hi] at hfield
    refine isSound_of_sameField hfield fun other hother => ?_
    obtain ⟨before, after, heq, -⟩ := List.lookup_eq_some_iff.1 hother
    exact hv (fieldNames[i], other) (by simp [heq])
  | @toObject members items hknown hdistinct h =>
    rw [isSound, allSound_iff] at hv
    rw [isSound, allMembersSound_iff]
    intro p hp
    have hfield := h _ p.1 (List.getElem?_idxOf (hknown p hp))
    rw [KeyedList.lookup_of_mem hdistinct hp] at hfield
    exact isSound_of_sameField hfield fun other hother => hv other (List.mem_of_getElem? hother)

/-- All items of a list that is read as a rule are texts. -/
theorem text?_of_mem_array {items : List Json} {rule : Rule}
    (h : ofJson? (.array items) = some rule) {item : Json} (hitem : item ∈ items) :
    (text? item).isSome = true := by
  obtain ⟨hlength, hfields⟩ := reader.read_iff.1 h
  obtain ⟨i, hi, rfl⟩ := List.getElem_of_mem hitem
  have hlt : i < fields.length := Nat.lt_of_lt_of_le hi hlength
  have hfield := hfields fields[i] (List.getElem_mem hlt)
  match i with
  | 0 => simp_all [fields, held, fieldNames]
  | 1 => simp_all [fields, held, fieldNames, fieldOr]
  | 2 => simp_all [fields, held, fieldNames]

end Rule

namespace Rules

/-- One change of the layout of rules: of a single rule, or of a rule in a list. -/
inductive Relaid : Json → Json → Prop
  | one {v v' : Json} (hread : (Rule.ofJson? v).isSome = true)
      (h : Rule.Relaid (maxDepth - 1) v v') : Relaid v v'
  | item {before after : List Json} {v v' : Json} (h : Rule.Relaid (maxDepth - 2) v v') :
      Relaid (.array (before ++ v :: after)) (.array (before ++ v' :: after))

theorem mapM_of_replaced {α : Type} {read? : Json → Option α} {before after : List Json}
    {v v' : Json} {values : List α} (hread : ∀ value, read? v = some value → read? v' = some value)
    (h : (before ++ v :: after).mapM read? = some values) :
    (before ++ v' :: after).mapM read? = some values := by
  simp only [List.mapM_append, List.mapM_cons, Option.bind_eq_bind, Option.bind_eq_some_iff] at h ⊢
  obtain ⟨first, hfirst, second, ⟨value, hvalue, hrest⟩, hvalues⟩ := h
  exact ⟨first, hfirst, second, ⟨value, hread value hvalue, hrest⟩, hvalues⟩

/-- A list with a rule in it is as sound as before if the rule is laid out anew. -/
theorem isSound_replaced {before after : List Json} {v v' : Json}
    (h : Rule.Relaid (maxDepth - 2) v v')
    (hv : (Json.array (before ++ v :: after)).isSound maxDepth = true) :
    (Json.array (before ++ v' :: after)).isSound maxDepth = true := by
  have hsound : ∀ {items : List Json}, (Json.array items).isSound maxDepth = true ↔
      ∀ item ∈ items, item.isSound (maxDepth - 2 + 1) = true := allSound_iff
  rw [hsound, List.forall_mem_append, List.forall_mem_cons] at hv ⊢
  exact ⟨hv.1, Rule.isSound_of_relaid h hv.2.1, hv.2.2⟩

/-- Rules do not depend on their layout. -/
theorem ofJson?_of_relaid {v v' : Json} {rules : Rules} (h : Relaid v v')
    (hv : ofJson? v = some rules) : ofJson? v' = some rules := by
  unfold ofJson? at hv ⊢
  rw [Option.ite_none_right_eq_some] at hv ⊢
  obtain ⟨hsound, hv⟩ := hv
  cases h with
  | one hread h =>
    obtain ⟨rule, hrule⟩ := Option.isSome_iff_exists.1 hread
    rw [hrule] at hv
    rw [Rule.ofJson?_of_relaid h hrule]
    exact ⟨Rule.isSound_of_relaid h hsound, hv⟩
  | @item before after v v' h =>
    have htext : text? v = none := by cases h <;> rfl
    -- The list was not taken for a single rule, for it holds a record among its items.
    have hnone : Rule.ofJson? (.array (before ++ v :: after)) = none := by
      refine Option.eq_none_iff_forall_ne_some.2 fun rule hrule => ?_
      have hsome := Rule.text?_of_mem_array hrule
        (List.mem_append_right before List.mem_cons_self)
      rw [htext] at hsome
      exact Bool.noConfusion hsome
    rw [hnone] at hv
    obtain ⟨list, hlist, rfl⟩ := Option.map_eq_some_iff.1 hv
    have hlist' := mapM_of_replaced (fun _ => Rule.ofJson?_of_relaid h) hlist
    rw [Rule.ofJson?_array_of_rules hlist']
    exact ⟨isSound_replaced h hsound, by simp [hlist']⟩

/-- A sound list of rules is read as what it is. -/
theorem ofJson?_array_of_rules {items : List Json} {rules : List Rule}
    (hsound : (Json.array items).isSound maxDepth = true)
    (h : items.mapM Rule.ofJson? = some rules) :
    ofJson? (.array items) = some (.many rules) := by
  unfold ofJson?
  rw [if_pos hsound, Rule.ofJson?_array_of_rules h]
  simp [h]

end Rules

/-! ## Settings -/

namespace Settings

/-- One change of the layout of settings: of themselves, of what they say about the library, of the
paths of helpers, or of the rules of a category. -/
inductive Relaid : Json → Json → Prop
  | settings {v v' : Json}
      (h : RecordRelaid fieldNames (fun _ => True) (IsDefault ofJson? {}) v v') : Relaid v v'
  | library {v v' : Json}
      (h : AtField fieldNames "library"
        (RecordRelaid Library.fieldNames (fun _ => True) (IsDefault Library.ofJson? {})) v v') :
      Relaid v v'
  | helperPaths {v v' : Json}
      (h : AtField fieldNames "runtime"
        (RecordRelaid HelperPaths.fieldNames (fun _ => True) (IsDefault HelperPaths.ofJson? {}))
        v v') :
      Relaid v v'
  | rules {name : String} {v v' : Json} (hname : name ∈ ["match", "attrsMatch", "iconsMatch"])
      (h : AtField fieldNames name Rules.Relaid v v') : Relaid v v'

/-- One change of the layout keeps settings. -/
theorem ofJson?_of_relaid {v v' : Json} {settings : Settings} (h : Relaid v v')
    (hv : ofJson? v = some settings) : ofJson? v' = some settings := by
  cases h with
  | settings h => exact reader.read_of_relaid_default h hv
  | library h =>
    exact reader.read_of_atField
      (f := ⟨"library", fieldOr Library.ofJson? {}, library⟩) (by simp [fields])
      (fun h => Library.reader.read_of_relaid_default h) h hv
  | helperPaths h =>
    exact reader.read_of_atField
      (f := ⟨"runtime", fieldOr HelperPaths.ofJson? {}, helperPaths⟩) (by simp [fields])
      (fun h => HelperPaths.reader.read_of_relaid_default h) h hv
  | rules hname h =>
    simp only [List.mem_cons, List.not_mem_nil, or_false] at hname
    rcases hname with rfl | rfl | rfl
    · exact reader.read_of_atField
        (f := ⟨"match", fieldOr Rules.ofJson? (.many []), tagRules⟩) (by simp [fields])
        (fun h => Rules.ofJson?_of_relaid h) h hv
    · exact reader.read_of_atField
        (f := ⟨"attrsMatch", fieldOr Rules.ofJson? (.many []), directiveRules⟩) (by simp [fields])
        (fun h => Rules.ofJson?_of_relaid h) h hv
    · exact reader.read_of_atField
        (f := ⟨"iconsMatch", fieldOr Rules.ofJson? (.many []), iconRules⟩) (by simp [fields])
        (fun h => Rules.ofJson?_of_relaid h) h hv

/-- Any number of changes of the layout keeps settings. -/
theorem ofJson?_of_reflTransGen_relaid {v v' : Json} {settings : Settings}
    (h : Relation.ReflTransGen Relaid v v') (hv : ofJson? v = some settings) :
    ofJson? v' = some settings := by
  induction h with
  | refl => exact hv
  | tail _ hstep ih => exact ofJson?_of_relaid hstep ih

/-- The settings of a text do not depend on how its records are laid out, and no list of rules is
taken for a single rule. -/
theorem parse_of_relaid :
    (∀ {text text' : String} {v v' : Json} {settings : Settings}, Json.parse text = some v →
      Json.parse text' = some v' → Relation.ReflTransGen Relaid v v' →
      parse text = some settings → parse text' = some settings) ∧
    ∀ {items : List Json} {rules : List Rule}, items.mapM Rule.ofJson? = some rules →
      Rule.ofJson? (.array items) = none ∧
      ((Json.array items).isSound Rules.maxDepth = true →
        Rules.ofJson? (.array items) = some (.many rules)) := by
  refine ⟨fun {text text' v v' settings} htext htext' hrelaid hread => ?_, fun h => ?_⟩
  · rw [parse, htext, Option.bind_some] at hread
    rw [parse, htext', Option.bind_some]
    exact ofJson?_of_reflTransGen_relaid hrelaid hread
  · exact ⟨Rule.ofJson?_array_of_rules h, fun hsound => Rules.ofJson?_array_of_rules hsound h⟩

/-- Settings with a rule and a prefix, written as objects without anything else. -/
def plainLayout : Json :=
  .object
    [("match", .array [.object
      [("import", .string "import x from 'x'"), ("pattern", .string "^x-")]]),
      ("library", .object [("tagPrefix", .string "x-")])]

/-- The same settings in another order, with a note, and with lists of fields. -/
def mixedLayout : Json :=
  .object
    [("note", .number "1"), ("library", .array [.string "x-"]),
      ("match", .array [.array
        [.string "^x-", .string "\x7bcamel\x7d", .string "import x from 'x'"]])]

theorem relaid_plainLayout : Relation.ReflTransGen Relaid plainLayout mixedLayout := by
  have hrule : Rules.Relaid
      (.array [.object [("import", .string "import x from 'x'"), ("pattern", .string "^x-")]])
      (.array [.array
        [.string "^x-", .string "\x7bcamel\x7d", .string "import x from 'x'"]]) := by
    refine @Rules.Relaid.item [] [] _ _ (.toList (by decide) fun i name hname => ?_)
    rcases i with _ | _ | _ | i
    · cases hname
      exact Or.inl rfl
    · cases hname
      exact Or.inr ⟨⟨rfl, rfl⟩, rfl, rfl⟩
    · cases hname
      exact Or.inl rfl
    · exact absurd hname (by simp [Rule.fieldNames])
  have hlibrary : RecordRelaid Library.fieldNames (fun _ => True) (IsDefault Library.ofJson? {})
      (.object [("tagPrefix", .string "x-")]) (.array [.string "x-"]) := by
    refine .toList (by decide) fun i name hname => ?_
    cases i with
    | zero =>
      cases hname
      exact Or.inl rfl
    | succ i =>
      have hmem : name ∈ Library.fieldNames.drop 1 :=
        List.mem_of_getElem? (by rwa [List.getElem?_drop, Nat.add_comm])
      have hne : name ≠ "tagPrefix" := ne_of_mem_of_not_mem hmem (by decide)
      exact Or.inl (by simp [List.lookup_cons, beq_eq_false_iff_ne.2 hne])
  have hmatch := @AtField.member fieldNames "match" _ []
    [("library", .object [("tagPrefix", .string "x-")])] _ _ hrule
  exact .head (.rules (by decide) hmatch)
    (.head (.library (@AtField.member _ _ _ [_] _ _ _ hlibrary))
      (.head (.settings (.reorder (.swap _ _ _)))
        (.single (.settings (.extend (by decide) trivial)))))

theorem parse_of_relaid_mixedLayout :
    parse mixedLayout.print = some
        { tagRules := .many [{ pattern := "^x-", statement := "import x from 'x'" }]
          library := { tagPrefix := "x-" } } ∧
      Rule.ofJson? (.array [.array [.string "a", .string "b", .string "c"]]) = none ∧
      Rules.ofJson? (.array [.array [.string "a", .string "b", .string "c"]]) =
        some (.many [⟨"a", "b", "c"⟩]) := by
  have hplain : Json.parse plainLayout.print = some plainLayout :=
    parse_print_of_spelled (by simp [plainLayout, Spelled, AllSpelled, AllMembersSpelled])
  have hnumber : readNumber? "1".toList = some (.number "1", []) := rfl
  have hmixed : Json.parse mixedLayout.print = some mixedLayout :=
    parse_print_of_spelled
      (by simpa [mixedLayout, Spelled, AllSpelled, AllMembersSpelled] using hnumber)
  refine ⟨parse_of_relaid.1 hplain hmixed relaid_plainLayout ?_, ?_⟩
  · rw [parse, hplain]
    rfl
  · have hlist : [Json.array [.string "a", .string "b", .string "c"]].mapM Rule.ofJson? =
        some [⟨"a", "b", "c"⟩] := rfl
    exact ⟨(parse_of_relaid.2 hlist).1, (parse_of_relaid.2 hlist).2 (by decide)⟩

end Settings

end TemplateImports
