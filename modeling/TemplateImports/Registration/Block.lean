import TemplateImports.Json.Quoted
import TemplateImports.NameList
import TemplateImports.Settings

/-!
# Registration blocks

The generated code of a category: a marker, the import of the helper, the import statements, and the
call that registers the keys.

Main results:

- Definition `Generator.block?` is the block for imports; there is none for no imports.
- Definitions `registeredKeys` and `statements` list what a block holds.
- Theorems `mem_registeredKeys` and `nodup_registeredKeys` say that a block registers each key once.
-/

namespace TemplateImports

/-- What the generated code is framed with. -/
structure Generator where
  helperPaths : HelperPaths := {}
  sentinel : String := "/* hot reload */"
  marker : String := "/* vuetify-loader */"
deriving Repr, DecidableEq

/-- The frame that settings choose. -/
def Generator.ofSettings (settings : Settings) : Generator :=
  ⟨settings.helperPaths, settings.sentinel, settings.marker⟩

/-! ## Parts of a block -/

/-- Moves a key to the end of the keys. -/
def moveToEnd (keys : List String) (key : String) : List String :=
  keys.filter (· != key) ++ [key]

/-- The keys of imports, each at the place of its last import. -/
def registeredKeys (imports : List Import) : List String :=
  (imports.map Import.key).foldl moveToEnd []

/-- The statements of imports, each at the place of its first import. -/
def statements (imports : List Import) : List String :=
  insertNames [] (imports.map Import.statement)

theorem mem_foldl_moveToEnd {added keys : List String} {key : String} :
    key ∈ added.foldl moveToEnd keys ↔ key ∈ added ∨ key ∈ keys := by
  induction added generalizing keys with
  | nil => simp
  | cons a added ih =>
    rw [List.foldl_cons, ih]
    by_cases h : key = a <;> simp [moveToEnd, h]

/-- A block registers exactly the keys of its imports. -/
theorem mem_registeredKeys {imports : List Import} {key : String} :
    key ∈ registeredKeys imports ↔ ∃ i ∈ imports, i.key = key := by
  simp [registeredKeys, mem_foldl_moveToEnd]

theorem nodup_foldl_moveToEnd {added keys : List String} (h : keys.Nodup) :
    (added.foldl moveToEnd keys).Nodup := by
  induction added generalizing keys with
  | nil => exact h
  | cons a added ih =>
    apply ih
    unfold moveToEnd
    rw [List.nodup_append]
    refine ⟨h.filter _, by simp, ?_⟩
    rintro x hx y hy rfl
    simp only [List.mem_singleton] at hy
    simp [hy] at hx

/-- A block registers each key once. -/
theorem nodup_registeredKeys (imports : List Import) : (registeredKeys imports).Nodup :=
  nodup_foldl_moveToEnd List.nodup_nil

/-! ## Blocks -/

namespace Generator

/-- The line that imports the helper of a category. -/
def helperImport (g : Generator) (c : Category) : String :=
  "import " ++ c.helper ++ " from " ++ String.ofList (Json.Quoted.quote ("!" ++ g.helperPaths.path c))

/-- The line that registers keys. -/
def registrationCall (c : Category) (keys : List String) : String :=
  c.helper ++ "(component, \x7b" ++ ",".intercalate keys ++ "\x7d)"

/-- The lines of the block for imports. -/
def blockLines (g : Generator) (c : Category) (imports : List Import) : List String :=
  [g.marker, g.helperImport c] ++ statements imports ++
    [registrationCall c (registeredKeys imports)]

/-- The block for imports, if there are any. -/
def block? (g : Generator) (c : Category) (imports : List Import) : Option String :=
  if imports.isEmpty then none else some ("\n".intercalate (g.blockLines c imports) ++ "\n")

/-- There is no block exactly for no imports. -/
theorem block?_eq_none_iff {g : Generator} {c : Category} {imports : List Import} :
    g.block? c imports = none ↔ imports = [] := by
  cases imports <;> simp [block?]

end Generator

end TemplateImports
