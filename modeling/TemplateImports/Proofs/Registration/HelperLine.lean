import TemplateImports.Proofs.Json.RoundTrip
import TemplateImports.Proofs.Registration.Bindings
import TemplateImports.Proofs.Text.Pieces

/-!
# The line that imports the helper

The path of a helper is free text, and a block holds it between quotes.  Whatever the path is, the
quotes end where the path does: the line is not broken, its quoted text stands for the path as a
data value and as a literal of a script, and the line imports the helper and nothing else.

Main results:

- Theorem `isControl_of_mem_quote` says that a quoted text holds no control characters.
- Theorem `block?_imports_helper` describes the second line of a block.
-/

namespace TemplateImports

open Text

/-! ## Characters of quoted texts -/

namespace Json.Quoted

theorem isControl_of_mem_escape {c d : Char} (h : d ∈ escape c) : isControl d = false := by
  unfold escape at h
  split at h
  · have hall : ∀ e ∈ ['\\', '"'], isControl e = false := by decide
    exact hall d h
  · split at h
    · have hall : ∀ e ∈ ['\\', '\\'], isControl e = false := by decide
      exact hall d h
    · split at h
      · rename_i hcontrol
        have hall : ∀ n < 32, ∀ e ∈ controlEscape (Char.ofNat n), isControl e = false := by decide
        rw [← Char.ofNat_toNat c] at h
        exact hall c.toNat (by simpa [isControl] using hcontrol) d h
      · rename_i hplain
        rw [List.mem_singleton.1 h]
        simpa using hplain

/-- A quoted text holds no control characters. -/
theorem isControl_of_mem_quote {s : String} {d : Char} (h : d ∈ quote s) : isControl d = false := by
  have hencode (cs : List Char) (hmem : d ∈ encode cs) : isControl d = false := by
    induction cs with
    | nil => cases hmem
    | cons c cs ih => exact (List.mem_append.1 hmem).elim isControl_of_mem_escape ih
  have hmark : isControl '"' = false := by decide
  rcases List.mem_append.1 h with hmem | hmem
  · rcases List.mem_cons.1 hmem with rfl | hmem
    · exact hmark
    · exact hencode _ hmem
  · rw [List.mem_singleton.1 hmem]
    exact hmark

theorem lineFeed_not_mem_quote (s : String) : '\n' ∉ quote s := fun h =>
  absurd (isControl_of_mem_quote h) (by decide)

end Json.Quoted

/-! ## Lines of a block -/

namespace Generator

open Json.Quoted (quote lineFeed_not_mem_quote)

/-- The first line of joined lines is a piece of the text if it holds no line feed. -/
theorem splitOn_joinLines_cons {line : String} (h : '\n' ∉ line.toList) (lines : List String) :
    splitOn '\n' (joinLines (line :: lines)).toList =
      line.toList :: splitOn '\n' (joinLines lines).toList := by
  simp only [toList_joinLines, List.flatMap_cons, List.append_assoc, List.singleton_append]
  rw [splitOn_append_cons, splitOn_of_not_mem h, List.singleton_append]

theorem lineFeed_not_mem_helperImport (g : Generator) (c : Category) :
    '\n' ∉ (g.helperImport c).toList := by
  have hhelper : '\n' ∉ c.helper.toList := by cases c <;> decide
  simp [helperImport, hhelper, lineFeed_not_mem_quote]

/-- The second line of a block imports the helper.  Whatever the path of the helper is, what stands
in its place has no line feed, it is the text of the path as a data value and as a literal of a
script, up to the mark in front of the path, and the line declares the helper only. -/
theorem block?_imports_helper (g : Generator) (c : Category) (imports : List Import)
    (hmarker : '\n' ∉ g.marker.toList) (himports : imports ≠ []) :
    ∃ block line literal,
      g.block? c imports = some block ∧
      (splitOn '\n' block.toList)[1]? = some line.toList ∧
      line = "import " ++ c.helper ++ " from " ++ literal ∧
      '\n' ∉ literal.toList ∧
      Json.parse literal = some (.string ("!" ++ g.helperPaths.path c)) ∧
      Script.readToken literal.toList =
        (.string (some ("!" ++ g.helperPaths.path c).toList), []) ∧
      Script.importedNames? line = some [c.helper] := by
  have hpieces : splitOn '\n' (g.blockText c (statements imports) (registeredKeys imports)).toList =
      g.marker.toList :: (g.helperImport c).toList ::
        splitOn '\n' (joinLines (statements imports ++
          [registrationCall c (registeredKeys imports)])).toList := by
    rw [blockText, List.append_assoc, List.cons_append, splitOn_joinLines_cons hmarker,
      List.singleton_append, splitOn_joinLines_cons (g.lineFeed_not_mem_helperImport c)]
  have htoken := Script.readToken_quote ("!" ++ g.helperPaths.path c) []
  rw [List.append_nil] at htoken
  refine ⟨_, g.helperImport c, (Json.string ("!" ++ g.helperPaths.path c)).print,
    block?_of_ne_nil g c himports, by rw [hpieces]; rfl, rfl, ?_,
    Json.parse_print_of_spelled trivial, ?_, importedNames?_helperImport g c⟩
  · rw [Json.print, String.toList_ofList]
    exact lineFeed_not_mem_quote _
  · rw [Json.print, String.toList_ofList]
    exact htoken

/-- A path with a quote, a backslash, a line feed, a control character and a character beyond the
basic plane. -/
theorem block?_imports_helper_escaped :
    '\n' ∉ "/**/".toList ∧
    ∃ block line literal,
      block? ⟨⟨"c", "d", "a\"; b\\\n\x01😀"⟩, "", "/**/"⟩ .icon [⟨"K", "import K"⟩] = some block ∧
      (splitOn '\n' block.toList)[1]? = some line.toList ∧
      line = "import " ++ "installIcons" ++ " from " ++ literal ∧
      '\n' ∉ literal.toList ∧
      Json.parse literal = some (.string ("!" ++ "a\"; b\\\n\x01😀")) ∧
      Script.readToken literal.toList =
        (.string (some ("!" ++ "a\"; b\\\n\x01😀").toList), []) ∧
      Script.importedNames? line = some ["installIcons"] :=
  ⟨by decide, block?_imports_helper ⟨⟨"c", "d", "a\"; b\\\n\x01😀"⟩, "", "/**/"⟩ .icon
    [⟨"K", "import K"⟩] (by decide) (List.cons_ne_nil _ _)⟩

end Generator

end TemplateImports
