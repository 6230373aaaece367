import TemplateImports.Loading.Request
import TemplateImports.Proofs.Workspace.PathParts

/-!
# Reported paths

A component is reported by the path that leads to it from the root of the project.  Behind the root,
that path leads to the component again, however the two paths are written: with repeated slashes,
dots or a slash at the end, and also from an empty root, where the path of the component is reported
part by part.  So components of one project that lie at different places are reported differently.

Main results:

- Theorem `Path.parts_join_relativeTo` puts a relative path behind the path that it is relative to.
- Theorem `Request.relativePath_identifies` says that reported paths can be told apart.
-/

namespace TemplateImports

namespace Path

/-- A relative path, behind the path that it is relative to, has the parts that it was made from. -/
theorem parts_join_relativeTo {p base : Path} (h : base.parts <+: p.parts) :
    (base.join ⟨p.relativeTo base⟩).parts = p.parts := by
  obtain ⟨rest, hrest⟩ := h
  have hrelative : p.relativeTo base = joined rest := by
    rw [relativeTo, stripPrefix?_eq_some_iff.2 hrest.symm]
  rw [hrelative]
  by_cases hbase : base.text = ""
  · obtain rfl : rest = p.parts := by simpa [parts_of_text_eq_empty hbase] using hrest
    rw [join_of_text_eq_empty hbase, parts_joined]
  · -- The first part of the path is one of the base, so that only inner parts are left.
    have hinner : ∀ part ∈ rest, part.IsInner := by
      intro part hpart
      obtain ⟨first, more, hmore⟩ := List.exists_cons_of_ne_nil (parts_ne_nil hbase)
      refine isInner_of_mem_tail (p := p) ?_
      rw [← hrest, hmore]
      exact List.mem_append_right more hpart
    obtain ⟨hparts, hinnerParts⟩ := parts_joined_of_isInner hinner
    have hrelative : (Path.mk (joined rest)).isAbsolute = false := by
      rw [Bool.eq_false_iff, ne_eq, ← root_mem_parts_iff, hparts]
      exact fun hroot => hinner _ hroot
    rw [parts_join hbase hrelative, hinnerParts, hrest]

end Path

namespace Request

/-- The reported path of a component below the root leads from the root to the component, part by
part.  Two components below one root are reported alike exactly if their paths have the same
parts. -/
theorem relativePath_identifies :
    (∀ r : Request, r.root.parts <+: r.path.parts →
      (r.root.join ⟨r.relativePath⟩).parts = r.path.parts) ∧
    ∀ r s : Request, r.root = s.root → r.root.parts <+: r.path.parts →
      s.root.parts <+: s.path.parts →
      (r.relativePath = s.relativePath ↔ r.path.parts = s.path.parts) := by
  have hjoin : ∀ r : Request, r.root.parts <+: r.path.parts →
      (r.root.join ⟨r.relativePath⟩).parts = r.path.parts :=
    fun r h => Path.parts_join_relativeTo h
  refine ⟨hjoin, fun r s hroot hr hs => ⟨fun hsame => ?_, fun hparts => ?_⟩⟩
  · rw [← hjoin r hr, hroot, hsame, hjoin s hs]
  · obtain ⟨rest, hrest⟩ := hr
    have hstrip := Path.stripPrefix?_eq_some_iff.2 hrest.symm
    have hstrip' := Path.stripPrefix?_eq_some_iff.2 (hparts ▸ hrest.symm)
    rw [relativePath, relativePath, Path.relativeTo, Path.relativeTo, ← hroot, hstrip, hstrip']

/-- A path from the root of the file system behind an empty root, and paths with dots and slashes
behind a root that is a dot. -/
theorem relativePath_identifies_spellings :
    ((Path.mk "").join ⟨relativePath { path := ⟨"/x/./y.vue/"⟩ }⟩).parts =
        [.root, .name "x".toList, .name "y.vue".toList] ∧
      ((Path.mk ".").join ⟨relativePath { path := ⟨"./a//../b.vue"⟩, root := ⟨"."⟩ }⟩).parts =
        [.here, .name "a".toList, .up, .name "b.vue".toList] ∧
      relativePath { path := ⟨"./a//../b.vue"⟩, root := ⟨"."⟩ } ≠
        relativePath { path := ⟨"././b.vue"⟩, root := ⟨"."⟩ } := by
  obtain ⟨hjoin, hsame⟩ := relativePath_identifies
  refine ⟨hjoin { path := ⟨"/x/./y.vue/"⟩ } List.nil_prefix,
    hjoin { path := ⟨"./a//../b.vue"⟩, root := ⟨"."⟩ } ⟨_, rfl⟩, ?_⟩
  rw [ne_eq, hsame { path := ⟨"./a//../b.vue"⟩, root := ⟨"."⟩ }
    { path := ⟨"././b.vue"⟩, root := ⟨"."⟩ } rfl ⟨_, rfl⟩ ⟨_, rfl⟩]
  decide

end Request

end TemplateImports
