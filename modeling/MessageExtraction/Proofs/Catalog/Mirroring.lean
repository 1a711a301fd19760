import MessageExtraction.Proofs.Catalog.Place
import MessageExtraction.Proofs.Path.Components

/-!
# Catalogs mirror the sources

A catalog lies below the output directory as its source file lies below the project root. Only the names on
the way count: what leads up, the root and the current directory are left out, so no catalog lies outside of
the output directory.

* `relativeComponents`: the components of a source file behind those of the project root.
* `place_eq`: the place of a catalog, by these components alone.
* `components_path`: the components of the path of a catalog, and when two catalogs have one path.
-/

namespace MessageExtraction.Catalog

variable {source source' root root' : Path}

/-- The components of a source file behind those of the project root, or all of them if it lies elsewhere. -/
def relativeComponents (source root : Path) : List Path.Component :=
  if root.components <+: source.components then source.components.drop root.components.length
  else source.components

/-- The part before its last point of the name that components end in, if they end in one. -/
def stem? (components : List Path.Component) : Option String :=
  match components.getLast? with
  | some (.name text) => some (Path.splitName text).1
  | _ => none

theorem fileStem?_eq_stem? (p : Path) : p.fileStem? = stem? p.components := by
  rw [Path.fileStem?, Path.fileName?, stem?]
  rcases p.components.getLast? with _ | _ | _ | _ | _ <;> rfl

theorem components_relativeSource (source root : Path) :
    (relativeSource source root).components = relativeComponents source root := by
  rw [relativeSource, relativeComponents]
  split
  · rename_i below
    obtain ⟨relative, some, eq⟩ := Option.map_eq_some_iff.mp (Path.components_relativeTo? below)
    rw [some, Option.getD_some, eq]
  · rename_i elsewhere
    have apart : source.startsWith root = false := by
      rwa [Bool.eq_false_iff, ne_eq, Path.startsWith, List.isPrefixOf_iff_prefix]
    rw [Path.relativeTo?, apart]
    rfl

/-- The place of a catalog by the components of its source file. -/
theorem place_eq (source root : Path) :
    place source root = names (relativeComponents source root).dropLast
      ++ [(stem? (relativeComponents source root)).getD "" ++ ".json"] := by
  rw [place, Path.components_parent?, fileStem?_eq_stem?, components_relativeSource]

theorem stem?_ne_empty (source root : Path) : stem? (relativeComponents source root) ≠ some "" := by
  rw [← components_relativeSource, stem?]
  split
  · rename_i name last
    have named := (Path.isSegment_of_mem_components (List.mem_of_getLast? last)).toList_ne_nil
    rw [ne_eq, Option.some.injEq]
    exact Path.splitName_fst_ne_empty fun empty => named (String.toList_eq_nil_iff.mpr empty)
  · exact (Option.some_ne_none _).symm

/-- Two catalogs have one place exactly if the names above their sources and the stems of these are the
same. -/
theorem place_eq_place_iff :
    place source root = place source' root'
      ↔ names (relativeComponents source root).dropLast = names (relativeComponents source' root').dropLast
        ∧ stem? (relativeComponents source root) = stem? (relativeComponents source' root') := by
  rw [place_eq, place_eq, List.append_singleton_inj, String.append_left_inj]
  refine and_congr_right fun _ => ⟨fun eq => ?_, fun eq => by rw [eq]⟩
  -- A stem is not empty, so a file without a name does not share its place with another.
  have some := stem?_ne_empty source root
  have some' := stem?_ne_empty source' root'
  cases h : stem? (relativeComponents source root) <;>
    cases h' : stem? (relativeComponents source' root') <;> simp_all

theorem components_path_eq_place (outputDirectory source root : Path) :
    (path outputDirectory source root).components
      = outputDirectory.components ++ (place source root).map .name := by
  rw [path_eq_descend, Path.components_descend _ fun _ => isSegment_of_mem_place]

/-- The path of a catalog consists of the components of the output directory, the names above the source
file below the project root, and the stem of the source file with the extension `json`. So it lies below the
output directory, and two catalogs have one path, as it is written or by its components, exactly if these
names and stems are the same. -/
theorem components_path (outputDirectory source source' root root' : Path) :
    (path outputDirectory source root).components
        = outputDirectory.components
          ++ (names (relativeComponents source root).dropLast).map .name
          ++ [.name ((stem? (relativeComponents source root)).getD "" ++ ".json")]
      ∧ (path outputDirectory source root).startsWith outputDirectory = true
      ∧ (path outputDirectory source root = path outputDirectory source' root'
        ↔ names (relativeComponents source root).dropLast
            = names (relativeComponents source' root').dropLast
          ∧ stem? (relativeComponents source root) = stem? (relativeComponents source' root'))
      ∧ ((path outputDirectory source root).components = (path outputDirectory source' root').components
        ↔ path outputDirectory source root = path outputDirectory source' root') := by
  have components := components_path_eq_place outputDirectory
  refine ⟨?_, ?_, path_eq_path_iff.trans place_eq_place_iff, ?_⟩
  · rw [components, place_eq, List.map_append, List.append_assoc]
    rfl
  · rw [Path.startsWith, List.isPrefixOf_iff_prefix, components]
    exact List.prefix_append _ _
  · have inj : Function.Injective Path.Component.name := fun _ _ => Path.Component.name.inj
    rw [components, components, List.append_cancel_left_eq, path_eq_path_iff,
      (List.map_injective_iff.mpr inj).eq_iff]

/-- Names that lead up and that stay are left out of the path of a catalog. -/
example : path ⟨"out/./"⟩ ⟨"/repo/src/../lib/./a.b.tsx"⟩ ⟨"//repo/"⟩ = ⟨"out/./src/lib/a.b.json"⟩ := by
  decide

end MessageExtraction.Catalog
