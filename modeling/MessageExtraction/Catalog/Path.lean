import MessageExtraction.Path.Basic

/-!
# Where catalogs are written

The catalog of a source file lies in the output directory, in the directories that the source file lies
in below the project root, under the name of the source file with the extension `json`.
-/

namespace MessageExtraction.Catalog

/-- The names among the components. -/
def names (components : List Path.Component) : List String :=
  components.filterMap fun
    | .name text => some text
    | _ => none

/-- The path of a source file below the project root, or as it is if it lies elsewhere. -/
def relativeSource (source root : Path) : Path := (source.relativeTo? root).getD source

/-- The path of the catalog of a source file. -/
def path (outputDirectory source root : Path) : Path :=
  let relative := relativeSource source root
  let directories := names ((relative.parent?.map Path.components).getD [])
  let file := relative.fileStem?.getD "" ++ ".json"
  (directories ++ [file]).foldl (fun p segment => p.join ⟨segment⟩) outputDirectory

end MessageExtraction.Catalog
