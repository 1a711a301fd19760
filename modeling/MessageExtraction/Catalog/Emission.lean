import MessageExtraction.Catalog.Path
import MessageExtraction.Catalog.Text
import MessageExtraction.Failure

/-!
# Writing catalogs

The catalog of a file with messages is written below the output directory, if there is one.
-/

namespace MessageExtraction.Catalog

/-- Writes the catalog of a source file, and gives its path if one was written. Without an output directory
or without messages nothing is written. A failure comes with the file system as it was left. -/
def emit (fs : FileSystem) (outputDirectory : Option String) (source root : Path)
    (messages : List Descriptor) : FileSystem × Except Failure (Option Path) :=
  match outputDirectory, messages with
  | none, _ | _, [] => (fs, .ok none)
  | some directory, messages =>
      let target := path ⟨directory⟩ source root
      let parent := target.parent?.getD ⟨""⟩
      match fs.makeDirectories parent with
      | (fs, some e) => (fs, .error (.createDirectory parent e))
      | (fs, none) =>
          match fs.write target (.text (text messages)) with
          | .error e => (fs, .error (.writeCatalog target e))
          | .ok fs => (fs, .ok (some target))

end MessageExtraction.Catalog
