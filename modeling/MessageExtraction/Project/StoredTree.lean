import MessageExtraction.Json.Reader
import MessageExtraction.Project.Basic
import MessageExtraction.Syntax.Interchange

/-!
# Stored trees

The tree of a source file is made by a parser of its language, which leaves it as JSON in a file beside the
source. A file without a stored tree, or with one that is none, is no module.
-/

namespace MessageExtraction.Project

open Syntax (Tree)

/-- The path of the file that holds the tree of a source. -/
def treePath (source : String) : Path := ⟨source ++ ".tree.json"⟩

/-- The tree that a text in JSON stands for. -/
def readTree? (text : String) : Option Tree := Json.parse? text >>= Tree.ofJson?

/-- Reads the stored tree of a source. -/
def storedTree (fs : FileSystem) : Parser := fun path _ =>
  match fs.read (treePath path) with
  | .error e => .error ((treePath path).text ++ ": " ++ e.text)
  | .ok text =>
      match readTree? text with
      | some tree => .ok tree
      | none => .error ((treePath path).text ++ ": not a tree")

end MessageExtraction.Project
