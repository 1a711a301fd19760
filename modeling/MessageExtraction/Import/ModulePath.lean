import MessageExtraction.Text.Lines

/-!
# Module paths

The same module is imported under many relative paths. Some directory names mark where the internal part of
a path begins; two paths name the same module if they agree from their first marker on.
-/

namespace MessageExtraction.ModulePath

/-- The path from its first segment that is a marker on, the whole path if none is. -/
def normalize (markers : List String) (path : String) : String :=
  let isMarker := fun segment => markers.contains (String.ofList segment)
  match (Text.splitOn '/' path.toList).dropWhile fun segment => !isMarker segment with
  | [] => path
  | segments => String.ofList (Text.joinWith '/' segments)

/-- Whether two paths name the same module. -/
def same (markers : List String) (p q : String) : Bool :=
  normalize markers p == normalize markers q

end MessageExtraction.ModulePath
