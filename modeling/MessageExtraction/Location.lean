import MessageExtraction.Text.Lines

/-!
# Locations

A place in a source file by line and column, both counted from 1. Line 0 marks what has no place in the
source, such as nodes that the extraction has made.
-/

namespace MessageExtraction

/-- A place in a source file. -/
structure Location where
  file : String
  line : Nat
  column : Nat
deriving DecidableEq, Repr, Inhabited

/-- The location as `file:line:column`. -/
def Location.text (l : Location) : String :=
  l.file ++ ":" ++ toString l.line ++ ":" ++ toString l.column

/-- The line of the source that a location points into, empty if there is none. -/
def Location.sourceLine (l : Location) (source : String) : String :=
  match l.line with
  | 0 => ""
  | n + 1 => String.ofList ((Text.lines source.toList).getD n [])

end MessageExtraction
