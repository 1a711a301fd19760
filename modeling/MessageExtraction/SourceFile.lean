import MessageExtraction.Location
import MessageExtraction.Syntax.Tree
import MessageExtraction.Text.Width

/-!
# Source files

Where an offset of a syntax tree stands in the text of its file. Lines end at a line feed, at a carriage
return, or at both together. Columns count what the characters before take on a display, a tab four.
-/

namespace MessageExtraction

open Syntax (Span)

/-- A source file: its path and its text. -/
structure SourceFile where
  path : String
  text : String
deriving DecidableEq, Repr, Inhabited

namespace SourceFile

/-- The byte order mark. -/
def byteOrderMark : Char := Char.ofNat 0xFEFF

/-- The characters that offsets count: the text without a byte order mark at its front. -/
def characters (file : SourceFile) : List Char :=
  match file.text.toList with
  | c :: r => if c = byteOrderMark then r else c :: r
  | [] => []

/-- The columns by which a character moves what stands behind it: its width on a display, and one more for
a character that takes two units of UTF-16. -/
def columns (c : Char) : Nat :=
  if c = '\t' then 4 else Text.charWidth c + (Text.units16 c - 1)

/-- The line and column behind the first `bytes` bytes of a text that starts at a line and column. -/
def advance (line column bytes : Nat) : List Char → Nat × Nat
  | [] => (line, column)
  | '\r' :: '\n' :: r =>
      if bytes < 2 then (line, column) else advance (line + 1) 1 (bytes - 2) r
  | c :: r =>
      if bytes < c.utf8Size then (line, column)
      else if c = '\n' ∨ c = '\r' then advance (line + 1) 1 (bytes - c.utf8Size) r
      else advance line (column + columns c) (bytes - c.utf8Size) r

/-- The location of a node; line and column are zero for one that is not in the source. -/
def locate (file : SourceFile) : Option Span → Location
  | none => ⟨file.path, 0, 0⟩
  | some span =>
      if span.isMade then ⟨file.path, 0, 0⟩
      else
        let (line, column) := advance 1 1 (span.lo - 1) file.characters
        ⟨file.path, line, column⟩

end SourceFile

end MessageExtraction
