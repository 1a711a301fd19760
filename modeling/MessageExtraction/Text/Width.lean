import MessageExtraction.Text.Case
import MessageExtraction.Text.WidthTable

/-!
# Columns of a character

How many columns of a fixed-width display a character takes on its own.
-/

namespace MessageExtraction.Text

/-- A character that controls the display and is not shown. -/
def isControl (c : Char) : Bool := c.toNat < 0x20 || (0x7F ≤ c.toNat && c.toNat < 0xA0)

/-- The columns that a character takes. -/
def charWidth (c : Char) : Nat :=
  let n := c.toNat
  if isControl c then 0
  else if n < 0x7F then 1
  else if inRanges zeroWidthRanges n then 0
  else if n = 0x17D8 then 3
  else if inRanges wideRanges n then 2
  else 1

/-- The UTF-16 code units of a character. -/
def units16 (c : Char) : Nat := if c.toNat < 0x10000 then 1 else 2

end MessageExtraction.Text
