/-!
# Property names

Which names can stand for themselves as keys of object literals.
-/

namespace MessageExtraction.Syntax

/-- A character of bare property names, digits apart. -/
def isNameStart (c : Char) : Bool := c.isAlpha || c == '_' || c == '$'

/-- Whether a name can be written as a key without quotes: ASCII letters, digits, `_` and `$`, the first
no digit. -/
def isIdentifierName (name : String) : Bool :=
  match name.toList with
  | [] => false
  | c :: r => isNameStart c && r.all fun c => isNameStart c || c.isDigit

end MessageExtraction.Syntax
