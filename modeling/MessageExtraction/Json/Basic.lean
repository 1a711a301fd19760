/-!
# JSON values

JSON texts as values. A number keeps its spelling and an object the order of its fields, repeated keys
included. A string whose escapes name half of a surrogate pair is no text; it is read as `unreadable`,
and so is an object with such a key.
-/

namespace MessageExtraction

/-- A JSON value. -/
inductive Json where
  | null
  | bool (b : Bool)
  | number (spelling : String)
  | string (text : String)
  | unreadable
  | array (items : List Json)
  | object (fields : List (String × Json))
deriving Repr, BEq, Inhabited

namespace Json

/-- The value of the first field of that name. -/
def field? (key : String) : Json → Option Json
  | .object fields => fields.lookup key
  | _ => none

/-- The text of a string. -/
def text? : Json → Option String
  | .string text => some text
  | _ => none

/-- The items of an array. -/
def items? : Json → Option (List Json)
  | .array items => some items
  | _ => none

/-- The texts of an array of strings. -/
def texts? (j : Json) : Option (List String) := j.items? >>= List.mapM text?

/-- A natural number as JSON. -/
def ofNat (n : Nat) : Json := .number (toString n)

/-- An integer as JSON. -/
def ofInt (i : Int) : Json := .number (toString i)

end Json

end MessageExtraction
