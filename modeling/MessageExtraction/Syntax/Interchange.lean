import MessageExtraction.Json.Basic
import MessageExtraction.Number.Double
import MessageExtraction.Syntax.Node

/-!
# Trees as JSON

A node is a JSON object with the name of its type, its place and its fields; fields that hold nothing are
left out. The bits of a number literal are written as sixteen hexadecimal digits.
-/

namespace MessageExtraction.Syntax.Tree

/-- The number of a row of hexadecimal digits. -/
def hexNumber? (s : List Char) : Option Nat :=
  s.foldlM (fun n c => do
    if c.isDigit then some (16 * n + (c.toNat - 48))
    else if 'a' ≤ c ∧ c ≤ 'f' then some (16 * n + (c.toNat - 87))
    else if 'A' ≤ c ∧ c ≤ 'F' then some (16 * n + (c.toNat - 55))
    else none) 0

/-- The bits of a double from their spelling: hexadecimal digits, or `NaN`. -/
def bits? (spelling : String) : Option Double :=
  if spelling = "NaN" then some ⟨0x7FF8000000000000⟩
  else (hexNumber? spelling.toList).map fun n => ⟨UInt64.ofNat n⟩

/-- The spelling of the bits of a double: sixteen hexadecimal digits, or `NaN`. -/
def spellBits (d : Double) : String :=
  if d.isNaN then "NaN"
  else
    let digits := Nat.toDigits 16 d.bits.toNat
    String.ofList (List.replicate (16 - digits.length) '0' ++ digits)

/-- The span that a list of two offsets is. -/
def asSpan? : Tree → Option Span
  | .list [.number lo, .number hi] => some ⟨lo.toNat, hi.toNat⟩
  | _ => none

/-- The kind of a node of that type name with fields of those names: the first listed one that has them all.
A template in a type, which holds types where other templates hold expressions, is told apart by them. -/
def kindWith (name : String) (fields : List String) : Kind :=
  (Kind.all.find? fun kind =>
    kind.shape.typeName == some name && fields.all kind.shape.fields.contains).getD
      (.unlisted name fields)

/-- The names of the fields among the names of parts. -/
def fieldNames (parts : List (String × Tree)) : List String :=
  (parts.map Prod.fst).filter fun name => name ∉ ["type", "span", "spread"]

/-- The node of named parts. -/
def ofParts? (parts : List (String × Tree)) : Option Tree := do
  let kind ← match parts.lookup "type" with
    | some (.text name) => some (kindWith name (fieldNames parts))
    | some _ => none
    | none => some (if (parts.lookup "expression").isSome then .element else .function)
  let shape := kind.shape
  let part := fun name => (parts.lookup name).getD .absent
  let span := match shape.spanField with
    | .span => (part "span").asSpan?
    | .spread => (part "spread").asSpan?
    | .absent => none
  match kind, shape.fields.map part with
  | .numericLiteral, [.text spelling] => do
      let d ← bits? spelling
      some (.numericLiteral span d.bits.toNat)
  | .optionalChainingExpression, [isOptional, .node .callExpression s fields] =>
      some (.node kind span [isOptional, .node .optionalCall s fields])
  | _, fields => some (.node kind span fields)

mutual
/-- The tree that a JSON value is, if it is one. -/
def ofJson? : Json → Option Tree
  | .null => some .absent
  | .bool b => some (.flag b)
  | .number spelling => spelling.toInt?.map .number
  | .string s => some (.text s)
  | .unreadable => none
  | .array items => (ofItems? items).map .list
  | .object fields => ofFields? fields >>= ofParts?

/-- The trees that JSON values are. -/
def ofItems? : List Json → Option (List Tree)
  | [] => some []
  | j :: js => do
      let t ← ofJson? j
      let ts ← ofItems? js
      some (t :: ts)

/-- The named trees that the fields of a JSON object are. -/
def ofFields? : List (String × Json) → Option (List (String × Tree))
  | [] => some []
  | (key, j) :: fields => do
      let t ← ofJson? j
      let ts ← ofFields? fields
      some ((key, t) :: ts)
end

/-- A span as two offsets. -/
def spanJson (s : Span) : Json := .array [.ofNat s.lo, .ofNat s.hi]

/-- The JSON fields of a type name and a place. -/
def headFields (shape : Shape) (span : Option Span) : List (String × Json) :=
  (shape.typeName.map fun name => ("type", Json.string name)).toList ++
    match shape.spanField, span with
    | .span, some s => [("span", spanJson s)]
    | .spread, some s => [("spread", spanJson s)]
    | _, _ => []

mutual
/-- The JSON value of a tree. -/
def toJson : Tree → Json
  | .absent => .null
  | .flag b => .bool b
  | .text s => .string s
  | .number n => .ofInt n
  | .list items => .array (itemsJson items)
  | .numericLiteral span bits =>
      .object (headFields Kind.numericLiteral.shape span ++
        [("bits", .string (spellBits ⟨UInt64.ofNat bits.toNat⟩))])
  | .node kind span fields =>
      .object (headFields kind.shape span ++ fieldsJson kind.shape.fields fields)

/-- The JSON values of trees. -/
def itemsJson : List Tree → List Json
  | [] => []
  | t :: ts => t.toJson :: itemsJson ts

/-- The named JSON values of fields, without those that hold nothing. -/
def fieldsJson : List String → List Tree → List (String × Json)
  | name :: names, t :: ts =>
      if t.isAbsent then fieldsJson names ts else (name, t.toJson) :: fieldsJson names ts
  | _, _ => []
end

end MessageExtraction.Syntax.Tree
