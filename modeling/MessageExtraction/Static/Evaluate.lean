import MessageExtraction.Static.Value

/-!
# Evaluation before the program runs

The value of an expression if it is known from the expression alone: literals, templates, sums, negative
numbers, arrays and objects of such. Whatever refers to anything else has no known value.
-/

namespace MessageExtraction.Syntax.Tree

/-- The expression inside parentheses and type annotations. -/
def unwrap : Tree → Tree
  | .parenthesisExpression _ e => e.unwrap
  | .tsAsExpression _ e _ => e.unwrap
  | .tsConstAssertion _ e => e.unwrap
  | .tsSatisfiesExpression _ e _ => e.unwrap
  | t => t

/-- The value of a string literal, none if it holds half a surrogate pair. -/
def stringValue? : Tree → Option String
  | .stringLiteral _ (.text value) _ => some value
  | _ => none

/-- The key of a property that is not computed. -/
def staticKey? : Tree → Option String
  | .identifierName _ name => some name
  | .stringLiteral _ (.text value) _ => some value
  | .numericLiteral _ bits => some (Double.mk (UInt64.ofNat bits.toNat)).text
  | _ => none

/-- The text of a chunk of a template, none if it has an invalid escape or half a surrogate pair. -/
def chunkText? : Tree → Option String
  | .templateElement _ _ (.text cooked) _ _ => some cooked
  | _ => none

/-- The text of a template from its chunks and the texts between them. -/
def templateText? : List Tree → List (Option String) → Option String
  | [], _ => some ""
  | chunk :: chunks, [] => do
      let text ← chunk.chunkText?
      let rest ← templateText? chunks []
      some (text ++ rest)
  | chunk :: chunks, between :: texts => do
      let text ← chunk.chunkText?
      let between ← between
      let rest ← templateText? chunks texts
      some (text ++ between ++ rest)

/-- The sum of two values: of numbers, or of texts if one is a string. -/
def sum? : StaticValue → StaticValue → Option StaticValue
  | .number m, .number n => some (.number (m.add n))
  | .string s, v => v.text?.map fun t => .string (s ++ t)
  | v, .string t => v.text?.map fun s => .string (s ++ t)
  | _, _ => none

mutual
/-- The value of an expression, if it is known. -/
def evaluate : Tree → Option StaticValue
  | .parenthesisExpression _ e => e.evaluate
  | .tsAsExpression _ e _ => e.evaluate
  | .tsConstAssertion _ e => e.evaluate
  | .tsSatisfiesExpression _ e _ => e.evaluate
  | .stringLiteral _ (.text value) _ => some (.string value)
  | .numericLiteral _ bits => some (.number ⟨UInt64.ofNat bits.toNat⟩)
  | .booleanLiteral _ b => some (.bool b)
  | .nullLiteral _ => some .null
  | .identifier _ name _ _ => if name = "undefined" then some .undefined else none
  | .templateLiteral _ expressions chunks =>
      (templateText? chunks (evaluateTexts expressions)).map .string
  | .binaryExpression _ operator left right =>
      if operator = "+" then do
        let left ← left.evaluate
        let right ← right.evaluate
        sum? left right
      else none
  | .unaryExpression _ operator argument =>
      if operator = "-" then
        match argument.evaluate with
        | some (.number n) => some (.number n.negate)
        | _ => none
      else none
  | .arrayExpression _ elements => (evaluateItems elements).map .array
  | .objectExpression _ properties => (evaluateProperties properties).map .object
  | _ => none

/-- The texts of expressions, none for those whose value is not known or has no text. -/
def evaluateTexts : List Tree → List (Option String)
  | [] => []
  | e :: es => (e.evaluate >>= StaticValue.text?) :: evaluateTexts es

/-- The values of the items of an array literal without holes and spread items. -/
def evaluateItems : List Tree → Option (List StaticValue)
  | [] => some []
  | .element none e :: es => do
      let v ← e.evaluate
      let vs ← evaluateItems es
      some (v :: vs)
  | _ :: _ => none

/-- The properties of an object literal in which each has a key that is not computed and a value. -/
def evaluateProperties : List Tree → Option (List (String × StaticValue))
  | [] => some []
  | .keyValueProperty key e :: ps => do
      let key ← key.staticKey?
      let v ← e.evaluate
      let properties ← evaluateProperties ps
      some ((key, v) :: properties)
  | _ :: _ => none
end

/-- The text of an expression with a known primitive value: an outer `none` if its value is not known
or is no primitive, an inner one if it is `null` or `undefined`. -/
def evaluateText (e : Tree) : Option (Option String) := do
  let v ← e.evaluate
  if v.isNullish then some none else v.text?.map some

end MessageExtraction.Syntax.Tree
