import MessageExtraction.Number.Double
import MessageExtraction.Syntax.Node
import MessageExtraction.Syntax.PropertyName

/-!
# Static values

The values that expressions can be known to have before the program runs, and how they are written back as
expressions.
-/

namespace MessageExtraction

open Syntax

/-- A value known before the program runs. An object keeps its properties in the order of the source,
repeated ones included. -/
inductive StaticValue where
  | undefined
  | null
  | bool (b : Bool)
  | number (n : Double)
  | string (text : String)
  | array (items : List StaticValue)
  | object (properties : List (String × StaticValue))
deriving Repr, BEq, Inhabited

namespace StaticValue

mutual
/-- Whether two values are the same, numbers by their bits. -/
def same : StaticValue → StaticValue → Bool
  | .undefined, .undefined => true
  | .null, .null => true
  | .bool a, .bool b => a == b
  | .number m, .number n => m == n
  | .string s, .string t => s == t
  | .array vs, .array ws => sameItems vs ws
  | .object ps, .object qs => sameProperties ps qs
  | _, _ => false

/-- Whether two lists of values are the same. -/
def sameItems : List StaticValue → List StaticValue → Bool
  | [], [] => true
  | v :: vs, w :: ws => v.same w && sameItems vs ws
  | _, _ => false

/-- Whether two lists of properties are the same. -/
def sameProperties : List (String × StaticValue) → List (String × StaticValue) → Bool
  | [], [] => true
  | (k, v) :: ps, (l, w) :: qs => k == l && v.same w && sameProperties ps qs
  | _, _ => false
end

mutual
theorem same_iff : (v w : StaticValue) → (v.same w = true ↔ v = w)
  | .undefined, w => by cases w <;> simp [same]
  | .null, w => by cases w <;> simp [same]
  | .bool _, w => by cases w <;> simp [same]
  | .number _, w => by cases w <;> simp [same]
  | .string _, w => by cases w <;> simp [same]
  | .array vs, w => by
      cases w <;> simp [same]
      next ws => exact sameItems_iff vs ws
  | .object ps, w => by
      cases w <;> simp [same]
      next qs => exact sameProperties_iff ps qs

theorem sameItems_iff : (vs ws : List StaticValue) → (sameItems vs ws = true ↔ vs = ws)
  | [], ws => by cases ws <;> simp [sameItems]
  | _ :: _, [] => by simp [sameItems]
  | v :: vs, w :: ws => by simp [sameItems, same_iff v w, sameItems_iff vs ws]

theorem sameProperties_iff :
    (ps qs : List (String × StaticValue)) → (sameProperties ps qs = true ↔ ps = qs)
  | [], qs => by cases qs <;> simp [sameProperties]
  | _ :: _, [] => by simp [sameProperties]
  | (k, v) :: ps, (l, w) :: qs => by
      simp [sameProperties, same_iff v w, sameProperties_iff ps qs]
end

instance : DecidableEq StaticValue := fun v w => decidable_of_iff _ (same_iff v w)

mutual
/-- Whether two values are equal as the program would find them: numbers by their values, so that nothing
equals what is no number, and structures part by part. -/
def equal : StaticValue → StaticValue → Bool
  | .undefined, .undefined => true
  | .null, .null => true
  | .bool a, .bool b => a == b
  | .number m, .number n => m.equal n
  | .string s, .string t => s == t
  | .array vs, .array ws => equalItems vs ws
  | .object ps, .object qs => equalProperties ps qs
  | _, _ => false

/-- Whether two lists of values are equal item by item. -/
def equalItems : List StaticValue → List StaticValue → Bool
  | [], [] => true
  | v :: vs, w :: ws => v.equal w && equalItems vs ws
  | _, _ => false

/-- Whether two lists of properties are equal in keys and values, in order. -/
def equalProperties : List (String × StaticValue) → List (String × StaticValue) → Bool
  | [], [] => true
  | (k, v) :: ps, (l, w) :: qs => k == l && v.equal w && equalProperties ps qs
  | _, _ => false
end

/-- The text of a primitive value, as joining it to a string would give. -/
def text? : StaticValue → Option String
  | .undefined => some "undefined"
  | .null => some "null"
  | .bool b => some (if b then "true" else "false")
  | .number n => some n.text
  | .string text => some text
  | .array _ | .object _ => none

/-- Whether the value is `null` or `undefined`. -/
def isNullish : StaticValue → Bool
  | .undefined | .null => true
  | _ => false

/-- Whether the value is an object. -/
def isObject : StaticValue → Bool
  | .object _ => true
  | _ => false

/-- The property of an object; of several with one key the last counts. -/
def get? (key : String) : StaticValue → Option StaticValue
  | .object properties => properties.reverse.lookup key
  | _ => none

/-- The text of a property that has a primitive value other than `null` and `undefined`. -/
def fieldText? (key : String) (v : StaticValue) : Option String := do
  let field ← v.get? key
  if field.isNullish then none else field.text?

/-! ## Writing values as expressions -/

/-- A string literal that is not in the source. -/
def stringNode (text : String) : Tree := .stringLiteral (some .made) (.text text) .absent

/-- A key of an object literal: a bare name where it can be one, else a string. -/
def keyNode (key : String) : Tree :=
  if isIdentifierName key then .identifierName (some .made) key else stringNode key

mutual
/-- The expression that has the value. -/
def toTree : StaticValue → Tree
  | .undefined => .identifier (some .made) "undefined" .absent .absent
  | .null => .nullLiteral (some .made)
  | .bool b => .booleanLiteral (some .made) b
  | .number n => .numericLiteral (some .made) n.bits.toNat
  | .string text => stringNode text
  | .array items => .arrayExpression (some .made) (itemTrees items)
  | .object properties => .objectExpression (some .made) (propertyTrees properties)

/-- The items of an array literal. -/
def itemTrees : List StaticValue → List Tree
  | [] => []
  | v :: vs => .element none v.toTree :: itemTrees vs

/-- The properties of an object literal. -/
def propertyTrees : List (String × StaticValue) → List Tree
  | [] => []
  | (key, v) :: properties => .keyValueProperty (keyNode key) v.toTree :: propertyTrees properties
end

end StaticValue

end MessageExtraction
