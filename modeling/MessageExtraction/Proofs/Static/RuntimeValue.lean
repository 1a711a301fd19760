import MessageExtraction.Proofs.Number.Numeral
import MessageExtraction.Static.Evaluate

/-!
# Values at run time

What literals, templates, sums and negations are when the program runs, by rules that follow the language and
not the evaluation before the program runs. An object has each property once, at the place of its first
definition, and a prototype, which the key `__proto__` sets.

* `Tree.HasValue`: the value of an expression.
* `StaticValue.denote`: the value at run time that a static value stands for.
* `property?_denote`: a static object has the property that is found last under a key.
-/

namespace MessageExtraction

open Syntax (Tree Span)

/-- A value at run time. All numbers that are no number are one value. An object without a prototype of its
own has the ordinary one. -/
inductive RuntimeValue where
  | undefined
  | null
  | bool (b : Bool)
  | number (n : Double)
  | string (text : String)
  | array (items : List RuntimeValue)
  | object (prototype : Option RuntimeValue) (properties : List (String × RuntimeValue))

/-- The number, or the one that stands for all that are no number. -/
def Double.canonical (d : Double) : Double := if d.isNaN then ⟨0x7FF8000000000000⟩ else d

namespace RuntimeValue

/-- The value of a number. -/
def ofDouble (d : Double) : RuntimeValue := .number d.canonical

/-- Whether a text is that of a primitive value. -/
inductive IsText : RuntimeValue → String → Prop
  | undefined : IsText .undefined "undefined"
  | null : IsText .null "null"
  | bool (b : Bool) : IsText (.bool b) (if b then "true" else "false")
  | number {d : Double} {text : String} (numeral : d.IsNumeral text) : IsText (.number d) text
  | string (text : String) : IsText (.string text) text

/-- Whether the value is a string. -/
def isString : RuntimeValue → Bool
  | .string _ => true
  | _ => false

/-- The number that a primitive value other than a string is taken for. -/
def number? : RuntimeValue → Option Double
  | .undefined => some ⟨0x7FF8000000000000⟩
  | .null => some ⟨0⟩
  | .bool b => some ⟨if b then 0x3FF0000000000000 else 0⟩
  | .number d => some d
  | .string _ | .array _ | .object _ _ => none

/-- Whether a value is the sum of two primitive ones: their texts joined if one of them is a string, else the
sum of their numbers. -/
inductive IsSum : RuntimeValue → RuntimeValue → RuntimeValue → Prop
  | texts {v w : RuntimeValue} {s t : String} (joined : (v.isString || w.isString) = true)
      (left : v.IsText s) (right : w.IsText t) : IsSum v w (.string (s ++ t))
  | numbers {v w : RuntimeValue} {m n sum : Double} (left : v.number? = some m)
      (right : w.number? = some n) (isSum : m.IsSum n sum) : IsSum v w (ofDouble sum)

/-- The properties of an object after one is defined: at its place if there is one of that name, else at the
end. -/
def define (key : String) (value : RuntimeValue) :
    List (String × RuntimeValue) → List (String × RuntimeValue)
  | [] => [(key, value)]
  | (name, old) :: properties =>
      if name = key then (key, value) :: properties else (name, old) :: define key value properties

/-- The prototype of an object after it is set: only `null` and objects can be one. -/
def asPrototype (old : Option RuntimeValue) : RuntimeValue → Option RuntimeValue
  | .null => some .null
  | .array items => some (.array items)
  | .object prototype properties => some (.object prototype properties)
  | _ => old

/-- The property of an object under a key. -/
def property? (key : String) : RuntimeValue → Option RuntimeValue
  | .object _ properties => properties.lookup key
  | _ => none

end RuntimeValue

namespace Syntax.Tree

open RuntimeValue (ofDouble IsText IsSum define asPrototype)

/-- Whether a name is the key that a property is written with. -/
inductive IsKey : Tree → String → Prop
  | name (span : Option Span) (name : String) : IsKey (.identifierName span name) name
  | text (span : Option Span) (value : String) (escaped : Tree) :
      IsKey (.stringLiteral span (.text value) escaped) value
  | number (span : Option Span) (bits : Int) {text : String}
      (numeral : (Double.mk (UInt64.ofNat bits.toNat)).IsNumeral text) :
      IsKey (.numericLiteral span bits) text

mutual
/-- Whether an expression has a value. -/
inductive HasValue : Tree → RuntimeValue → Prop
  | parentheses {span : Option Span} {e : Tree} {v : RuntimeValue} (inner : HasValue e v) :
      HasValue (.parenthesisExpression span e) v
  | typed {span : Option Span} {e type : Tree} {v : RuntimeValue} (inner : HasValue e v) :
      HasValue (.tsAsExpression span e type) v
  | constant {span : Option Span} {e : Tree} {v : RuntimeValue} (inner : HasValue e v) :
      HasValue (.tsConstAssertion span e) v
  | satisfying {span : Option Span} {e type : Tree} {v : RuntimeValue} (inner : HasValue e v) :
      HasValue (.tsSatisfiesExpression span e type) v
  | string {span : Option Span} {value : String} {escaped : Tree} :
      HasValue (.stringLiteral span (.text value) escaped) (.string value)
  | number {span : Option Span} {bits : Int} :
      HasValue (.numericLiteral span bits) (ofDouble ⟨UInt64.ofNat bits.toNat⟩)
  | bool {span : Option Span} {b : Bool} : HasValue (.booleanLiteral span b) (.bool b)
  | null {span : Option Span} : HasValue (.nullLiteral span) .null
  | undefined {span : Option Span} {isOptional type : Tree} :
      HasValue (.identifier span "undefined" isOptional type) .undefined
  | template {span : Option Span} {expressions chunks : List Tree} {text : String}
      (joined : HasText chunks expressions text) :
      HasValue (.templateLiteral span expressions chunks) (.string text)
  | sum {span : Option Span} {e f : Tree} {v w sum : RuntimeValue} (left : HasValue e v)
      (right : HasValue f w) (isSum : v.IsSum w sum) : HasValue (.binaryExpression span "+" e f) sum
  | minus {span : Option Span} {argument : Tree} {v : RuntimeValue} {n : Double}
      (inner : HasValue argument v) (number : v.number? = some n) :
      HasValue (.unaryExpression span "-" argument) (ofDouble n.negate)
  | array {span : Option Span} {elements : List Tree} {items : List RuntimeValue}
      (listed : HasItems elements items) : HasValue (.arrayExpression span elements) (.array items)
  | object {span : Option Span} {properties : List Tree} {v : RuntimeValue}
      (built : Builds none [] properties v) : HasValue (.objectExpression span properties) v

/-- Whether a text is that of the chunks of a template and the values between them. -/
inductive HasText : List Tree → List Tree → String → Prop
  | last {span : Option Span} {tail escaped raw : Tree} {chunk : String} :
      HasText [.templateElement span tail (.text chunk) escaped raw] [] chunk
  | next {span : Option Span} {tail escaped raw e : Tree} {chunk text rest : String}
      {chunks expressions : List Tree} {v : RuntimeValue} (value : HasValue e v) (between : v.IsText text)
      (behind : HasText chunks expressions rest) :
      HasText (.templateElement span tail (.text chunk) escaped raw :: chunks) (e :: expressions)
        (chunk ++ text ++ rest)

/-- Whether the items of an array literal have values. -/
inductive HasItems : List Tree → List RuntimeValue → Prop
  | nil : HasItems [] []
  | cons {e : Tree} {elements : List Tree} {v : RuntimeValue} {items : List RuntimeValue}
      (item : HasValue e v) (behind : HasItems elements items) :
      HasItems (.element none e :: elements) (v :: items)

/-- Whether the properties of an object literal build an object, from the prototype and the properties that
it has already. -/
inductive Builds : Option RuntimeValue → List (String × RuntimeValue) → List Tree → RuntimeValue → Prop
  | done {prototype : Option RuntimeValue} {properties : List (String × RuntimeValue)} :
      Builds prototype properties [] (.object prototype properties)
  | property {prototype : Option RuntimeValue} {properties : List (String × RuntimeValue)} {key e : Tree}
      {name : String} {more : List Tree} {v result : RuntimeValue} (isKey : IsKey key name)
      (ordinary : name ≠ "__proto__") (value : HasValue e v)
      (behind : Builds prototype (define name v properties) more result) :
      Builds prototype properties (.keyValueProperty key e :: more) result
  | prototype {prototype : Option RuntimeValue} {properties : List (String × RuntimeValue)} {key e : Tree}
      {more : List Tree} {v result : RuntimeValue} (isKey : IsKey key "__proto__") (value : HasValue e v)
      (behind : Builds (v.asPrototype prototype) properties more result) :
      Builds prototype properties (.keyValueProperty key e :: more) result
end

end Syntax.Tree

/-! ## Static values -/

namespace StaticValue

open RuntimeValue (ofDouble define)

mutual
/-- The value at run time that a static value stands for. -/
def denote : StaticValue → RuntimeValue
  | .undefined => .undefined
  | .null => .null
  | .bool b => .bool b
  | .number n => ofDouble n
  | .string text => .string text
  | .array items => .array (denoteItems items)
  | .object properties => .object none (denoteProperties [] properties)

/-- The values at run time that the items of an array stand for. -/
def denoteItems : List StaticValue → List RuntimeValue
  | [] => []
  | v :: vs => v.denote :: denoteItems vs

/-- The properties that an object has after those of a static object are defined one after the other. -/
def denoteProperties (old : List (String × RuntimeValue)) :
    List (String × StaticValue) → List (String × RuntimeValue)
  | [] => old
  | (key, v) :: properties => denoteProperties (define key v.denote old) properties
end

end StaticValue

namespace RuntimeValue

theorem lookup_pair {α : Type} (key name : String) (a : α) (properties : List (String × α)) :
    ((name, a) :: properties).lookup key = if key = name then some a else properties.lookup key := by
  rw [List.lookup_cons]
  by_cases here : key = name
  · rw [if_pos here, beq_iff_eq.mpr here]
  · rw [if_neg here, beq_eq_false_iff_ne.mpr here]

theorem lookup_define (key name : String) (v : RuntimeValue) (properties : List (String × RuntimeValue)) :
    (define key v properties).lookup name
      = if name = key then some v else properties.lookup name := by
  induction properties with
  | nil => exact lookup_pair name key v []
  | cons p properties ih =>
    obtain ⟨other, old⟩ := p
    unfold define
    rw [lookup_pair]
    split
    · rename_i same
      subst same
      rw [lookup_pair]
      split <;> rfl
    · rename_i apart
      rw [lookup_pair, ih]
      split
      · rename_i here
        rw [if_neg (by rintro rfl; exact apart here.symm)]
      · rfl

end RuntimeValue

namespace StaticValue

theorem lookup_denoteProperties (key : String) (old : List (String × RuntimeValue))
    (properties : List (String × StaticValue)) : (denoteProperties old properties).lookup key
      = ((properties.reverse.lookup key).map denote).or (old.lookup key) := by
  induction properties generalizing old with
  | nil => rfl
  | cons p properties ih =>
    obtain ⟨name, v⟩ := p
    rw [denoteProperties, ih, RuntimeValue.lookup_define, List.reverse_cons, List.lookup_append,
      RuntimeValue.lookup_pair]
    -- An entry further behind counts before this one, and this one before what was there.
    cases later : properties.reverse.lookup key with
    | some w => rfl
    | none => split <;> rfl

/-- A static object has the property that is found last under a key. -/
theorem property?_denote (key : String) (v : StaticValue) :
    v.denote.property? key = (v.get? key).map denote := by
  cases v with
  | object properties =>
    show (denoteProperties [] properties).lookup key = (properties.reverse.lookup key).map denote
    rw [lookup_denoteProperties, List.lookup_nil, Option.or_none]
  | _ => rfl

end StaticValue

end MessageExtraction
