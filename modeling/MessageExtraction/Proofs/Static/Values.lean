import Mathlib.Data.List.Forall2
import MessageExtraction.Static.Evaluate

/-!
# Values and the expressions that have them

* `isProperty_of_evaluateProperties`: the properties of an object literal that has a value.
* `evaluate_toTree`, `toTree_evaluate_iff_same`: the expression that a value is written as has that value,
  with every number and every key as it was, and no other.
* `equal_iff`: two values without a part that is no number are equal if they are the same but for the signs
  of zeros.
-/

namespace MessageExtraction

open Syntax (Tree)

/-! ## Written values -/

namespace Syntax.Tree

theorem evaluate_unwrap : (e : Tree) → e.unwrap.evaluate = e.evaluate
  | e => by
    rw [unwrap.eq_def]
    split
    · rename_i inner
      rw [evaluate_unwrap inner, evaluate]
    · rename_i inner _
      rw [evaluate_unwrap inner, evaluate]
    · rename_i inner
      rw [evaluate_unwrap inner, evaluate]
    · rename_i inner _
      rw [evaluate_unwrap inner, evaluate]
    · rfl
termination_by e => sizeOf e

/-- Whether a tree is a property of an object literal with that key and that value. -/
def IsProperty (entry : String × StaticValue) (t : Tree) : Prop :=
  ∃ key e, t = .keyValueProperty key e ∧ key.staticKey? = some entry.1 ∧ e.evaluate = some entry.2

theorem isProperty_of_evaluateProperties {ts : List Tree} {ps : List (String × StaticValue)}
    (h : evaluateProperties ts = some ps) : List.Forall₂ IsProperty ps ts := by
  induction ts generalizing ps with
  | nil =>
    cases h
    exact .nil
  | cons t ts ih =>
    rw [evaluateProperties.eq_def] at h
    split at h
    · contradiction
    · rename_i key e _ eq
      obtain ⟨rfl, rfl⟩ := List.cons.inj eq
      simp only [Option.bind_eq_bind, Option.bind_eq_some_iff] at h
      obtain ⟨name, hKey, v, value, ps, rest, ⟨⟩⟩ := h
      exact .cons ⟨key, e, rfl, hKey, value⟩ (ih rest)
    · contradiction

end Syntax.Tree

namespace StaticValue

theorem staticKey?_keyNode (key : String) : (keyNode key).staticKey? = some key := by
  rw [keyNode]
  split <;> rfl

mutual
/-- The expression that a value is written as has that value. -/
theorem evaluate_toTree : (v : StaticValue) → v.toTree.evaluate = some v
  | .undefined => by simp [toTree, Syntax.Tree.evaluate]
  | .null => rfl
  | .bool _ => rfl
  | .number n => by simp [toTree, Syntax.Tree.evaluate]
  | .string _ => rfl
  | .array vs => by rw [toTree, Syntax.Tree.evaluate, evaluateItems_itemTrees vs, Option.map_some]
  | .object ps => by
    rw [toTree, Syntax.Tree.evaluate, evaluateProperties_propertyTrees ps, Option.map_some]

theorem evaluateItems_itemTrees :
    (vs : List StaticValue) → Syntax.Tree.evaluateItems (itemTrees vs) = some vs
  | [] => rfl
  | v :: vs => by
    simp [itemTrees, Syntax.Tree.evaluateItems, evaluate_toTree v, evaluateItems_itemTrees vs]

theorem evaluateProperties_propertyTrees : (ps : List (String × StaticValue)) →
    Syntax.Tree.evaluateProperties (propertyTrees ps) = some ps
  | [] => rfl
  | (key, v) :: ps => by
    simp [propertyTrees, Syntax.Tree.evaluateProperties, staticKey?_keyNode, evaluate_toTree v,
      evaluateProperties_propertyTrees ps]
end

/-- The expression that a value is written as has exactly one value, the same down to the bits of its
numbers and the order of its properties. -/
theorem toTree_evaluate_iff_same (v w : StaticValue) :
    v.toTree.evaluate = some w ↔ v.same w = true := by
  rw [evaluate_toTree, Option.some_inj, same_iff]

end StaticValue

/-! ## Equal values -/

/-- A number, the positive zero for either. -/
def Double.unsigned (d : Double) : Double := if d.isZero then ⟨0⟩ else d

theorem Double.equal_iff {a b : Double} (ha : a.isNaN = false) (hb : b.isNaN = false) :
    a.equal b = true ↔ a.unsigned = b.unsigned := by
  have zero : (⟨0⟩ : Double).isZero = true := by decide
  rw [equal, ha, hb, unsigned, unsigned]
  cases za : a.isZero with
  | true =>
    cases zb : b.isZero with
    | true => simp
    | false =>
      simp only [Bool.not_false, Bool.true_and, Bool.and_false, Bool.or_false, beq_iff_eq, if_true,
        Bool.false_eq_true, if_false]
      constructor
      · intro eq
        obtain rfl : a = b := congrArg Double.mk eq
        rw [za] at zb
        contradiction
      · rintro rfl
        rw [zero] at zb
        contradiction
  | false =>
    cases zb : b.isZero with
    | true =>
      simp only [Bool.not_false, Bool.true_and, Bool.and_true, Bool.or_false, beq_iff_eq, if_true,
        Bool.false_eq_true, if_false]
      constructor
      · intro eq
        obtain rfl : a = b := congrArg Double.mk eq
        rw [za] at zb
        contradiction
      · rintro rfl
        rw [zero] at za
        contradiction
    | false =>
      simp only [Bool.not_false, Bool.true_and, Bool.and_false, Bool.or_false, beq_iff_eq,
        Bool.false_eq_true, if_false]
      exact ⟨congrArg Double.mk, congrArg Double.bits⟩

namespace StaticValue

mutual
/-- A value in which every zero is positive. -/
def unsigned : StaticValue → StaticValue
  | .number n => .number n.unsigned
  | .array vs => .array (unsignedItems vs)
  | .object ps => .object (unsignedProperties ps)
  | v => v

/-- Values in which every zero is positive. -/
def unsignedItems : List StaticValue → List StaticValue
  | [] => []
  | v :: vs => v.unsigned :: unsignedItems vs

/-- Properties in whose values every zero is positive. -/
def unsignedProperties : List (String × StaticValue) → List (String × StaticValue)
  | [] => []
  | (key, v) :: ps => (key, v.unsigned) :: unsignedProperties ps
end

mutual
/-- Whether a part of a value is no number. -/
def hasNaN : StaticValue → Bool
  | .number n => n.isNaN
  | .array vs => itemsHaveNaN vs
  | .object ps => propertiesHaveNaN ps
  | _ => false

/-- Whether a part of any of the values is no number. -/
def itemsHaveNaN : List StaticValue → Bool
  | [] => false
  | v :: vs => v.hasNaN || itemsHaveNaN vs

/-- Whether a part of the value of any of the properties is no number. -/
def propertiesHaveNaN : List (String × StaticValue) → Bool
  | [] => false
  | (_, v) :: ps => v.hasNaN || propertiesHaveNaN ps
end

mutual
/-- Values without a part that is no number are equal if they differ in nothing but signs of zeros. -/
theorem equal_iff : (v w : StaticValue) → v.hasNaN = false → w.hasNaN = false →
    (v.equal w = true ↔ v.unsigned = w.unsigned)
  | .undefined, w, _, _ => by cases w <;> simp [equal, unsigned]
  | .null, w, _, _ => by cases w <;> simp [equal, unsigned]
  | .bool _, w, _, _ => by cases w <;> simp [equal, unsigned]
  | .string _, w, _, _ => by cases w <;> simp [equal, unsigned]
  | .number m, w, hv, hw => by
    cases w with
    | number n => simpa [equal, unsigned] using Double.equal_iff hv hw
    | _ => simp [equal, unsigned]
  | .array vs, w, hv, hw => by
    cases w with
    | array ws => simpa [equal, unsigned] using equalItems_iff vs ws hv hw
    | _ => simp [equal, unsigned]
  | .object ps, w, hv, hw => by
    cases w with
    | object qs => simpa [equal, unsigned] using equalProperties_iff ps qs hv hw
    | _ => simp [equal, unsigned]

theorem equalItems_iff : (vs ws : List StaticValue) → itemsHaveNaN vs = false →
    itemsHaveNaN ws = false → (equalItems vs ws = true ↔ unsignedItems vs = unsignedItems ws)
  | [], ws, _, _ => by cases ws <;> simp [equalItems, unsignedItems]
  | _ :: _, [], _, _ => by simp [equalItems, unsignedItems]
  | v :: vs, w :: ws, hv, hw => by
    rw [itemsHaveNaN, Bool.or_eq_false_iff] at hv hw
    simp [equalItems, unsignedItems, equal_iff v w hv.1 hw.1, equalItems_iff vs ws hv.2 hw.2]

theorem equalProperties_iff : (ps qs : List (String × StaticValue)) → propertiesHaveNaN ps = false →
    propertiesHaveNaN qs = false →
      (equalProperties ps qs = true ↔ unsignedProperties ps = unsignedProperties qs)
  | [], qs, _, _ => by cases qs <;> simp [equalProperties, unsignedProperties]
  | _ :: _, [], _, _ => by simp [equalProperties, unsignedProperties]
  | (k, v) :: ps, (l, w) :: qs, hv, hw => by
    rw [propertiesHaveNaN, Bool.or_eq_false_iff] at hv hw
    simp [equalProperties, unsignedProperties, equal_iff v w hv.1 hw.1,
      equalProperties_iff ps qs hv.2 hw.2, and_assoc]
end

end StaticValue

end MessageExtraction
