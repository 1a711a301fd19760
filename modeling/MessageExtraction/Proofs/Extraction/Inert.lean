import MessageExtraction.Proofs.Extraction.Rewriting

/-!
# Trees with nothing to look at

A tree with no call, no tag and no module in it is left by a walk as it is, and nothing is found in it. All
that a walk puts into a tree is so, but for the call that binds a function.

* `IsInert`, `walk_of_isInert`: such a tree, and what a walk does with it.
* `inert_missingArguments`, `inert_addedAttributes`, `inert_toTree`: what a walk puts into a tree.
-/

namespace MessageExtraction

open Syntax (Tree Span Identifier)

namespace Syntax.Tree

/-- Whether there is no call, no tag and no module in a tree. -/
def IsInert (t : Tree) : Prop :=
  ∀ u ∈ t.nodes, u.kind? ∉ [some .callExpression, some .jsxOpeningElement, some .sourceModule]

/-- Whether there is no call, no tag and no module in any of the trees. -/
def AreInert (ts : List Tree) : Prop :=
  ∀ u ∈ nodesOf ts, u.kind? ∉ [some .callExpression, some .jsxOpeningElement, some .sourceModule]

instance (t : Tree) : Decidable t.IsInert :=
  inferInstanceAs (Decidable (∀ u ∈ t.nodes,
    u.kind? ∉ [some .callExpression, some .jsxOpeningElement, some .sourceModule]))

@[simp]
theorem isInert_node {kind : Kind} {span : Option Span} {fields : List Tree} :
    (Syntax.Tree.node kind span fields).IsInert
      ↔ kind ∉ [.callExpression, .jsxOpeningElement, .sourceModule] ∧ AreInert fields := by
  simp [IsInert, AreInert, nodes, kind?]

@[simp]
theorem areInert_cons {t : Tree} {ts : List Tree} :
    AreInert (t :: ts) ↔ t.IsInert ∧ AreInert ts := by
  simp only [IsInert, AreInert, nodesOf, List.mem_append, or_imp, forall_and]

@[simp]
theorem areInert_nil : AreInert [] := by simp [AreInert, nodesOf]

@[simp]
theorem isInert_list {items : List Tree} : (list items).IsInert ↔ AreInert items := Iff.rfl

@[simp]
theorem isInert_absent : absent.IsInert := by simp [IsInert, nodes]

@[simp]
theorem isInert_flag (b : Bool) : (flag b).IsInert := by simp [IsInert, nodes]

@[simp]
theorem isInert_text (s : String) : (text s).IsInert := by simp [IsInert, nodes]

@[simp]
theorem isInert_number (n : Int) : (number n).IsInert := by simp [IsInert, nodes]

theorem areInert_iff {ts : List Tree} : AreInert ts ↔ ∀ t ∈ ts, IsInert t := by
  induction ts with
  | nil => simp
  | cons t ts ih => rw [areInert_cons, ih, List.forall_mem_cons]

theorem IsInert.isFlat {t : Tree} (inert : t.IsInert) : t.IsFlat := fun u mem eq =>
  inert u mem (by simp [eq])

theorem AreInert.areFlat {ts : List Tree} (inert : AreInert ts) : AreFlat ts := fun u mem eq =>
  inert u mem (by simp [eq])

theorem isThrough_of_isInert {kind : Kind} {span : Option Span} {fields : List Tree}
    (inert : (node kind span fields).IsInert) : IsThrough kind fields where
  call := by
    rintro _ _ _ rfl -
    exact (isInert_node.mp inert).1 (by simp)
  tag := by
    rintro _ _ _ _ rfl -
    exact (isInert_node.mp inert).1 (by simp)
  module := by
    rintro _ _ rfl -
    exact (isInert_node.mp inert).1 (by simp)

end Syntax.Tree

namespace Pass

variable {pass : Pass}

mutual
theorem walk_of_isInert (s : Session) : (t : Tree) → t.IsInert → pass.walk s t = (t, s)
  | .absent, _ | .flag _, _ | .text _, _ | .number _, _ => rfl
  | .list items, inert => by
    rw [walk, walkAll_of_areInert s items inert]
  | .node kind span fields, inert => by
    rw [walk_through (Syntax.Tree.isThrough_of_isInert inert),
      walkAll_of_areInert s fields (Syntax.Tree.isInert_node.mp inert).2]

theorem walkAll_of_areInert (s : Session) : (ts : List Tree) → Syntax.Tree.AreInert ts →
    pass.walkAll s ts = (ts, s)
  | [], _ => rfl
  | t :: ts, inert => by
    rw [Syntax.Tree.areInert_cons] at inert
    rw [walkAll, walk_of_isInert s t inert.1]
    dsimp only
    rw [walkAll_of_areInert s ts inert.2]
end

end Pass

/-! ## What a walk puts into a tree -/

/-- A call is given an object without properties, `null` and the props. -/
theorem HelperCall.eq_of_mem_missingArguments {call : HelperCall} {component : Option ComponentKind}
    {props : String} {t : Tree} (mem : t ∈ call.missingArguments component props) :
    ∃ e, t = .element none e ∧ (e = .objectExpression (some .made) [] ∨ e = .nullLiteral (some .made)
      ∨ e = .memberExpression (some .made) (.thisExpression (some .made))
          (.identifierName (some .made) "props")
      ∨ e = (Identifier.made props).toTree) := by
  obtain ⟨e, dropped, rfl⟩ := List.mem_map.mp mem
  refine ⟨e, rfl, ?_⟩
  have listed := List.mem_of_mem_drop dropped
  simp only [List.mem_cons, List.not_mem_nil, or_false] at listed
  rcases listed with rfl | rfl | rfl
  · exact .inl rfl
  · exact .inr (.inl rfl)
  · split
    · exact .inr (.inr (.inl rfl))
    · exact .inr (.inr (.inr rfl))
    · exact .inr (.inr (.inr rfl))

theorem HelperCall.inert_missingArguments (call : HelperCall) (component : Option ComponentKind)
    (props : String) : Tree.AreInert (call.missingArguments component props) := by
  refine Tree.areInert_iff.mpr fun t mem => ?_
  obtain ⟨e, rfl, given⟩ := eq_of_mem_missingArguments mem
  rcases given with rfl | rfl | rfl | rfl <;> simp [Identifier.toTree]

theorem Pass.inert_addedAttributes (pass : Pass) (name : Tree) (attributes : List Tree) :
    Tree.AreInert (pass.addedAttributes name attributes) := by
  rw [addedAttributes]
  split
  · rw [Markup.missingDefaultMessage]
    split <;> simp [StaticValue.stringNode]
  · exact Tree.areInert_nil

namespace StaticValue

theorem inert_keyNode (key : String) : (keyNode key).IsInert := by
  rw [keyNode]
  split <;> simp [stringNode]

mutual
theorem inert_toTree : (v : StaticValue) → v.toTree.IsInert
  | .undefined => by simp [toTree]
  | .null => by simp [toTree]
  | .bool _ => by simp [toTree]
  | .number _ => by simp [toTree]
  | .string _ => by simp [toTree, stringNode]
  | .array vs => by simp [toTree, inert_itemTrees vs]
  | .object ps => by simp [toTree, inert_propertyTrees ps]

theorem inert_itemTrees : (vs : List StaticValue) → Tree.AreInert (itemTrees vs)
  | [] => Tree.areInert_nil
  | v :: vs => by simp [itemTrees, inert_toTree v, inert_itemTrees vs]

theorem inert_propertyTrees : (ps : List (String × StaticValue)) → Tree.AreInert (propertyTrees ps)
  | [] => Tree.areInert_nil
  | (key, v) :: ps => by
    simp [propertyTrees, inert_keyNode, inert_toTree v, inert_propertyTrees ps]
end

end StaticValue

theorem HelperCall.inert_replacement? {call : HelperCall} {e : Tree} (h : call.replacement? = some e) :
    e.IsInert := by
  rw [replacement?] at h
  split at h
  · obtain rfl := Option.some.inj h
    exact StaticValue.inert_toTree _
  · contradiction

end MessageExtraction
