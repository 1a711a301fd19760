import MessageExtraction.Syntax.Kind

/-!
# Syntax trees

A node has a kind, a place in the source and its fields in visiting order; the kind says what each field
means. Fields hold nodes, lists, texts, numbers and flags, or nothing.
-/

namespace MessageExtraction.Syntax

/-- A piece of the source in byte offsets from 1. Both offsets are zero for what is not in the source. -/
structure Span where
  lo : Nat
  hi : Nat
deriving DecidableEq, Repr, Inhabited

/-- The span of nodes that are not in the source. -/
def Span.made : Span := ⟨0, 0⟩

/-- Whether a span belongs to no piece of the source. -/
def Span.isMade (s : Span) : Bool := s == .made

/-- A syntax tree. -/
inductive Tree where
  | absent
  | flag (b : Bool)
  | text (s : String)
  | number (n : Int)
  | list (items : List Tree)
  | node (kind : Kind) (span : Option Span) (fields : List Tree)
deriving Repr, BEq, Inhabited

namespace Tree

mutual
/-- Whether two trees are the same. -/
def same : Tree → Tree → Bool
  | .absent, .absent => true
  | .flag a, .flag b => a == b
  | .text s, .text t => s == t
  | .number m, .number n => m == n
  | .list ts, .list us => sameAll ts us
  | .node k s ts, .node l t us => k == l && s == t && sameAll ts us
  | _, _ => false

/-- Whether two lists of trees are the same. -/
def sameAll : List Tree → List Tree → Bool
  | [], [] => true
  | t :: ts, u :: us => t.same u && sameAll ts us
  | _, _ => false
end

mutual
theorem same_iff : (t u : Tree) → (t.same u = true ↔ t = u)
  | .absent, u => by cases u <;> simp [same]
  | .flag _, u => by cases u <;> simp [same]
  | .text _, u => by cases u <;> simp [same]
  | .number _, u => by cases u <;> simp [same]
  | .list ts, u => by
      cases u <;> simp [same]
      next us => exact sameAll_iff ts us
  | .node _ _ ts, u => by
      cases u <;> simp [same, and_assoc]
      next us => simp [sameAll_iff ts us]

theorem sameAll_iff : (ts us : List Tree) → (sameAll ts us = true ↔ ts = us)
  | [], us => by cases us <;> simp [sameAll]
  | _ :: _, [] => by simp [sameAll]
  | t :: ts, u :: us => by simp [sameAll, same_iff t u, sameAll_iff ts us]
end

instance : DecidableEq Tree := fun t u => decidable_of_iff _ (same_iff t u)

/-- The span of a node. -/
def span? : Tree → Option Span
  | .node _ span _ => span
  | _ => none

/-- The kind of a node. -/
def kind? : Tree → Option Kind
  | .node kind _ _ => some kind
  | _ => none

/-- The items of a list. -/
def items : Tree → List Tree
  | .list items => items
  | _ => []

/-- Whether there is nothing. -/
def isAbsent : Tree → Bool
  | .absent => true
  | _ => false

mutual
/-- A tree's nodes in visiting order, a node before those below it. -/
def nodes : Tree → List Tree
  | .node kind span fields => .node kind span fields :: nodesOf fields
  | .list items => nodesOf items
  | _ => []

/-- The nodes of several trees, one tree after the other. -/
def nodesOf : List Tree → List Tree
  | [] => []
  | t :: ts => t.nodes ++ nodesOf ts
end

end Tree

end MessageExtraction.Syntax
