import MessageExtraction.Import.Basic
import Mathlib.Data.List.Nodup

/-!
# Sightings of identifiers

The shadowed offsets of a module are a list of numbers. Here each identifier comes with the way down to it:
the fields of the nodes above it, from the innermost out.

* `mem_shadowedOffsets`: an offset is shadowed when an identifier at it has one of the names in question
  and stands below a declaration of its name.
* `binding?_isSome_iff`: in a module whose identifiers have places of their own, an identifier with the
  name of an import refers to that import exactly when no field above it has its name declared.
-/

namespace MessageExtraction

namespace Syntax

/-- A field of a node: the node and the number of the field. The items of a list are fields of no node. -/
structure Frame where
  parent : Tree
  index : Nat

/-- The names that are declared for a field. -/
def Frame.declared (frame : Frame) : List String := frame.parent.declaredNames frame.index

/-- An identifier of a tree: its name, its offset and the fields above it, the innermost first. -/
structure Sighting where
  name : String
  offset : Nat
  chain : List Frame

namespace Tree

/-- The sighting of a node that is an identifier. -/
def sightingHere (chain : List Frame) : Tree → List Sighting
  | t@(.identifier _ name _ _) => [⟨name, t.offset, chain⟩]
  | _ => []

mutual
/-- The identifiers of a tree that stands below `chain`, in visiting order. -/
def sightings (chain : List Frame) : Tree → List Sighting
  | .list items => sightingsOf chain .absent 0 items
  | .node kind span fields =>
      sightingHere chain (.node kind span fields)
        ++ sightingsOf chain (.node kind span fields) 0 fields
  | _ => []

/-- The identifiers below the fields of a node from number `i` on. -/
def sightingsOf (chain : List Frame) (parent : Tree) (i : Nat) : List Tree → List Sighting
  | [] => []
  | field :: fields =>
      field.sightings (⟨parent, i⟩ :: chain) ++ sightingsOf chain parent (i + 1) fields
end

end Tree

/-- Whether a name is declared for one of the fields. -/
def DeclaredIn (chain : List Frame) (name : String) : Prop :=
  ∃ frame ∈ chain, name ∈ frame.declared

theorem declaredIn_cons (frame : Frame) (chain : List Frame) (name : String) :
    DeclaredIn (frame :: chain) name ↔ name ∈ frame.declared ∨ DeclaredIn chain name := by
  simp [DeclaredIn]

/-- The names `inner` are those of `outer` that are declared on the way down. -/
def Carries (outer inner : List String) (chain : List Frame) : Prop :=
  ∀ name, name ∈ inner ↔ name ∈ outer ∧ DeclaredIn chain name

theorem Carries.cons {outer inner : List String} {chain : List Frame}
    (h : Carries outer inner chain) (frame : Frame) :
    Carries outer (frame.declared.filter (· ∈ outer) ++ inner) (frame :: chain) := by
  intro name
  rw [declaredIn_cons, List.mem_append, List.mem_filter, decide_eq_true_eq, h name]
  constructor
  · rintro (⟨declared, mem⟩ | ⟨mem, declared⟩)
    · exact ⟨mem, .inl declared⟩
    · exact ⟨mem, .inr declared⟩
  · rintro ⟨mem, declared | declared⟩
    · exact .inl ⟨declared, mem⟩
    · exact .inr ⟨mem, declared⟩

namespace Tree

variable {outer inner : List String} {chain : List Frame} {o : Nat}

theorem mem_offsetIfNamed (h : Carries outer inner chain) (t : Tree) :
    o ∈ t.offsetIfNamed inner
      ↔ ∃ s ∈ t.sightingHere chain, s.offset = o ∧ s.name ∈ outer ∧ DeclaredIn s.chain s.name := by
  rw [offsetIfNamed.eq_def]
  split
  · rename_i span name isOptional declaredType
    rw [sightingHere]
    have := h name
    by_cases mem : name ∈ inner
    · simp [mem, this.mp mem, eq_comm]
    · simp only [mem, if_false, List.not_mem_nil, false_iff]
      rintro ⟨s, hs, -, named⟩
      obtain rfl := List.mem_singleton.mp hs
      exact mem (this.mpr named)
  · rename_i other
    rw [sightingHere.eq_2 chain t other]
    simp

mutual
/-- The shadowed offsets are those of the identifiers with one of the names that stand below a declaration
of theirs. -/
theorem mem_shadowedOffsets : (t : Tree) → {inner : List String} → {chain : List Frame} →
    Carries outer inner chain →
      (o ∈ t.shadowedOffsets outer inner
        ↔ ∃ s ∈ t.sightings chain, s.offset = o ∧ s.name ∈ outer ∧ DeclaredIn s.chain s.name)
  | .list items, inner, chain, h => by
    rw [shadowedOffsets, sightings]
    exact mem_shadowedOffsetsOf items h
  | .node kind span fields, inner, chain, h => by
    rw [shadowedOffsets, sightings, List.mem_append, mem_offsetIfNamed h,
      mem_shadowedOffsetsOf fields h]
    simp only [List.mem_append, or_and_right, exists_or]
  | .absent, _, _, _ => by simp [shadowedOffsets, sightings]
  | .flag _, _, _, _ => by simp [shadowedOffsets, sightings]
  | .text _, _, _, _ => by simp [shadowedOffsets, sightings]
  | .number _, _, _, _ => by simp [shadowedOffsets, sightings]

theorem mem_shadowedOffsetsOf : (ts : List Tree) → {inner : List String} → {chain : List Frame} →
    {parent : Tree} → {i : Nat} → Carries outer inner chain →
      (o ∈ shadowedOffsetsOf outer inner parent i ts
        ↔ ∃ s ∈ sightingsOf chain parent i ts,
          s.offset = o ∧ s.name ∈ outer ∧ DeclaredIn s.chain s.name)
  | [], _, _, _, _, _ => by simp [shadowedOffsetsOf, sightingsOf]
  | t :: ts, inner, chain, parent, i, h => by
    have first := mem_shadowedOffsets t (h.cons ⟨parent, i⟩)
    rw [Frame.declared] at first
    rw [shadowedOffsetsOf, sightingsOf, List.mem_append, first, mem_shadowedOffsetsOf ts h]
    simp only [List.mem_append, or_and_right, exists_or]
end

end Tree

theorem carries_nil (outer : List String) : Carries outer [] [] := by
  intro name
  simp [DeclaredIn]

/-- Each identifier of a tree has a place of its own in the source. -/
structure IsPlaced (t : Tree) : Prop where
  positive : ∀ s ∈ t.sightings [], 0 < s.offset
  distinct : ((t.sightings []).map Sighting.offset).Nodup

theorem IsPlaced.eq_of_offset {t : Tree} (placed : IsPlaced t) {s s' : Sighting}
    (hs : s ∈ t.sightings []) (hs' : s' ∈ t.sightings []) (eq : s.offset = s'.offset) : s = s' :=
  List.inj_on_of_nodup_map placed.distinct hs hs' eq

end Syntax

open Syntax

/-! ## What an identifier refers to -/

namespace Imports

theorem ofModule_shadowed (span : Option Span) (items : List Tree) (interpreter : Tree) :
    (ofModule (.sourceModule span items interpreter)).shadowed
      = (Tree.sourceModule span items interpreter).shadowedOffsets
          ((ofModule (.sourceModule span items interpreter)).bindings.map fun i => i.binding.name)
          [] := rfl

/-- Whether an identifier with the name of an import refers to an import. -/
theorem binding?_isSome_iff {span : Option Span} {items : List Tree} {interpreter : Tree}
    (placed : IsPlaced (.sourceModule span items interpreter)) {s : Sighting}
    (sighted : s ∈ (Tree.sourceModule span items interpreter).sightings [])
    (named : s.name ∈ (ofModule (.sourceModule span items interpreter)).bindings.map
      fun i => i.binding.name) :
    ((ofModule (.sourceModule span items interpreter)).binding? s.name s.offset).isSome
      ↔ ¬ DeclaredIn s.chain s.name := by
  have shadowed : s.offset ∈ (ofModule (.sourceModule span items interpreter)).shadowed
      ↔ DeclaredIn s.chain s.name := by
    rw [ofModule_shadowed, Tree.mem_shadowedOffsets _ (carries_nil _)]
    constructor
    · rintro ⟨s', hs', eq, -, declared⟩
      rwa [← placed.eq_of_offset hs' sighted eq]
    · intro declared
      exact ⟨s, sighted, rfl, named, declared⟩
  have found : ((ofModule (.sourceModule span items interpreter)).bindings.reverse.find?
      fun i => i.binding.name = s.name).isSome := by
    obtain ⟨i, mem, name⟩ := List.mem_map.mp named
    rw [List.find?_isSome]
    exact ⟨i, List.mem_reverse.mpr mem, by simpa using name⟩
  by_cases declared : DeclaredIn s.chain s.name
  · simp [binding?, shadowed, declared]
  · simp only [binding?, shadowed, declared, if_false, found, not_false_eq_true]

end Imports

end MessageExtraction
