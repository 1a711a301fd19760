import MessageExtraction.Proofs.Scope.Enclosing

/-!
# A search with a stack of scopes

The shadowed offsets of a module can be found in one pass that keeps the scopes around it on a stack, and
that drops what does not matter: names that no import has, scopes that are left empty, and the whole search
where nothing is imported.

* `run_scopes`: what is pushed for a node is popped behind it.
* `mem_run`: the offsets found are those of the identifiers with the name of an import below a declaration
  of that name, whether or not anything is dropped.
* `Imports.mem_shadowed_iff`: so are the shadowed offsets of a module.
-/

namespace MessageExtraction

namespace Syntax

/-! ## The search -/

/-- Where a search stands: the scopes around it, the innermost first, and the offsets found. -/
structure Search where
  scopes : List (List String) := []
  found : List Nat := []

/-- What is looked for, and which of the things that do not matter to it the search drops. -/
structure SearchRule where
  /-- The names of the imports. -/
  imported : List String
  /-- Whether only names of imports are kept in a scope. -/
  dropsNames : Bool := true
  /-- Whether a scope that is left empty is not pushed. -/
  dropsScopes : Bool := true
  /-- Whether nothing is searched where nothing is imported. -/
  dropsAll : Bool := true

/-- The names of the function that a node is or holds. -/
def Tree.functionScope? (t : Tree) : Option (List String) :=
  t.functionParts?.map Tree.FunctionParts.names

/-- The first field of a node that is in the scope of the function that the node is or holds. -/
def Tree.functionStart (t : Tree) : Nat := (t.functionParts?.map (·.start)).getD 0

namespace SearchRule

/-- The names of a scope that are kept on the stack. -/
def kept (rule : SearchRule) (names : List String) : List String :=
  if rule.dropsNames then names.filter (· ∈ rule.imported) else names

/-- Whether a scope is pushed. -/
def pushes (rule : SearchRule) (names : List String) : Bool :=
  !rule.dropsScopes || !(rule.kept names).isEmpty

/-- Opens a scope. -/
def enter (rule : SearchRule) : Option (List String) → Search → Search
  | none, s => s
  | some names, s =>
      if rule.pushes names then { s with scopes := rule.kept names :: s.scopes } else s

/-- Closes a scope. -/
def leave (rule : SearchRule) : Option (List String) → Search → Search
  | none, s => s
  | some names, s => if rule.pushes names then { s with scopes := s.scopes.tail } else s

/-- Whether a name counts as declared further in. -/
def hits (rule : SearchRule) (s : Search) (name : String) : Bool :=
  (rule.dropsNames || rule.imported.contains name) && s.scopes.any fun scope => scope.contains name

/-- Notes a node if it is an identifier whose name is declared further in. -/
def note (rule : SearchRule) : Tree → Search → Search
  | t@(.identifier _ name _ _), s =>
      if rule.hits s name then { s with found := s.found ++ [t.offset] } else s
  | _, s => s

mutual
/-- Goes through a tree. -/
def run (rule : SearchRule) : Tree → Search → Search
  | .list items, s => runAll rule items s
  | .node kind span fields, s =>
      let t := Tree.node kind span fields
      rule.leave t.scope?
        (runFrom rule t.functionScope? t.functionStart fields
          (rule.enter t.scope? (rule.note t s)))
  | _, s => s

/-- Goes through several trees. -/
def runAll (rule : SearchRule) : List Tree → Search → Search
  | [], s => s
  | t :: ts, s => runAll rule ts (run rule t s)

/-- Goes through several trees, and opens a scope before number `n` of them. -/
def runFrom (rule : SearchRule) (scope : Option (List String)) : Nat → List Tree → Search → Search
  | _, [], s => s
  | 0, t :: ts, s => rule.leave scope (runAll rule ts (run rule t (rule.enter scope s)))
  | n + 1, t :: ts, s => runFrom rule scope n ts (run rule t s)
end

/-- The offsets found in a tree. -/
def search (rule : SearchRule) (t : Tree) : List Nat :=
  if rule.dropsAll && rule.imported.isEmpty then [] else (rule.run t {}).found

/-! ## The stack -/

variable {rule : SearchRule} {s s' : Search} {scope : Option (List String)} {name : String}

theorem note_scopes (t : Tree) : (rule.note t s).scopes = s.scopes := by
  rw [note.eq_def]
  split
  · split <;> rfl
  · rfl

theorem leave_scopes (h : s'.scopes = (rule.enter scope s).scopes) :
    (rule.leave scope s').scopes = s.scopes := by
  cases scope with
  | none => exact h
  | some names =>
    rw [enter] at h
    rw [leave]
    split
    · rename_i pushed
      rw [if_pos pushed] at h
      simp [h]
    · rename_i skipped
      rwa [if_neg skipped] at h

theorem enter_scopes (h : s'.scopes = s.scopes) :
    (rule.enter scope s').scopes = (rule.enter scope s).scopes := by
  cases scope with
  | none => exact h
  | some names =>
    rw [enter, enter]
    split
    · exact congrArg (rule.kept names :: ·) h
    · exact h

theorem leave_found : (rule.leave scope s).found = s.found := by
  cases scope with
  | none => rfl
  | some names => rw [leave]; split <;> rfl

theorem enter_found : (rule.enter scope s).found = s.found := by
  cases scope with
  | none => rfl
  | some names => rw [enter]; split <;> rfl

mutual
/-- What is pushed for a tree is popped behind it. -/
theorem run_scopes : (t : Tree) → (s : Search) → (rule.run t s).scopes = s.scopes
  | .list items, s => runAll_scopes items s
  | .node kind span fields, s => by
    rw [run]
    exact (leave_scopes (runFrom_scopes fields _ _ _)).trans (note_scopes _)
  | .absent, _ => rfl
  | .flag _, _ => rfl
  | .text _, _ => rfl
  | .number _, _ => rfl

theorem runAll_scopes : (ts : List Tree) → (s : Search) → (rule.runAll ts s).scopes = s.scopes
  | [], _ => rfl
  | t :: ts, s => (runAll_scopes ts _).trans (run_scopes t s)

theorem runFrom_scopes : (ts : List Tree) → (scope : Option (List String)) → (n : Nat) →
    (s : Search) → (rule.runFrom scope n ts s).scopes = s.scopes
  | [], _, _, _ => by rw [runFrom]
  | t :: ts, scope, 0, s => leave_scopes ((runAll_scopes ts _).trans (run_scopes t _))
  | t :: ts, scope, n + 1, s => (runFrom_scopes ts scope n _).trans (run_scopes t s)
end

/-! ## What is found -/

/-- The scopes on the stack tell of each name whether it is one of an import and `declared`. -/
def Sees (rule : SearchRule) (s : Search) (declared : String → Prop) : Prop :=
  ∀ name, rule.hits s name = true ↔ name ∈ rule.imported ∧ declared name

theorem hits_iff :
    rule.hits s name = true
      ↔ (rule.dropsNames = true ∨ name ∈ rule.imported) ∧ ∃ names ∈ s.scopes, name ∈ names := by
  simp [hits]

theorem hits_enter :
    rule.hits (rule.enter scope s) name = true
      ↔ name ∈ rule.imported ∧ (∃ names, scope = some names ∧ name ∈ names)
        ∨ rule.hits s name = true := by
  cases scope with
  | none => simp [enter]
  | some names =>
    have same : name ∈ rule.kept names ∧ (rule.dropsNames = true ∨ name ∈ rule.imported)
        ↔ name ∈ rule.imported ∧ name ∈ names := by
      rw [kept]
      cases rule.dropsNames <;> simp [and_comm]
    rw [enter]
    split
    · rw [hits_iff, hits_iff]
      simp only [List.mem_cons, exists_eq_or_imp, Option.some.injEq, exists_eq_left', ← same]
      tauto
    · rename_i skipped
      -- a scope is skipped only where it holds the name of no import
      have none : ¬(name ∈ rule.imported ∧ name ∈ names) := by
        rw [← same]
        simp only [pushes, Bool.or_eq_true, Bool.not_eq_true', not_or, Bool.not_eq_false,
          List.isEmpty_iff] at skipped
        simp [skipped.2]
      simp [none]

theorem Sees.of_scopes {declared : String → Prop} (h : rule.Sees s declared)
    (same : s'.scopes = s.scopes) : rule.Sees s' declared := by
  intro name
  rw [← h name, hits, hits, same]

theorem Sees.enter {declared : String → Prop} (h : rule.Sees s declared) :
    rule.Sees (rule.enter scope s)
      fun name => (∃ names, scope = some names ∧ name ∈ names) ∨ declared name := by
  intro name
  rw [hits_enter, h name, and_or_left]

theorem Sees.congr {declared declared' : String → Prop} (h : rule.Sees s declared)
    (same : ∀ name, declared name ↔ declared' name) : rule.Sees s declared' := fun name => by
  rw [h name, same]

/-- Whether an identifier is to be found at an offset. -/
def IsAt (rule : SearchRule) (o : Nat) (i : Sighting) : Prop :=
  i.offset = o ∧ i.name ∈ rule.imported ∧ DeclaredIn i.chain i.name

variable {o : Nat} {chain : List Frame}

theorem mem_note (sees : rule.Sees s (DeclaredIn chain)) (t : Tree) :
    o ∈ (rule.note t s).found
      ↔ o ∈ s.found ∨ ∃ i ∈ t.sightingHere chain, rule.IsAt o i := by
  rw [note.eq_def]
  split
  · rename_i span name isOptional declaredType
    rw [Tree.sightingHere]
    have := sees name
    split
    · rename_i hit
      have := this.mp hit
      simp [IsAt, this, eq_comm]
    · rename_i missed
      have : ¬(name ∈ rule.imported ∧ DeclaredIn chain name) := fun h => missed (this.mpr h)
      simp only [List.mem_singleton, exists_eq_left, IsAt]
      tauto
  · rename_i other
    rw [Tree.sightingHere.eq_2 chain t other]
    simp

theorem declared_before {t : Tree} {j : Nat} (chain : List Frame) (before : j < t.functionStart)
    (name : String) :
    (∃ names, t.scope? = some names ∧ name ∈ names) ∨ DeclaredIn chain name
      ↔ DeclaredIn (⟨t, j⟩ :: chain) name := by
  have outside : ¬∃ f, t.functionParts? = some f ∧ f.start ≤ j ∧ name ∈ f.names := by
    rintro ⟨f, holds, le, -⟩
    rw [Tree.functionStart, holds] at before
    exact Nat.not_lt.mpr le before
  rw [declaredIn_cons, Frame.declared, Tree.mem_declaredNames_iff]
  simp only [outside, or_false]

theorem declared_behind {t : Tree} {j : Nat} (chain : List Frame) (behind : t.functionStart ≤ j)
    (name : String) :
    (∃ names, t.functionScope? = some names ∧ name ∈ names)
        ∨ (∃ names, t.scope? = some names ∧ name ∈ names) ∨ DeclaredIn chain name
      ↔ DeclaredIn (⟨t, j⟩ :: chain) name := by
  have inside : (∃ names, t.functionScope? = some names ∧ name ∈ names)
      ↔ ∃ f, t.functionParts? = some f ∧ f.start ≤ j ∧ name ∈ f.names := by
    rw [Tree.functionStart] at behind
    rw [Tree.functionScope?]
    cases holds : t.functionParts? with
    | none => simp
    | some f =>
      rw [holds] at behind
      have le : f.start ≤ j := behind
      simp [le]
  rw [declaredIn_cons, Frame.declared, Tree.mem_declaredNames_iff, inside, ← or_assoc]
  exact or_congr_left or_comm

mutual
/-- The offsets found in a tree are those of the identifiers with the name of an import that stand below a
declaration of it. -/
theorem mem_run : (t : Tree) → {s : Search} → {chain : List Frame} →
    rule.Sees s (DeclaredIn chain) →
      (o ∈ (rule.run t s).found ↔ o ∈ s.found ∨ ∃ i ∈ t.sightings chain, rule.IsAt o i)
  | .list items, s, chain, sees => by
    rw [run, Tree.sightings]
    refine mem_runAll items fun j _ => sees.congr fun name => ?_
    simp [declaredIn_cons, Frame.declared, Tree.declaredNames]
  | .node kind span fields, s, chain, sees => by
    have same : (rule.note (.node kind span fields) s).scopes = s.scopes := note_scopes _
    have opened := @Sees.enter rule _ (Tree.node kind span fields).scope? _ (sees.of_scopes same)
    have below := mem_runFrom fields
      (fun j (_ : 0 ≤ j) (before : j < 0 + Tree.functionStart _) =>
        opened.congr (declared_before chain (by rwa [Nat.zero_add] at before)))
      (fun j (behind : 0 + Tree.functionStart _ ≤ j) =>
        opened.enter.congr (declared_behind chain (by rwa [Nat.zero_add] at behind)))
    rw [run, Tree.sightings, leave_found, below, enter_found, mem_note sees]
    simp only [List.mem_append, or_and_right, exists_or, or_assoc]
  | .absent, _, _, _ => by simp [run, Tree.sightings]
  | .flag _, _, _, _ => by simp [run, Tree.sightings]
  | .text _, _, _, _ => by simp [run, Tree.sightings]
  | .number _, _, _, _ => by simp [run, Tree.sightings]

theorem mem_runAll : (ts : List Tree) → {s : Search} → {chain : List Frame} → {parent : Tree} →
    {i : Nat} → (∀ j, i ≤ j → rule.Sees s (DeclaredIn (⟨parent, j⟩ :: chain))) →
      (o ∈ (rule.runAll ts s).found
        ↔ o ∈ s.found ∨ ∃ σ ∈ Tree.sightingsOf chain parent i ts, rule.IsAt o σ)
  | [], _, _, _, _, _ => by simp [runAll, Tree.sightingsOf]
  | t :: ts, s, chain, parent, i, sees => by
    have same : (rule.run t s).scopes = s.scopes := run_scopes t s
    have first := mem_run t (sees i (Nat.le_refl i))
    have rest := mem_runAll ts fun j (le : i + 1 ≤ j) =>
      (sees j (Nat.le_of_succ_le le)).of_scopes same
    rw [runAll, Tree.sightingsOf, rest, first]
    simp only [List.mem_append, or_and_right, exists_or, or_assoc]

theorem mem_runFrom : (ts : List Tree) → {n : Nat} → {s : Search} → {chain : List Frame} →
    {parent : Tree} → {i : Nat} → {scope : Option (List String)} →
    (∀ j, i ≤ j → j < i + n → rule.Sees s (DeclaredIn (⟨parent, j⟩ :: chain))) →
    (∀ j, i + n ≤ j → rule.Sees (rule.enter scope s) (DeclaredIn (⟨parent, j⟩ :: chain))) →
      (o ∈ (rule.runFrom scope n ts s).found
        ↔ o ∈ s.found ∨ ∃ σ ∈ Tree.sightingsOf chain parent i ts, rule.IsAt o σ)
  | [], _, _, _, _, _, _, _, _ => by simp [runFrom, Tree.sightingsOf]
  | t :: ts, 0, s, chain, parent, i, scope, _, inside => by
    have same : (rule.run t (rule.enter scope s)).scopes = (rule.enter scope s).scopes :=
      run_scopes t _
    have first := mem_run t (inside i (Nat.le_refl i))
    have rest := mem_runAll ts fun j (le : i + 1 ≤ j) =>
      (inside j (Nat.le_of_succ_le le)).of_scopes same
    rw [runFrom, leave_found, Tree.sightingsOf, rest, first, enter_found]
    simp only [List.mem_append, or_and_right, exists_or, or_assoc]
  | t :: ts, n + 1, s, chain, parent, i, scope, outside, inside => by
    have same : (rule.run t s).scopes = s.scopes := run_scopes t s
    have first := mem_run t (outside i (Nat.le_refl i) (by omega))
    have rest := mem_runFrom ts
      (fun j (le : i + 1 ≤ j) (lt : j < i + 1 + n) =>
        (outside j (Nat.le_of_succ_le le) (by omega)).of_scopes same)
      (fun j (le : i + 1 + n ≤ j) => (inside j (by omega)).of_scopes (enter_scopes same))
    rw [runFrom, Tree.sightingsOf, rest, first]
    simp only [List.mem_append, or_and_right, exists_or, or_assoc]
end

theorem sees_nil : rule.Sees {} (DeclaredIn []) := fun name => by
  simp [hits, DeclaredIn]

/-- Whatever a search drops, it finds the identifiers with the name of an import that stand below a
declaration of it. -/
theorem mem_search (t : Tree) : o ∈ rule.search t ↔ ∃ i ∈ t.sightings [], rule.IsAt o i := by
  rw [search]
  split
  · rename_i idle
    have empty : rule.imported = [] := by simp_all
    simp [IsAt, empty]
  · have found : o ∈ (rule.run t {}).found ↔ o ∈ ([] : List Nat) ∨ _ := mem_run t sees_nil
    simpa using found

end SearchRule

end Syntax

open Syntax

namespace Imports

variable {o : Nat}

/-- The names of the imports of a module. -/
def names (imports : Imports) : List String := imports.bindings.map fun i => i.binding.name

theorem mem_ofModule_shadowed (t : Tree) :
    o ∈ (ofModule t).shadowed
      ↔ ∃ s ∈ t.sightings [], SearchRule.IsAt { imported := (ofModule t).names } o s := by
  by_cases shape : ∃ span items interpreter, t = .sourceModule span items interpreter
  · obtain ⟨span, items, interpreter, rfl⟩ := shape
    rw [ofModule_shadowed, Tree.mem_shadowedOffsets _ (carries_nil _)]
    rfl
  · have other : ofModule t = {} := by
      rw [ofModule.eq_def]
      split
      · rename_i span items interpreter
        exact absurd ⟨span, items, interpreter, rfl⟩ shape
      · rfl
    simp [other, SearchRule.IsAt, names]

/-- The shadowed offsets of a module are those of the identifiers with the name of an import that stand
below a node that declares it. A search with a stack finds the same, whichever it drops of the other names,
the scopes left empty and, where nothing is imported, the whole search. -/
theorem mem_shadowed_iff (t : Tree) (o : Nat) :
    (o ∈ (ofModule t).shadowed
      ↔ ∃ s ∈ t.sightings [], s.offset = o ∧ s.name ∈ (ofModule t).names
          ∧ ∃ frame ∈ s.chain, Tree.Declares frame.index frame.parent s.name)
    ∧ ∀ dropsNames dropsScopes dropsAll,
        o ∈ (SearchRule.mk (ofModule t).names dropsNames dropsScopes dropsAll).search t
          ↔ o ∈ (ofModule t).shadowed := by
  constructor
  · rw [mem_ofModule_shadowed]
    simp only [SearchRule.IsAt, DeclaredIn, Frame.declared, Tree.declares_iff]
  · intro dropsNames dropsScopes dropsAll
    rw [mem_ofModule_shadowed, SearchRule.mem_search]
    rfl

end Imports

end MessageExtraction
