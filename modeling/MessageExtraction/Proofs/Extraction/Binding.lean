import MessageExtraction.Proofs.Extraction.Distinct
import MessageExtraction.Proofs.Scope.Denotation

/-!
# Renaming by binding

The components of a module are renamed by their spelling. Here they are renamed by what identifiers denote.

* `mentions`: the identifiers of a tree that the renaming looks at, all but those of export lists.
* `renameBound`: a tree in which the identifiers with one of the names that refer to the components have
  their internal names, and nothing else is changed. A property that a pattern or an object literal gives
  by its name only keeps it as its key.
* `rename_eq_renameBound_iff`: renaming by spelling comes to the same exactly when all identifiers of the
  names refer to components, and none is the key of a property in a pattern.
* `wrapAll_eq_renameByReference_iff`: so it is for a whole module, in which no reference is missed.
* `wrapAll_importingModule`: it is not for a module that imports another thing of the same name.
-/

namespace MessageExtraction

open Syntax (Tree Identifier Span Frame Sighting)

namespace Syntax

namespace Tree

mutual
/-- The identifiers of a tree that stands below `chain`, but for those of export lists. -/
def mentions (chain : List Frame) : Tree → List Sighting
  | .identifier span name isOptional declaredType =>
      ⟨name, (Tree.identifier span name isOptional declaredType).offset, chain⟩
        :: declaredType.mentions (⟨.identifier span name isOptional declaredType, 2⟩ :: chain)
  | .objectExpression span properties =>
      propertyMentions (⟨.objectExpression span properties, 0⟩ :: chain) 0 properties
  | .node kind span fields =>
      if kind = .exportSpecifier then []
      else mentionsOf chain (.node kind span fields) 0 fields
  | .list items => mentionsOf chain .absent 0 items
  | _ => []

/-- The identifiers below the fields of a node from number `i` on. -/
def mentionsOf (chain : List Frame) (parent : Tree) (i : Nat) : List Tree → List Sighting
  | [] => []
  | t :: ts => t.mentions (⟨parent, i⟩ :: chain) ++ mentionsOf chain parent (i + 1) ts

/-- The identifiers in the properties of an object literal from number `i` on. -/
def propertyMentions (chain : List Frame) (i : Nat) : List Tree → List Sighting
  | [] => []
  | .identifier span name isOptional declaredType :: ts =>
      ⟨name, (Tree.identifier span name isOptional declaredType).offset, ⟨.absent, i⟩ :: chain⟩
        :: propertyMentions chain (i + 1) ts
  | t :: ts => t.mentions (⟨.absent, i⟩ :: chain) ++ propertyMentions chain (i + 1) ts
end

end Tree

/-- Whether a field is the key of a property that a pattern binds to its own name. -/
def Frame.isPatternKey (frame : Frame) : Bool :=
  match frame.parent with
  | .assignmentPatternProperty _ _ _ => frame.index == 0
  | _ => false

/-- Whether an identifier is the key of a property that a pattern binds to its own name. -/
def Sighting.IsPatternKey (s : Sighting) : Prop := ∃ frame ∈ s.chain.head?, frame.isPatternKey

instance (s : Sighting) : Decidable s.IsPatternKey :=
  inferInstanceAs (Decidable (∃ frame ∈ s.chain.head?, frame.isPatternKey))

end Syntax

namespace Component

section

variable (names : List String) (refers : Sighting → Prop) [DecidablePred refers]

/-- The name of an identifier after the components went internal that it may refer to. -/
def boundName (s : Sighting) : String :=
  if s.name ∈ names ∧ refers s then internalName s.name else s.name

/-- A pattern with a default, if there is one. -/
def withDefault (span : Option Span) (pattern : Tree) : Tree → Tree
  | .absent => pattern
  | value => .assignmentPattern span pattern value

mutual
/-- A tree below `chain` in which the identifiers that refer to the components of the given names have
internal names. -/
def renameBound (chain : List Frame) : Tree → Tree
  | .identifier span name isOptional declaredType =>
      let t := Tree.identifier span name isOptional declaredType
      .identifier span (boundName names refers ⟨name, t.offset, chain⟩) isOptional
        (renameBound (⟨t, 2⟩ :: chain) declaredType)
  | .objectExpression span properties =>
      .objectExpression span
        (renameBoundProperties (⟨.objectExpression span properties, 0⟩ :: chain) 0 properties)
  | .assignmentPatternProperty span (.identifier place name isOptional declaredType) value =>
      let key := Tree.identifier place name isOptional declaredType
      let t := Tree.assignmentPatternProperty span key value
      let s : Sighting := ⟨name, key.offset, ⟨t, 0⟩ :: chain⟩
      let pattern := Tree.identifier place (boundName names refers s) isOptional
        (renameBound (⟨key, 2⟩ :: s.chain) declaredType)
      let value := renameBound (⟨t, 1⟩ :: chain) value
      if name ∈ names ∧ refers s then
        .keyValuePatternProperty (.identifierName place name) (withDefault span pattern value)
      else .assignmentPatternProperty span pattern value
  | .node kind span fields =>
      if kind = .exportSpecifier then .node kind span fields
      else .node kind span (renameBoundAll chain (.node kind span fields) 0 fields)
  | .list items => .list (renameBoundAll chain .absent 0 items)
  | t => t
termination_by structural t => t

/-- The fields of a node from number `i` on, renamed. -/
def renameBoundAll (chain : List Frame) (parent : Tree) (i : Nat) : List Tree → List Tree
  | [] => []
  | t :: ts =>
      renameBound (⟨parent, i⟩ :: chain) t :: renameBoundAll chain parent (i + 1) ts

/-- The properties of an object literal from number `i` on, renamed. -/
def renameBoundProperties (chain : List Frame) (i : Nat) : List Tree → List Tree
  | [] => []
  | .identifier span name isOptional declaredType :: ts =>
      let t := Tree.identifier span name isOptional declaredType
      (if refers ⟨name, t.offset, ⟨.absent, i⟩ :: chain⟩ then
          renamedShorthand names span name isOptional declaredType
        else t) :: renameBoundProperties chain (i + 1) ts
  | t :: ts =>
      renameBound (⟨.absent, i⟩ :: chain) t :: renameBoundProperties chain (i + 1) ts
end

end

/-! ## By spelling and by reference -/

section

variable {names : List String} {refers : Sighting → Prop}

/-- Whether each of the identifiers with one of the names refers to a component, and can be renamed where
it stands. -/
def AllRefer (names : List String) (refers : Sighting → Prop) (mentions : List Sighting) : Prop :=
  ∀ s ∈ mentions, s.name ∈ names → refers s ∧ ¬ s.IsPatternKey

@[simp] theorem allRefer_nil : AllRefer names refers [] := by
  simp [AllRefer]

@[simp] theorem allRefer_cons {s : Sighting} {mentions : List Sighting} :
    AllRefer names refers (s :: mentions)
      ↔ (s.name ∈ names → refers s ∧ ¬ s.IsPatternKey) ∧ AllRefer names refers mentions :=
  List.forall_mem_cons

@[simp] theorem allRefer_append {mentions mentions' : List Sighting} :
    AllRefer names refers (mentions ++ mentions')
      ↔ AllRefer names refers mentions ∧ AllRefer names refers mentions' :=
  List.forall_mem_append

theorem internalName_ne (name : String) : internalName name ≠ name := by
  intro eq
  have := congrArg String.length eq
  simp [internalName, String.length_append] at this

variable [DecidablePred refers]

theorem renamed_eq_boundName_iff (s : Sighting) :
    renamed names s.name = boundName names refers s ↔ (s.name ∈ names → refers s) := by
  rw [renamed, boundName]
  by_cases mem : s.name ∈ names
  · by_cases refer : refers s
    · simp [mem, refer]
    · simp [mem, refer, internalName_ne]
  · simp [mem]

/-- A tree is no identifier, or one that does not stand as the key of a property in a pattern. -/
def StandsFree (chain : List Frame) (t : Tree) : Prop :=
  t.identifier? = none ∨ ∀ frame ∈ chain.head?, frame.isPatternKey = false

theorem isPatternKey_succ (parent : Tree) (i : Nat) :
    (Frame.mk parent (i + 1)).isPatternKey = false := by
  rw [Frame.isPatternKey]
  split <;> rfl

/-- Where an identifier is no key of a property in a pattern, it is right to rename it exactly when that is
renaming by reference. -/
theorem allRefer_cons_of_free {s : Sighting} {mentions : List Sighting}
    (free : ∀ frame ∈ s.chain.head?, frame.isPatternKey = false) :
    AllRefer names refers (s :: mentions)
      ↔ renamed names s.name = boundName names refers s ∧ AllRefer names refers mentions := by
  have noKey : ¬ s.IsPatternKey := by
    rintro ⟨frame, mem, key⟩
    rw [free frame mem] at key
    contradiction
  rw [allRefer_cons, renamed_eq_boundName_iff]
  simp [noKey]

/-- The first field of a node is no key of a property in a pattern if the node has another shape than such a
property, or if it is no identifier. -/
theorem standsFree_of_shape {kind : Syntax.Kind} {span : Option Span} {fields : List Tree}
    {chain : List Frame}
    (shape : ∀ place name isOptional declaredType value, kind = .assignmentPatternProperty →
      fields = [.identifier place name isOptional declaredType, value] → False) :
    ∀ t ∈ fields.head?, StandsFree (⟨.node kind span fields, 0⟩ :: chain) t := by
  intro t ht
  by_cases key : (Frame.mk (.node kind span fields) 0).isPatternKey = false
  · exact .inr (by simpa using key)
  · left
    rw [Frame.isPatternKey] at key
    split at key
    · rename_i eq
      cases eq
      cases ht
      refine Option.eq_none_iff_forall_ne_some.mpr fun i named => ?_
      obtain ⟨_, _, rfl⟩ := Tree.identifier?_eq_some_iff.mp named
      exact shape _ _ _ _ _ rfl rfl
    · contradiction

/-- The key of a property in a pattern is renamed by spelling, but by reference either the property stays as
it is, or it is given a key beside its pattern. -/
theorem rename_patternProperty_iff {span place : Option Span} {name : String}
    {isOptional declaredType value key t : Tree} {chain : List Frame}
    (hkey : key = .identifier place name isOptional declaredType)
    (ht : t = .assignmentPatternProperty span key value)
    (inner : rename names declaredType
          = renameBound names refers (⟨key, 2⟩ :: ⟨t, 0⟩ :: chain) declaredType
        ↔ AllRefer names refers (declaredType.mentions (⟨key, 2⟩ :: ⟨t, 0⟩ :: chain)))
    (default : rename names value = renameBound names refers (⟨t, 1⟩ :: chain) value
        ↔ AllRefer names refers (value.mentions (⟨t, 1⟩ :: chain))) :
    rename names t = renameBound names refers chain t
      ↔ AllRefer names refers (t.mentions chain) := by
  have mentions : t.mentions chain = ⟨name, key.offset, ⟨t, 0⟩ :: chain⟩
      :: declaredType.mentions (⟨key, 2⟩ :: ⟨t, 0⟩ :: chain) ++ value.mentions (⟨t, 1⟩ :: chain) := by
    subst hkey ht
    simp [Tree.mentions, Tree.mentionsOf]
  have renamed' : rename names t = .assignmentPatternProperty span
      (.identifier place (renamed names name) isOptional (rename names declaredType))
      (rename names value) := by
    subst hkey ht
    rfl
  have isKey : Sighting.IsPatternKey ⟨name, key.offset, ⟨t, 0⟩ :: chain⟩ := by
    subst ht
    exact ⟨_, rfl, rfl⟩
  have bound : renameBound names refers chain t =
      let s : Sighting := ⟨name, key.offset, ⟨t, 0⟩ :: chain⟩
      let pattern := Tree.identifier place (boundName names refers s) isOptional
        (renameBound names refers (⟨key, 2⟩ :: s.chain) declaredType)
      let value := renameBound names refers (⟨t, 1⟩ :: chain) value
      if name ∈ names ∧ refers s then
        .keyValuePatternProperty (.identifierName place name) (withDefault span pattern value)
      else .assignmentPatternProperty span pattern value := by
    subst hkey ht
    rw [renameBound]
  rw [mentions, renamed', bound, List.cons_append, allRefer_cons, allRefer_append, ← inner, ← default]
  by_cases mem : name ∈ names
  · by_cases refer : refers ⟨name, key.offset, ⟨t, 0⟩ :: chain⟩
    · simp [mem, refer, isKey]
    · simp [mem, refer, boundName, renamed_of_mem mem, internalName_ne]
  · simp [mem, renamed_of_not_mem mem, boundName]

mutual
/-- Renaming by spelling comes to renaming by reference exactly when all identifiers of the names refer
to components and none is the key of a property in a pattern. -/
theorem rename_eq_renameBound_iff : (t : Tree) → (chain : List Frame) → StandsFree chain t →
    (rename names t = renameBound names refers chain t ↔ AllRefer names refers (t.mentions chain))
  | t, chain, free => by
    rw [renameBound.eq_def]
    split
    · rename_i span name isOptional declaredType
      have free : ∀ frame ∈ chain.head?, frame.isPatternKey = false := by
        simpa [StandsFree, Tree.identifier?] using free
      have inner := rename_eq_renameBound_iff declaredType
        (⟨.identifier span name isOptional declaredType, 2⟩ :: chain)
        (.inr (by simp [Frame.isPatternKey]))
      rw [rename, Tree.mentions, allRefer_cons_of_free free, ← inner]
      simp
    · rename_i span properties
      have inner := renameProperties_eq_iff properties
        (⟨.objectExpression span properties, 0⟩ :: chain) 0
      simp only [rename, Tree.mentions, ← inner]
      simp
    · rename_i span place name isOptional declaredType value
      have inner := rename_eq_renameBound_iff declaredType
        (⟨.identifier place name isOptional declaredType, 2⟩
          :: ⟨.assignmentPatternProperty span (.identifier place name isOptional declaredType) value, 0⟩
          :: chain)
        (.inr (by simp [Frame.isPatternKey]))
      have default := rename_eq_renameBound_iff value
        (⟨.assignmentPatternProperty span (.identifier place name isOptional declaredType) value, 1⟩
          :: chain)
        (.inr (by simp [isPatternKey_succ]))
      have := rename_patternProperty_iff rfl rfl inner default
      rw [renameBound.eq_def] at this
      exact this
    · -- No identifier is a field of the node by itself that its key would have to be kept for.
      rename_i kind span fields notIdentifier notObject notProperty
      have inner := renameAll_eq_renameBoundAll_iff fields chain (.node kind span fields) 0
        (standsFree_of_shape notProperty)
      rw [rename.eq_3 _ _ _ _ notIdentifier notObject,
        Tree.mentions.eq_3 _ _ _ _ notIdentifier notObject]
      split
      · simp
      · simp [inner]
    · rename_i items
      have inner := renameAll_eq_renameBoundAll_iff items chain .absent 0
        fun t _ => .inr (by simp [Frame.isPatternKey])
      simp [rename, Tree.mentions, inner]
    · rename_i notIdentifier notObject notProperty notNode notList
      rw [rename.eq_5, Tree.mentions.eq_5] <;> simp_all
termination_by t => sizeOf t

/-- So it is for the fields of a node. -/
theorem renameAll_eq_renameBoundAll_iff : (ts : List Tree) → (chain : List Frame) →
    (parent : Tree) → (i : Nat) → (∀ t ∈ ts.head?, StandsFree (⟨parent, i⟩ :: chain) t) →
      (renameAll names ts = renameBoundAll names refers chain parent i ts
        ↔ AllRefer names refers (Tree.mentionsOf chain parent i ts))
  | [], _, _, _, _ => by simp [renameAll, renameBoundAll, Tree.mentionsOf]
  | t :: ts, chain, parent, i, free => by
    have head := rename_eq_renameBound_iff t _ (free t rfl)
    have tail := renameAll_eq_renameBoundAll_iff ts chain parent (i + 1) fun t _ =>
      .inr (by simp [isPatternKey_succ])
    rw [renameAll, renameBoundAll, Tree.mentionsOf, List.cons.injEq, allRefer_append, head, tail]
termination_by ts => sizeOf ts

/-- So it is for the properties of an object literal. -/
theorem renameProperties_eq_iff : (ts : List Tree) → (chain : List Frame) → (i : Nat) →
    (renameProperties names ts = renameBoundProperties names refers chain i ts
      ↔ AllRefer names refers (Tree.propertyMentions chain i ts))
  | [], _, _ => by simp [renameProperties, renameBoundProperties, Tree.propertyMentions]
  | t :: ts, chain, i => by
    have tail := renameProperties_eq_iff ts chain (i + 1)
    rw [renameBoundProperties.eq_def]
    split
    · contradiction
    · rename_i span name isOptional declaredType _ eq
      cases eq
      rw [renameProperties, Tree.propertyMentions, List.cons.injEq, tail,
        allRefer_cons_of_free (by simp [Frame.isPatternKey]), renamed_eq_boundName_iff]
      refine and_congr_left fun _ => ?_
      by_cases mem : name ∈ names
      · split <;> simp_all [renamedShorthand]
      · simp [mem, renamedShorthand]
    · rename_i t ts notIdentifier eq
      cases eq
      have head := rename_eq_renameBound_iff t (⟨.absent, i⟩ :: chain)
        (.inr (by simp [Frame.isPatternKey]))
      rw [renameProperties.eq_3 _ _ _ notIdentifier, Tree.propertyMentions.eq_3 _ _ _ _ notIdentifier,
        List.cons.injEq, allRefer_append, head, tail]
termination_by ts => sizeOf ts
end

end

/-! ## Nothing is missed -/

/-- The names that identifiers have after a renaming, and their offsets. -/
def spellings (names : List String) (mentions : List Sighting) : List (String × Nat) :=
  mentions.map fun s => (renamed names s.name, s.offset)

section

variable {names : List String}

/-- Nothing becomes an identifier. -/
theorem eq_identifier_of_rename {t : Tree} {span : Option Span} {name : String} {o d : Tree}
    (h : rename names t = .identifier span name o d) :
    ∃ before o' d', t = .identifier span before o' d' := by
  have outlines := outlines_rename names t
  rw [h] at outlines
  cases outlines with
  | identifier => exact ⟨_, _, _, rfl⟩
  | node unnamed parts =>
    obtain _ | ⟨⟨⟩, _ | ⟨_, _ | ⟨_, _ | _⟩⟩⟩ := parts rfl
    contradiction

theorem eq_list_of_rename {t : Tree} {items : List Tree} (h : rename names t = .list items) :
    ∃ before, t = .list before := by
  have outlines := outlines_rename names t
  rw [h] at outlines
  cases outlines
  exact ⟨_, rfl⟩

mutual
/-- The identifiers of a tree are found again after a renaming, in their order and at their offsets, with
their new names. -/
theorem spellings_rename : (t : Tree) → {chain chain' : List Frame} →
    (spellings names (t.mentions chain)).Sublist
      (spellings [] ((rename names t).mentions chain'))
  | t, chain, chain' => by
    rw [rename.eq_def]
    split
    · rename_i span name isOptional declaredType
      rw [Tree.mentions, Tree.mentions]
      exact (spellings_rename declaredType).cons_cons _
    · rename_i span properties
      rw [Tree.mentions, Tree.mentions]
      exact spellings_renameProperties properties _ _ _ _
    · rename_i kind span fields notIdentifier notObject
      rw [Tree.mentions.eq_3 _ _ _ _ notIdentifier notObject]
      split
      · exact List.nil_sublist _
      · -- The node has kept its shape, so its identifiers are again those of its fields.
        rw [Tree.mentions.eq_3, if_neg ‹_›]
        · exact spellings_renameAll fields
        · rintro name isOptional declaredType rfl eq
          have whole : rename names (.node .identifier span fields)
              = .identifier span name isOptional declaredType := by
            rw [rename.eq_3 _ _ _ _ notIdentifier notObject, if_neg ‹_›, eq]
          obtain ⟨before, o, d, same⟩ := eq_identifier_of_rename whole
          cases same
          exact notIdentifier _ _ _ rfl rfl
        · rintro properties rfl eq
          obtain _ | ⟨t, _ | _⟩ := fields <;> simp [renameAll] at eq
          obtain ⟨before, rfl⟩ := eq_list_of_rename eq
          exact notObject _ rfl rfl
    · rename_i items
      rw [Tree.mentions, Tree.mentions]
      exact spellings_renameAll items
    · rename_i notIdentifier notObject notNode notList
      rw [Tree.mentions.eq_5] <;> simp_all [spellings]
termination_by t => sizeOf t

theorem spellings_renameAll : (ts : List Tree) → {chain chain' : List Frame} →
    {parent parent' : Tree} → {i i' : Nat} →
      (spellings names (Tree.mentionsOf chain parent i ts)).Sublist
        (spellings [] (Tree.mentionsOf chain' parent' i' (renameAll names ts)))
  | [], _, _, _, _, _, _ => List.nil_sublist _
  | t :: ts, _, _, _, _, _, _ => by
    rw [renameAll, Tree.mentionsOf, Tree.mentionsOf, spellings, spellings, List.map_append,
      List.map_append]
    exact (spellings_rename t).append (spellings_renameAll ts)
termination_by ts => sizeOf ts

theorem spellings_renameProperties : (ts : List Tree) → (chain chain' : List Frame) → (i i' : Nat) →
    (spellings names (Tree.propertyMentions chain i ts)).Sublist
      (spellings [] (Tree.propertyMentions chain' i' (renameProperties names ts)))
  | ts, chain, chain', i, i' => by
    rw [renameProperties.eq_def]
    split
    · exact List.nil_sublist _
    · rename_i span name isOptional declaredType ts
      have rest := spellings_renameProperties ts chain chain' (i + 1) (i' + 1)
      rw [renamedShorthand, Tree.propertyMentions]
      split
      · -- The key is no identifier any more, the value is the one that was there.
        rename_i mem
        rw [Tree.propertyMentions.eq_3 _ _ _ _ (by simp)]
        simp only [spellings, Tree.mentions, Tree.mentionsOf, reduceCtorEq, if_false, List.nil_append,
          List.append_nil, List.cons_append, List.map_cons, List.map_append, renamed_of_mem mem]
        exact (rest.trans (List.sublist_append_right _ _)).cons_cons _
      · rename_i other
        rw [Tree.propertyMentions]
        simp only [spellings, List.map_cons, renamed_of_not_mem other]
        exact rest.cons_cons _
    · rename_i t ts notIdentifier
      rw [Tree.propertyMentions.eq_3 _ _ _ _ notIdentifier, Tree.propertyMentions.eq_3, spellings,
        spellings, List.map_append, List.map_append]
      · exact (spellings_rename t).append (spellings_renameProperties ts _ _ _ _)
      · intro span name o d eq
        obtain ⟨before, o', d', rfl⟩ := eq_identifier_of_rename eq
        exact notIdentifier _ _ _ _ rfl
termination_by ts => sizeOf ts
end

end

/-! ## The items of a module -/

section

variable {names : List String} {wrapper : Identifier}

/-- What is put between items depends on their components only. -/
theorem insertExports_zip_inj {components : List (Option String)} {items items' : List Tree}
    (length : items.length = components.length) (length' : items'.length = components.length) :
    insertExports wrapper (items.zip components) = insertExports wrapper (items'.zip components)
      ↔ items = items' := by
  induction components generalizing items items' with
  | nil => simp_all
  | cons component components ih =>
    obtain _ | ⟨item, items⟩ := items
    · contradiction
    obtain _ | ⟨item', items'⟩ := items'
    · contradiction
    have ih := ih (Nat.succ.inj length) (Nat.succ.inj length')
    cases component <;> simp [insertExports, ih]

/-- The items of a module with its components renamed by reference, each with its component. -/
def renameByReference (pairs : List (Tree × Option String)) : List (Tree × Option String) :=
  (renameBoundAll (pairs.filterMap Prod.snd) (Sighting.Denotes (pairs.map Prod.fst)) [] .absent 0
    (pairs.map Prod.fst)).zip (pairs.map Prod.snd)

theorem length_renameBoundAll {refers : Sighting → Prop} [DecidablePred refers]
    (chain : List Frame) (parent : Tree) (i : Nat) (ts : List Tree) :
    (renameBoundAll names refers chain parent i ts).length = ts.length := by
  induction ts generalizing i with
  | nil => rfl
  | cons t ts ih => rw [renameBoundAll, List.length_cons, List.length_cons, ih]

end

end Component

namespace Pass

open Component

variable {pass : Pass}

theorem insertWrapped_inj {session : Session} {components : List (Option String)}
    {items items' : List Tree} (length : items.length = components.length)
    (length' : items'.length = components.length) :
    pass.insertWrapped session (items.zip components) = pass.insertWrapped session (items'.zip components)
      ↔ items = items' := by
  rw [insertWrapped, insertWrapped, filterMap_snd_zip length, filterMap_snd_zip length']
  split
  · rw [List.cons.injEq, insertExports_zip_inj length length']
    exact and_iff_right rfl
  · exact insertExports_zip_inj length length'

theorem spellings_insertExports {names : List String} {wrapper : Identifier} {chain : List Frame}
    {parent : Tree} (items : List Tree) {components : List (Option String)}
    (length : items.length = components.length) (i i' : Nat) :
    (spellings names (Tree.mentionsOf chain parent i items)).Sublist
      (spellings [] (Tree.mentionsOf chain parent i'
        (insertExports wrapper ((renameAll names items).zip components)))) := by
  induction items generalizing components i i' with
  | nil => exact List.nil_sublist _
  | cons item items ih =>
    obtain _ | ⟨component, components⟩ := components
    · contradiction
    have rest : items.length = components.length := Nat.succ.inj length
    cases component with
    | none =>
      rw [renameAll, List.zip_cons_cons, insertExports, Tree.mentionsOf, Tree.mentionsOf, spellings,
        spellings, List.map_append, List.map_append]
      exact (spellings_rename item).append (ih rest _ _)
    | some name =>
      rw [renameAll, List.zip_cons_cons, insertExports, Tree.mentionsOf, Tree.mentionsOf,
        Tree.mentionsOf, spellings, spellings, List.map_append, List.map_append, List.map_append]
      exact (spellings_rename item).append
        ((ih rest _ _).trans (List.sublist_append_right _ _))

/-- Every identifier of a module that is spelled like a component that is wrapped has its internal name
afterwards, and no other name is changed by that exactly if all of them refer to the component, none as the
key of a property in a pattern. -/
theorem wrapAll_eq_renameByReference_iff (session : Session) (pairs : List (Tree × Option String)) :
    (spellings (pairs.filterMap Prod.snd) ((Tree.list (pairs.map Prod.fst)).mentions [])).Sublist
        (spellings [] ((Tree.list (pass.wrapAll session pairs).1).mentions []))
      ∧ ((pass.wrapAll session pairs).1 = pass.insertWrapped session (renameByReference pairs)
        ↔ ∀ s ∈ (Tree.list (pairs.map Prod.fst)).mentions [], s.name ∈ pairs.filterMap Prod.snd →
            s.Denotes (pairs.map Prod.fst) ∧ ¬ s.IsPatternKey) := by
  have length : (pairs.map Prod.fst).length = (pairs.map Prod.snd).length := by simp
  rw [wrapAll_eq_insertWrapped]
  constructor
  · have inserted := @spellings_insertExports (pairs.filterMap Prod.snd) (pass.wrapper session).1 []
      .absent _ _ length 0
    rw [insertWrapped, Tree.mentions, Tree.mentions]
    split
    · rw [Tree.mentionsOf, spellings, spellings, List.map_append]
      exact (inserted 1).trans (List.sublist_append_right _ _)
    · exact inserted 0
  · rw [renameByReference, insertWrapped_inj (by simp [renameAll_eq_map])
      (by rw [length_renameBoundAll, length]), Tree.mentions]
    exact renameAll_eq_renameBoundAll_iff _ _ _ _ fun t _ => .inr (by simp [Frame.isPatternKey])

/-- An object literal that holds a component by its name keeps its key. -/
example :
    let pairs := [(exportOfA 1, some "A"),
      (.expressionStatement none (.objectExpression none [.identifier none "A" .absent .absent]), none)]
    ((ofModule {} ⟨"a.js", ""⟩ .absent).wrapAll {} pairs).1
      = (ofModule {} ⟨"a.js", ""⟩ .absent).insertWrapped {} (renameByReference pairs) := by
  decide +kernel

end Pass

/-- The import of a module's `A` as `y`, with the spelling of the name that it is imported by. -/
def importAsY (imported : String) : Tree :=
  .importDeclaration (some ⟨1, 28⟩)
    [.importSpecifier (some ⟨10, 16⟩) (.identifier (some ⟨15, 16⟩) "y" .absent .absent)
      (.identifier (some ⟨10, 11⟩) imported .absent .absent) (.flag false)]
    (.stringLiteral (some ⟨24, 27⟩) (.text "m") .absent) (.flag false) .absent (.text "evaluation")

/-- The items of a module that imports an `A` of another module and exports one of its own, each with its
component. -/
def importingPairs : List (Tree × Option String) :=
  [(importAsY "A", none), (exportOfA 29, some "A")]

/-- The module of `importingPairs`. -/
def importingModule : Tree := .sourceModule (some ⟨1, 64⟩) (importingPairs.map Prod.fst) .absent

/-- The name that the import of `importingModule` takes from the other module is renamed, though it is not
the name of the component. -/
theorem wrapAll_importingModule :
    ((Pass.ofModule {} ⟨"a.js", ""⟩ importingModule).walkItems {} (importingPairs.map Prod.fst)).1
        = importingPairs
      ∧ ((Pass.ofModule {} ⟨"a.js", ""⟩ importingModule).wrapAll {} importingPairs).1[1]?
        = some (importAsY "_A")
      ∧ ((Pass.ofModule {} ⟨"a.js", ""⟩ importingModule).insertWrapped {}
          (Component.renameByReference importingPairs))[1]? = some (importAsY "A")
      ∧ ((Pass.ofModule {} ⟨"a.js", ""⟩ importingModule).wrapAll {} importingPairs).1
        ≠ (Pass.ofModule {} ⟨"a.js", ""⟩ importingModule).insertWrapped {}
          (Component.renameByReference importingPairs) := by
  exact ⟨rfl, by decide +kernel, by decide +kernel, by decide +kernel⟩

end MessageExtraction
