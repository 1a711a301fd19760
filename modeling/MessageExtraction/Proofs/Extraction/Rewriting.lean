import Mathlib.Data.List.Forall2
import MessageExtraction.Proofs.Extraction.Holding

/-!
# What a run makes of a tree

A run walks over a module and then renames the components that it wraps. `Pass.Rewrites` says, node by node,
what comes of a tree in a run that ends without a fault; all that is known of the output of a run is
derived from it.

* `Rewrites`: a node keeps its kind and its fields are rewritten, but for calls of marking functions,
  marking tags, identifiers and shorthand properties. The findings of the calls and tags that stay what they
  are, are held by the registry at the end.
* `walk_rewrites`: so it is.

Inside export lists nothing is renamed, so the names to rename belong to the relation.
-/

namespace MessageExtraction

open Syntax (Tree Span Identifier)
open Component (renamed internalName rename renameAll renameProperties renamedShorthand)

/-! ## Trees -/

namespace Syntax.Tree

/-- Whether a walk and a renaming treat a node by its fields alone. -/
def isPlain : Tree → Bool
  | .identifier _ _ _ _ => false
  | .callExpression _ _ _ _ => false
  | .jsxOpeningElement _ _ _ _ _ => false
  | .objectExpression _ _ => false
  | .sourceModule _ _ _ => false
  | .node kind _ _ => kind != .exportSpecifier
  | _ => true

/-- Whether a walk goes through the fields of a node: the node is no call, no tag and no module. -/
structure IsThrough (kind : Kind) (fields : List Tree) : Prop where
  call : ∀ callee args types, kind = .callExpression → fields = [callee, .list args, types] → False
  tag : ∀ name attributes closing types, kind = .jsxOpeningElement →
    fields = [name, .list attributes, closing, types] → False
  module : ∀ items interpreter, kind = .sourceModule → fields = [.list items, interpreter] → False

theorem isThrough_of_isPlain {kind : Kind} {span : Option Span} {fields : List Tree}
    (plain : (node kind span fields).isPlain = true) : IsThrough kind fields where
  call := by
    rintro _ _ _ rfl rfl
    contradiction
  tag := by
    rintro _ _ _ _ rfl rfl
    contradiction
  module := by
    rintro _ _ rfl rfl
    contradiction

theorem kind_of_isPlain {kind : Kind} {span : Option Span} {fields : List Tree}
    (plain : (node kind span fields).isPlain = true) : kind ≠ .exportSpecifier := by
  rintro rfl
  simp [isPlain] at plain

theorem isPlain_of_identifier? {span : Option Span} {fields : List Tree}
    (h : (node .identifier span fields).identifier? = none) :
    (node .identifier span fields).isPlain = true := by
  rw [isPlain.eq_6]
  · rfl
  · rintro name isOptional declaredType - rfl
    contradiction
  all_goals
    intros
    contradiction

/-- Whether a tree is a list or a text only if it comes of one. -/
structure KeepsForm (t u : Tree) : Prop where
  list : ∀ us, u = .list us → ∃ ts, t = .list ts
  text : ∀ text, u = .text text → t = .text text

/-- A plain node stays one if its fields keep their forms, one by one. -/
theorem isPlain_of_keepsForm {kind : Kind} {span : Option Span} {ts us : List Tree}
    (plain : (node kind span ts).isPlain = true) (h : List.Forall₂ KeepsForm ts us) :
    (node kind span us).isPlain = true := by
  generalize eq : node kind span us = u
  rw [isPlain.eq_def]
  split
  · cases eq
    obtain _ | ⟨name, _ | ⟨_, _ | ⟨_, _ | _⟩⟩⟩ := h
    obtain rfl := name.text _ rfl
    contradiction
  · cases eq
    obtain _ | ⟨_, _ | ⟨args, _ | ⟨_, _ | _⟩⟩⟩ := h
    obtain ⟨_, rfl⟩ := args.list _ rfl
    contradiction
  · cases eq
    obtain _ | ⟨_, _ | ⟨attributes, _ | ⟨_, _ | ⟨_, _ | _⟩⟩⟩⟩ := h
    obtain ⟨_, rfl⟩ := attributes.list _ rfl
    contradiction
  · cases eq
    obtain _ | ⟨properties, _ | _⟩ := h
    obtain ⟨_, rfl⟩ := properties.list _ rfl
    contradiction
  · cases eq
    obtain _ | ⟨items, _ | ⟨_, _ | _⟩⟩ := h
    obtain ⟨_, rfl⟩ := items.list _ rfl
    contradiction
  · cases eq
    exact bne_iff_ne.mpr (kind_of_isPlain plain)
  · rfl

/-- Whether there is no module in a tree. -/
def IsFlat (t : Tree) : Prop := ∀ u ∈ t.nodes, u.kind? ≠ some .sourceModule

/-- Whether there is no module in any of the trees. -/
def AreFlat (ts : List Tree) : Prop := ∀ u ∈ nodesOf ts, u.kind? ≠ some .sourceModule

instance (ts : List Tree) : Decidable (AreFlat ts) :=
  inferInstanceAs (Decidable (∀ u ∈ nodesOf ts, u.kind? ≠ some .sourceModule))

theorem isFlat_node {kind : Kind} {span : Option Span} {fields : List Tree} :
    (Syntax.Tree.node kind span fields).IsFlat ↔ kind ≠ .sourceModule ∧ AreFlat fields := by
  simp [IsFlat, AreFlat, nodes, kind?]

theorem isFlat_list {ts : List Tree} : (Tree.list ts).IsFlat ↔ AreFlat ts := Iff.rfl

theorem areFlat_cons {t : Tree} {ts : List Tree} :
    AreFlat (t :: ts) ↔ t.IsFlat ∧ AreFlat ts := by
  simp [IsFlat, AreFlat, nodesOf, or_imp, forall_and]

theorem areFlat_iff {ts : List Tree} : AreFlat ts ↔ ∀ t ∈ ts, IsFlat t := by
  induction ts with
  | nil => simp [AreFlat, nodesOf]
  | cons t ts ih => rw [areFlat_cons, ih, List.forall_mem_cons]

theorem IsFlat.call {span : Option Span} {callee types : Tree} {args : List Tree}
    (flat : (Tree.callExpression span callee args types).IsFlat) :
    callee.IsFlat ∧ AreFlat args ∧ types.IsFlat := by
  simp only [isFlat_node, areFlat_cons, isFlat_list] at flat
  exact ⟨flat.2.1, flat.2.2.1, flat.2.2.2.1⟩

theorem IsFlat.tag {span : Option Span} {name closing types : Tree} {attributes : List Tree}
    (flat : (Tree.jsxOpeningElement span name attributes closing types).IsFlat) :
    name.IsFlat ∧ AreFlat attributes ∧ types.IsFlat := by
  simp only [isFlat_node, areFlat_cons, isFlat_list] at flat
  exact ⟨flat.2.1, flat.2.2.1, flat.2.2.2.2.1⟩

theorem areFlat_tail {ts : List Tree} (h : AreFlat ts) : AreFlat ts.tail := by
  cases ts with
  | nil => exact h
  | cons t ts => exact (areFlat_cons.mp h).2

end Syntax.Tree

/-! ## Renaming -/

namespace Component

variable {names : List String}

theorem rename_plain {kind : Syntax.Kind} {span : Option Span} {fields : List Tree}
    (plain : (Syntax.Tree.node kind span fields).isPlain = true) :
    rename names (.node kind span fields) = .node kind span (renameAll names fields) := by
  rw [rename.eq_3, if_neg (Syntax.Tree.kind_of_isPlain plain)]
  · rintro name isOptional declaredType rfl rfl
    contradiction
  · rintro properties rfl rfl
    contradiction

theorem rename_exportSpecifier (span : Option Span) (fields : List Tree) :
    rename names (.node .exportSpecifier span fields) = .node .exportSpecifier span fields := by
  simp [rename]

theorem renameAll_eq_map (ts : List Tree) : renameAll names ts = ts.map (rename names) := by
  induction ts with
  | nil => rfl
  | cons t ts ih => rw [renameAll, ih, List.map_cons]

theorem renamed_nil (name : String) : renamed [] name = name := rfl

mutual
theorem rename_nil : (t : Tree) → rename [] t = t
  | t => by
    rw [rename.eq_def]
    split
    · rename_i declaredType
      rw [renamed_nil, rename_nil declaredType]
    · rename_i properties
      rw [renameProperties_nil properties]
    · rename_i fields _ _
      rw [renameAll_nil fields, ite_self]
    · rename_i items
      rw [renameAll_nil items]
    · rfl
termination_by t => sizeOf t

theorem renameAll_nil : (ts : List Tree) → renameAll [] ts = ts
  | [] => rfl
  | t :: ts => by rw [renameAll, rename_nil t, renameAll_nil ts]
termination_by ts => sizeOf ts

theorem renameProperties_nil : (ts : List Tree) → renameProperties [] ts = ts
  | ts => by
    rw [renameProperties.eq_def]
    split
    · rfl
    · rename_i rest
      rw [renamedShorthand, if_neg List.not_mem_nil, renameProperties_nil rest]
    · rename_i t rest _
      rw [rename_nil t, renameProperties_nil rest]
termination_by ts => sizeOf ts
end

theorem rename_bound (callee : Tree) :
    rename names (HelperCall.bound callee) = HelperCall.bound (rename names callee) := by
  simp [HelperCall.bound, HelperCall.bindMember, HelperCall.bindArguments, rename, renameAll]

theorem rename_addedAttributes (pass : Pass) (name : Tree) (attributes : List Tree) :
    renameAll names (pass.addedAttributes name attributes) = pass.addedAttributes name attributes := by
  rw [Pass.addedAttributes]
  split
  · rw [Markup.missingDefaultMessage]
    split <;> simp [rename, renameAll, StaticValue.stringNode]
  · rfl

theorem rename_keyNode (key : String) :
    rename names (StaticValue.keyNode key) = StaticValue.keyNode key := by
  rw [StaticValue.keyNode]
  split <;> simp [rename, renameAll, StaticValue.stringNode]

mutual
/-- A value is written without names that could be renamed, but for `undefined`. -/
theorem rename_toTree (defined : "undefined" ∉ names) :
    (v : StaticValue) → rename names v.toTree = v.toTree
  | .undefined => by simp [StaticValue.toTree, rename, renamed, defined]
  | .null => by simp [StaticValue.toTree, rename, renameAll]
  | .bool _ => by simp [StaticValue.toTree, rename, renameAll]
  | .number _ => by simp [StaticValue.toTree, rename, renameAll]
  | .string _ => by simp [StaticValue.toTree, StaticValue.stringNode, rename, renameAll]
  | .array vs => by simp [StaticValue.toTree, rename, renameAll, rename_itemTrees defined vs]
  | .object ps => by simp [StaticValue.toTree, rename, rename_propertyTrees defined ps]

theorem rename_itemTrees (defined : "undefined" ∉ names) :
    (vs : List StaticValue) → renameAll names (StaticValue.itemTrees vs) = StaticValue.itemTrees vs
  | [] => rfl
  | v :: vs => by
    simp [StaticValue.itemTrees, rename, renameAll, rename_toTree defined v,
      rename_itemTrees defined vs]

theorem rename_propertyTrees (defined : "undefined" ∉ names) :
    (ps : List (String × StaticValue)) →
      renameProperties names (StaticValue.propertyTrees ps) = StaticValue.propertyTrees ps
  | [] => rfl
  | (key, v) :: ps => by
    simp [StaticValue.propertyTrees, rename, renameAll, renameProperties, rename_keyNode,
      rename_toTree defined v, rename_propertyTrees defined ps]
end

end Component

/-! ## Rewriting -/

namespace Pass

mutual
/-- What a run that ends with the registry `r` makes of a tree. The identifiers of the given names are
renamed. -/
inductive Rewrites (pass : Pass) (r : Registry) : List String → Tree → Tree → Prop
  | absent {names : List String} : Rewrites pass r names .absent .absent
  | flag {names : List String} {b : Bool} : Rewrites pass r names (.flag b) (.flag b)
  | text {names : List String} {s : String} : Rewrites pass r names (.text s) (.text s)
  | number {names : List String} {n : Int} : Rewrites pass r names (.number n) (.number n)
  | list {names : List String} {ts us : List Tree} (items : RewritesAll pass r names ts us) :
      Rewrites pass r names (.list ts) (.list us)
  | identifier {names : List String} {span : Option Span} {name : String} {o o' d d' : Tree}
      (isOptional : Rewrites pass r [] o o') (declaredType : Rewrites pass r names d d') :
      Rewrites pass r names (.identifier span name o d)
        (.identifier span (renamed names name) o' d')
  | otherCall {names : List String} {span : Option Span} {callee callee' types types' : Tree}
      {args args' : List Tree} (other : pass.helperCall? span callee args = none)
      (function : Rewrites pass r names callee callee') (given : RewritesAll pass r names args args')
      (typeArguments : Rewrites pass r names types types') :
      Rewrites pass r names (.callExpression span callee args types)
        (.callExpression span callee' args' types')
  /-- A call for one message is made on the bound function, and given all arguments. -/
  | single {names : List String} {span : Option Span} {callee callee' types types' : Tree}
      {args args' : List Tree} {call : HelperCall} (component : Option ComponentKind)
      (marks : pass.helperCall? span callee args = some call) (kind : call.kind = .single)
      (function : Rewrites pass r names callee callee') (given : RewritesAll pass r names args args')
      (typeArguments : Rewrites pass r names types types') :
      Rewrites pass r names (.callExpression span callee args types)
        (.callExpression span (HelperCall.bound callee')
          (args' ++ renameAll names
            (call.missingArguments component pass.config.propsIdentifier)) types')
  | bulk {names : List String} {span : Option Span} {callee callee' types types' : Tree}
      {args args' : List Tree} {call : HelperCall}
      (marks : pass.helperCall? span callee args = some call) (kind : call.kind = .bulk)
      (kept : call.replacement? = none) (held : ∀ finding ∈ call.findings pass, finding.IsHeld r)
      (function : Rewrites pass r names callee callee') (given : RewritesAll pass r names args args')
      (typeArguments : Rewrites pass r names types types') :
      Rewrites pass r names (.callExpression span callee args types)
        (.callExpression span callee' args' types')
  /-- The array of descriptors in a call is replaced by an object. -/
  | merged {names : List String} {span : Option Span} {callee callee' types types' : Tree}
      {args args' : List Tree} {call : HelperCall} {value : StaticValue}
      (marks : pass.helperCall? span callee args = some call) (kind : call.kind = .bulk)
      (array : call.argument = .merged value) (held : ∀ finding ∈ call.findings pass, finding.IsHeld r)
      (function : Rewrites pass r names callee callee')
      (given : RewritesAll pass r names args.tail args')
      (typeArguments : Rewrites pass r names types types') :
      Rewrites pass r names (.callExpression span callee args types)
        (.callExpression span callee' (.element none value.toTree :: args') types')
  | tag {names : List String} {span : Option Span} {name name' closing closing' types types' : Tree}
      {attributes attributes' : List Tree}
      (held : ∀ finding ∈ pass.tagFindings span name attributes, finding.IsHeld r)
      (tagName : Rewrites pass r names name name')
      (given : RewritesAll pass r names attributes attributes')
      (typeArguments : Rewrites pass r names types types') :
      Rewrites pass r names (.jsxOpeningElement span name attributes closing types)
        (.jsxOpeningElement span name' (attributes' ++ pass.addedAttributes name attributes) closing'
          types')
  | object {names : List String} {span : Option Span} {ts us : List Tree}
      (properties : RewritesProperties pass r names ts us) :
      Rewrites pass r names (.objectExpression span ts) (.objectExpression span us)
  | exportSpecifier {names : List String} {span : Option Span} {ts us : List Tree}
      (fields : RewritesAll pass r [] ts us) :
      Rewrites pass r names (.node .exportSpecifier span ts) (.node .exportSpecifier span us)
  | node {names : List String} {kind : Syntax.Kind} {span : Option Span} {ts us : List Tree}
      (plain : (Syntax.Tree.node kind span ts).isPlain = true) (fields : RewritesAll pass r names ts us) :
      Rewrites pass r names (.node kind span ts) (.node kind span us)

/-- What a run makes of several trees. -/
inductive RewritesAll (pass : Pass) (r : Registry) : List String → List Tree → List Tree → Prop
  | nil {names : List String} : RewritesAll pass r names [] []
  | cons {names : List String} {t u : Tree} {ts us : List Tree} (head : Rewrites pass r names t u)
      (tail : RewritesAll pass r names ts us) : RewritesAll pass r names (t :: ts) (u :: us)

/-- What a run makes of the properties of an object literal. -/
inductive RewritesProperties (pass : Pass) (r : Registry) :
    List String → List Tree → List Tree → Prop
  | nil {names : List String} : RewritesProperties pass r names [] []
  | shorthand {names : List String} {span : Option Span} {name : String} {o o' d d' : Tree}
      {ts us : List Tree} (mem : name ∈ names) (isOptional : Rewrites pass r [] o o')
      (declaredType : Rewrites pass r [] d d') (tail : RewritesProperties pass r names ts us) :
      RewritesProperties pass r names (.identifier span name o d :: ts)
        (.keyValueProperty (.identifierName span name) (.identifier span (internalName name) o' d')
          :: us)
  | otherShorthand {names : List String} {span : Option Span} {name : String} {o o' d d' : Tree}
      {ts us : List Tree} (other : name ∉ names) (isOptional : Rewrites pass r [] o o')
      (declaredType : Rewrites pass r [] d d') (tail : RewritesProperties pass r names ts us) :
      RewritesProperties pass r names (.identifier span name o d :: ts)
        (.identifier span name o' d' :: us)
  | property {names : List String} {t u : Tree} {ts us : List Tree} (written : t.identifier? = none)
      (head : Rewrites pass r names t u) (tail : RewritesProperties pass r names ts us) :
      RewritesProperties pass r names (t :: ts) (u :: us)
end

/-! ## What a walk leaves as it is -/

section Shapes

variable {pass : Pass} {s : Session} {t u : Tree} {ts us : List Tree}

theorem walk_node (s : Session) (kind : Syntax.Kind) (span : Option Span) (fields : List Tree) :
    ∃ fields', (pass.walk s (.node kind span fields)).1 = .node kind span fields' := by
  generalize eq : Syntax.Tree.node kind span fields = t
  rw [walk.eq_def]
  split
  · cases eq
    split
    · exact ⟨_, rfl⟩
    split
    · exact ⟨_, rfl⟩
    dsimp only
    split
    · exact ⟨_, rfl⟩
    split
    · exact ⟨_, rfl⟩
    · exact ⟨_, rfl⟩
  · cases eq
    split
    · exact ⟨_, rfl⟩
    · exact ⟨_, rfl⟩
  · cases eq
    split
    · exact ⟨_, rfl⟩
    · exact ⟨_, rfl⟩
  · cases eq
    exact ⟨_, rfl⟩
  · cases eq
  · exact ⟨_, eq.symm⟩

theorem keepsForm_walk (s : Session) (t : Tree) : Syntax.Tree.KeepsForm t (pass.walk s t).1 := by
  cases t with
  | node kind span fields =>
    obtain ⟨fields', eq⟩ := @walk_node pass s kind span fields
    rw [eq]
    exact ⟨nofun, nofun⟩
  | list items => exact ⟨fun _ _ => ⟨items, rfl⟩, nofun⟩
  | text text => exact ⟨nofun, fun _ eq => eq⟩
  | _ => exact ⟨nofun, nofun⟩

theorem keepsForm_walkAll (s : Session) (ts : List Tree) :
    List.Forall₂ Syntax.Tree.KeepsForm ts (pass.walkAll s ts).1 := by
  induction ts generalizing s with
  | nil => exact .nil
  | cons t ts ih => exact .cons (keepsForm_walk s t) (ih _)

theorem isPlain_walkAll {kind : Syntax.Kind} {span : Option Span}
    (plain : (Syntax.Tree.node kind span ts).isPlain = true) :
    (Syntax.Tree.node kind span (pass.walkAll s ts).1).isPlain = true :=
  Syntax.Tree.isPlain_of_keepsForm plain (keepsForm_walkAll s ts)

theorem walk_through {kind : Syntax.Kind} {span : Option Span}
    (through : Syntax.Tree.IsThrough kind ts) :
    pass.walk s (.node kind span ts)
      = (.node kind span (pass.walkAll s ts).1, (pass.walkAll s ts).2) := by
  rw [walk.eq_4 _ _ _ _ _ through.call through.tag through.module]

/-- A walk goes through the fields of a plain node. -/
theorem walk_plain {kind : Syntax.Kind} {span : Option Span}
    (plain : (Syntax.Tree.node kind span ts).isPlain = true) :
    pass.walk s (.node kind span ts)
      = (.node kind span (pass.walkAll s ts).1, (pass.walkAll s ts).2) :=
  walk_through (Syntax.Tree.isThrough_of_isPlain plain)

theorem survey_plain {kind : Syntax.Kind} {span : Option Span}
    (plain : (Syntax.Tree.node kind span ts).isPlain = true) :
    pass.survey (.node kind span ts) = pass.surveyAll ts := by
  obtain ⟨call, tag, module⟩ := Syntax.Tree.isThrough_of_isPlain plain
  rw [survey.eq_4 _ _ _ _ call tag module]

theorem not_failed_of_walk (h : (pass.walk s t).2.failed = false) : s.failed = false := by
  cases failed : s.failed with
  | false => rfl
  | true => rw [walk_of_failed s t failed, failed] at h; contradiction

theorem not_failed_of_walkAll (h : (pass.walkAll s ts).2.failed = false) : s.failed = false := by
  cases failed : s.failed with
  | false => rfl
  | true => rw [walkAll_of_failed s ts failed, failed] at h; contradiction

theorem identifier?_walk (h : t.identifier? = none) (span : Option Span) (name : String)
    (o d : Tree) : (pass.walk s t).1 ≠ .identifier span name o d := by
  intro eq
  cases t with
  | node kind span' fields =>
    obtain ⟨fields', eq'⟩ := @walk_node pass s kind span' fields
    obtain rfl : kind = .identifier := by
      rw [eq'] at eq
      injection eq
    have plain := Syntax.Tree.isPlain_of_identifier? h
    have walked := @isPlain_walkAll pass s fields _ span' plain
    rw [walk_plain plain] at eq
    dsimp only at eq
    rw [eq] at walked
    contradiction
  | list items => contradiction
  | _ => contradiction

theorem walk_identifier (s : Session) (span : Option Span) (name : String) (o d : Tree) :
    pass.walk s (.identifier span name o d)
      = (.identifier span name (pass.walk s o).1 (pass.walk (pass.walk s o).2 d).1,
          (pass.walk (pass.walk s o).2 d).2) := rfl

theorem survey_identifier (span : Option Span) (name : String) (o d : Tree) :
    pass.survey (.identifier span name o d) = pass.survey o ++ pass.survey d := by
  simp [survey, surveyAll]

theorem walk_object (s : Session) (span : Option Span) (properties : List Tree) :
    pass.walk s (.objectExpression span properties)
      = (.objectExpression span (pass.walkAll s properties).1, (pass.walkAll s properties).2) := rfl

theorem survey_object (span : Option Span) (properties : List Tree) :
    pass.survey (.objectExpression span properties) = pass.surveyAll properties := by
  simp [survey, surveyAll]

theorem walk_exportSpecifier (s : Session) (span : Option Span) (fields : List Tree) :
    pass.walk s (.node .exportSpecifier span fields)
      = (.node .exportSpecifier span (pass.walkAll s fields).1, (pass.walkAll s fields).2) := rfl

theorem survey_exportSpecifier (span : Option Span) (fields : List Tree) :
    pass.survey (.node .exportSpecifier span fields) = pass.surveyAll fields := rfl

end Shapes

/-! ## Calls -/

section Calls

variable {pass : Pass} {span : Option Span} {callee : Tree} {args : List Tree} {call : HelperCall}

/-- What is known of a call of a marking function. -/
theorem helperCall?_some (h : pass.helperCall? span callee args = some call) :
    ∃ reference, Reference.ofCallee? callee = some reference
      ∧ (pass.isHelper pass.config.translateFunctions reference = true
            ∧ call = ⟨.single, reference.text, span, args⟩
          ∨ pass.isHelper pass.config.translateFunctions reference = false
            ∧ pass.isHelper pass.config.defineMessagesFunctions reference = true
            ∧ call = ⟨.bulk, reference.text, span, args⟩) := by
  rw [helperCall?] at h
  cases found : Reference.ofCallee? callee with
  | none =>
    rw [found] at h
    contradiction
  | some reference =>
    rw [found] at h
    dsimp only [bind, Option.bind] at h
    refine ⟨reference, rfl, ?_⟩
    split at h
    · cases h
      exact .inl ⟨‹_›, rfl⟩
    split at h
    · cases h
      exact .inr ⟨Bool.eq_false_iff.mpr ‹_›, ‹_›, rfl⟩
    · contradiction

theorem args_of_helperCall? (h : pass.helperCall? span callee args = some call) :
    call.args = args := by
  obtain ⟨reference, -, ⟨-, rfl⟩ | ⟨-, -, rfl⟩⟩ := helperCall?_some h <;> rfl

theorem isArrayForm_of_none (h : pass.helperCall? span callee args = none) :
    pass.isArrayForm span callee args = false := by
  rw [isArrayForm, h]

theorem isArrayForm_of_some (h : pass.helperCall? span callee args = some call) :
    pass.isArrayForm span callee args
      = (call.kind == .bulk && call.replacement?.isSome) := by
  rw [isArrayForm, h]
  obtain ⟨kind, name, span, args⟩ := call
  cases kind <;> rfl

theorem argument_of_replacement? {e : Tree} (h : call.replacement? = some e) :
    ∃ value, call.argument = .merged value ∧ e = value.toTree := by
  rw [HelperCall.replacement?] at h
  split at h
  · cases h
    exact ⟨_, ‹_›, rfl⟩
  · contradiction

/-- An array of descriptors is the first argument of its call. -/
theorem args_of_merged {value : StaticValue} (h : call.argument = .merged value) :
    (∃ e rest, call.args = .element none e :: rest) ∧ ∃ merged, value = .object merged := by
  rw [HelperCall.argument] at h
  split at h
  · rename_i e rest args
    refine ⟨⟨e, rest, args⟩, ?_⟩
    split at h
    · contradiction
    · contradiction
    · split at h
      · cases h
        exact ⟨_, rfl⟩
      · contradiction
    · contradiction
  · contradiction

theorem walkArguments_none (s : Session) (ts : List Tree) :
    pass.walkArguments s none ts = pass.walkAll s ts := by
  cases ts <;> rfl

theorem walkArguments_of_merged {value : StaticValue} {s : Session}
    (h : pass.helperCall? span callee args = some call) (array : call.argument = .merged value) :
    pass.walkArguments s (some value.toTree) args
      = (.element none value.toTree :: (pass.walkAll s args.tail).1, (pass.walkAll s args.tail).2) := by
  obtain ⟨⟨e, rest, eq⟩, -⟩ := args_of_merged array
  rw [← args_of_helperCall? h, eq]
  rfl

theorem surveyArguments_true (ts : List Tree) :
    pass.surveyArguments true ts = pass.surveyAll ts.tail := by
  cases ts <;> rfl

end Calls

/-! ## The walk rewrites -/

section Derivation

variable {pass : Pass} {r : Registry} {names : List String}

theorem rename_call (span : Option Span) (callee : Tree) (args : List Tree) (types : Tree) :
    rename names (.callExpression span callee args types)
      = .callExpression span (rename names callee) (renameAll names args) (rename names types) := by
  simp [rename, renameAll]

theorem rename_tag (span : Option Span) (name : Tree) (attributes : List Tree)
    (closing types : Tree) :
    rename names (.jsxOpeningElement span name attributes closing types)
      = .jsxOpeningElement span (rename names name) (renameAll names attributes)
          (rename names closing) (rename names types) := by
  simp [rename, renameAll]

theorem renameAll_append (ts us : List Tree) :
    renameAll names (ts ++ us) = renameAll names ts ++ renameAll names us := by
  simp [Component.renameAll_eq_map]

theorem rename_element (e : Tree) :
    rename names (.element none e) = .element none (rename names e) := by
  simp [rename, renameAll]

/-- Every walk over the tree that meets no fault rewrites it, once the names are renamed. -/
def WalkRewrites (pass : Pass) (r : Registry) (t : Tree) : Prop :=
  ∀ ⦃s : Session⦄ ⦃names : List String⦄, "undefined" ∉ names → t.IsFlat →
    (pass.walk s t).2.failed = false → (∀ finding ∈ pass.survey t, finding.IsHeld r) →
      pass.Rewrites r names t (rename names (pass.walk s t).1)

/-- Every walk over the trees that meets no fault rewrites them, once the names are renamed. -/
def WalkAllRewrites (pass : Pass) (r : Registry) (ts : List Tree) : Prop :=
  ∀ ⦃s : Session⦄ ⦃names : List String⦄, "undefined" ∉ names → Syntax.Tree.AreFlat ts →
    (pass.walkAll s ts).2.failed = false → (∀ finding ∈ pass.surveyAll ts, finding.IsHeld r) →
      pass.RewritesAll r names ts (renameAll names (pass.walkAll s ts).1)

theorem identifier_rewrites {span : Option Span} {name : String} {o d : Tree}
    (optionals : pass.WalkRewrites r o) (declared : pass.WalkRewrites r d) :
    pass.WalkRewrites r (.identifier span name o d) := by
  intro s names defined flat ok held
  rw [walk_identifier] at ok ⊢
  rw [survey_identifier] at held
  simp only [Syntax.Tree.isFlat_node, Syntax.Tree.areFlat_cons] at flat
  -- the mark of an optional name is rewritten with no name to rename
  have isOptional : pass.Rewrites r [] o (rename [] (pass.walk s o).1) :=
    optionals List.not_mem_nil flat.2.2.1 (not_failed_of_walk ok)
      fun f hf => held f (List.mem_append_left _ hf)
  rw [Component.rename_nil] at isOptional
  rw [rename]
  exact .identifier isOptional (declared defined flat.2.2.2.1 ok
    fun f hf => held f (List.mem_append_right _ hf))

section Calls

variable {span : Option Span} {callee : Tree} {args : List Tree} {types : Tree} {call : HelperCall}

theorem otherCall_rewrites (marks : pass.helperCall? span callee args = none)
    (callees : pass.WalkRewrites r callee) (arguments : pass.WalkAllRewrites r args)
    (typed : pass.WalkRewrites r types) :
    pass.WalkRewrites r (.callExpression span callee args types) := by
  intro s names defined flat ok held
  have started := not_failed_of_walk ok
  obtain ⟨flatCallee, flatArgs, flatTypes⟩ := flat.call
  rw [survey, isArrayForm_of_none marks, surveyArguments_false] at held
  simp only [List.mem_append, or_imp, forall_and] at held
  obtain ⟨⟨⟨-, heldCallee⟩, heldArgs⟩, heldTypes⟩ := held
  rw [walk, if_neg (by simp [started])] at ok ⊢
  simp only [marks] at ok ⊢
  rw [rename_call]
  have ok₂ := not_failed_of_walk ok
  exact .otherCall marks (callees defined flatCallee (not_failed_of_walkAll ok₂) heldCallee)
    (arguments defined flatArgs ok₂ heldArgs) (typed defined flatTypes ok heldTypes)

theorem single_rewrites (marks : pass.helperCall? span callee args = some call)
    (kind : call.kind = .single) (callees : pass.WalkRewrites r callee)
    (arguments : pass.WalkAllRewrites r args) (typed : pass.WalkRewrites r types) :
    pass.WalkRewrites r (.callExpression span callee args types) := by
  intro s names defined flat ok held
  have started := not_failed_of_walk ok
  obtain ⟨flatCallee, flatArgs, flatTypes⟩ := flat.call
  rw [survey, isArrayForm_of_some marks, kind, beq_eq_false_iff_ne.mpr (by decide), Bool.false_and,
    surveyArguments_false] at held
  simp only [List.mem_append, or_imp, forall_and] at held
  obtain ⟨⟨⟨-, heldCallee⟩, heldArgs⟩, heldTypes⟩ := held
  rw [walk, if_neg (by simp [started])] at ok ⊢
  simp only [marks, kind] at ok ⊢
  -- the walk goes on past the call only where the findings of the call were taken
  split at ok
  · rename_i failed
    rw [failed] at ok
    contradiction
  rename_i started
  rw [if_neg started, rename_call, Component.rename_bound, renameAll_append]
  have ok₂ := not_failed_of_walk ok
  exact .single _ marks kind (callees defined flatCallee (not_failed_of_walkAll ok₂) heldCallee)
    (arguments defined flatArgs ok₂ heldArgs) (typed defined flatTypes ok heldTypes)

theorem bulk_rewrites (marks : pass.helperCall? span callee args = some call)
    (kind : call.kind = .bulk) (callees : pass.WalkRewrites r callee)
    (arguments : pass.WalkAllRewrites r args) (others : pass.WalkAllRewrites r args.tail)
    (typed : pass.WalkRewrites r types) :
    pass.WalkRewrites r (.callExpression span callee args types) := by
  intro s names defined flat ok held
  have started := not_failed_of_walk ok
  obtain ⟨flatCallee, flatArgs, flatTypes⟩ := flat.call
  rw [survey, isArrayForm_of_some marks, kind, beq_self_eq_true, Bool.true_and] at held
  simp only [List.mem_append, or_imp, forall_and] at held
  obtain ⟨⟨⟨heldCall, heldCallee⟩, heldArgs⟩, heldTypes⟩ := held
  rw [callFindings, marks] at heldCall
  rw [walk, if_neg (by simp [started])] at ok ⊢
  simp only [marks, kind] at ok ⊢
  rw [rename_call]
  cases replaced : call.replacement? with
  | none =>
    rw [replaced, walkArguments_none] at ok
    rw [walkArguments_none]
    rw [replaced, Option.isSome_none, surveyArguments_false] at heldArgs
    have ok₂ := not_failed_of_walk ok
    exact .bulk marks kind replaced heldCall
      (callees defined flatCallee (not_failed_of_walkAll ok₂) heldCallee)
      (arguments defined flatArgs ok₂ heldArgs) (typed defined flatTypes ok heldTypes)
  | some e =>
    -- the merged object takes the place of the first argument, which is not walked
    obtain ⟨value, array, rfl⟩ := argument_of_replacement? replaced
    rw [replaced, walkArguments_of_merged marks array] at ok
    rw [walkArguments_of_merged marks array]
    rw [replaced, Option.isSome_some, surveyArguments_true] at heldArgs
    rw [renameAll, rename_element, Component.rename_toTree defined]
    have ok₂ := not_failed_of_walk ok
    exact .merged marks kind array heldCall
      (callees defined flatCallee (not_failed_of_walkAll ok₂) heldCallee)
      (others defined (Syntax.Tree.areFlat_tail flatArgs) ok₂ heldArgs) (typed defined flatTypes ok heldTypes)

theorem call_rewrites (callees : pass.WalkRewrites r callee)
    (arguments : pass.WalkAllRewrites r args) (others : pass.WalkAllRewrites r args.tail)
    (typed : pass.WalkRewrites r types) :
    pass.WalkRewrites r (.callExpression span callee args types) := by
  cases marks : pass.helperCall? span callee args with
  | none => exact otherCall_rewrites marks callees arguments typed
  | some call =>
    cases kind : call.kind with
    | single => exact single_rewrites marks kind callees arguments typed
    | bulk => exact bulk_rewrites marks kind callees arguments others typed

end Calls

theorem tag_rewrites {span : Option Span} {name : Tree} {attributes : List Tree}
    {closing types : Tree} (named : pass.WalkRewrites r name)
    (attributed : pass.WalkAllRewrites r attributes) (typed : pass.WalkRewrites r types) :
    pass.WalkRewrites r (.jsxOpeningElement span name attributes closing types) := by
  intro s names defined flat ok held
  have started := not_failed_of_walk ok
  obtain ⟨flatName, flatAttributes, flatTypes⟩ := flat.tag
  rw [survey] at held
  simp only [List.mem_append, or_imp, forall_and] at held
  obtain ⟨⟨⟨heldTag, heldName⟩, heldAttributes⟩, heldTypes⟩ := held
  rw [walk, if_neg (by simp [started])] at ok ⊢
  dsimp only at ok ⊢
  rw [rename_tag, renameAll_append, Component.rename_addedAttributes]
  have ok₂ := not_failed_of_walk ok
  exact .tag heldTag (named defined flatName (not_failed_of_walkAll ok₂) heldName)
    (attributed defined flatAttributes ok₂ heldAttributes) (typed defined flatTypes ok heldTypes)

mutual
/-- A walk without a fault rewrites a tree, once the names are renamed. -/
theorem walk_rewrites (t : Tree) : pass.WalkRewrites r t := by
  cases plain : t.isPlain with
  | true =>
    intro s names defined flat ok held
    cases t with
    | node kind span fields =>
      rw [walk_plain plain] at ok ⊢
      rw [Component.rename_plain (isPlain_walkAll plain)]
      rw [survey_plain plain] at held
      exact .node plain
        (walkAll_rewrites fields defined (Syntax.Tree.isFlat_node.mp flat).2 ok held)
    | list items =>
      exact .list (walkAll_rewrites items defined flat ok held)
    | absent => exact .absent
    | flag b => exact .flag
    | text s => exact .text
    | number n => exact .number
  | false =>
    -- one case for each form that the walk or the renaming treats by itself
    rw [Syntax.Tree.isPlain.eq_def] at plain
    split at plain
    · rename_i o d
      exact identifier_rewrites (walk_rewrites o) (walk_rewrites d)
    · rename_i callee args types
      exact call_rewrites (walk_rewrites callee) (walkAll_rewrites args)
        (walkTail_rewrites args) (walk_rewrites types)
    · rename_i name attributes closing types
      exact tag_rewrites (walk_rewrites name) (walkAll_rewrites attributes)
        (walk_rewrites types)
    · rename_i span properties
      intro s names defined flat ok held
      rw [walk_object] at ok ⊢
      simp only [Syntax.Tree.isFlat_node, Syntax.Tree.areFlat_cons, Syntax.Tree.isFlat_list] at flat
      rw [survey_object] at held
      rw [rename]
      exact .object (walkProperties_rewrites properties defined flat.2.1 ok held)
    · intro s names defined flat
      exact absurd rfl (Syntax.Tree.isFlat_node.mp flat).1
    · rename_i kind span fields _ _ _ _ _
      obtain rfl : kind = .exportSpecifier := by simpa using plain
      intro s names defined flat ok held
      rw [walk_exportSpecifier] at ok ⊢
      rw [survey_exportSpecifier] at held
      -- the names of an export are left as they are
      have fieldsRewritten : pass.RewritesAll r [] fields (renameAll [] (pass.walkAll s fields).1) :=
        walkAll_rewrites fields List.not_mem_nil (Syntax.Tree.isFlat_node.mp flat).2 ok held
      rw [Component.renameAll_nil] at fieldsRewritten
      rw [Component.rename_exportSpecifier]
      exact .exportSpecifier fieldsRewritten
    · contradiction
termination_by sizeOf t

theorem walkAll_rewrites : (ts : List Tree) → pass.WalkAllRewrites r ts
  | [] => fun _ _ _ _ _ _ => .nil
  | t :: ts => by
    intro s names defined flat ok held
    rw [surveyAll] at held
    have first := walk_rewrites t defined (Syntax.Tree.areFlat_cons.mp flat).1
      (not_failed_of_walkAll ok) fun f hf => held f (List.mem_append_left _ hf)
    have rest := walkAll_rewrites ts defined (Syntax.Tree.areFlat_cons.mp flat).2 ok
      fun f hf => held f (List.mem_append_right _ hf)
    exact .cons first rest
termination_by ts => sizeOf ts

theorem walkTail_rewrites : (ts : List Tree) → pass.WalkAllRewrites r ts.tail
  | [] => fun _ _ _ _ _ _ => .nil
  | _ :: ts => walkAll_rewrites ts
termination_by ts => sizeOf ts

theorem walkProperties_rewrites : (ts : List Tree) → {s : Session} → {names : List String} →
    "undefined" ∉ names → Syntax.Tree.AreFlat ts → (pass.walkAll s ts).2.failed = false →
    (∀ finding ∈ pass.surveyAll ts, finding.IsHeld r) →
      pass.RewritesProperties r names ts (renameProperties names (pass.walkAll s ts).1)
  | [], _, _, _, _, _, _ => .nil
  | t :: ts, s, names, defined, flat, ok, held => by
    rw [surveyAll] at held
    simp only [List.mem_append, or_imp, forall_and] at held
    rw [Syntax.Tree.areFlat_cons] at flat
    have rest : pass.RewritesProperties r names ts
        (renameProperties names (pass.walkAll (pass.walk s t).2 ts).1) :=
      walkProperties_rewrites ts defined flat.2 ok held.2
    cases written : t.identifier? with
    | none =>
      rw [walkAll]
      dsimp only
      rw [renameProperties.eq_3 _ _ _ (identifier?_walk written)]
      exact .property written
        (walk_rewrites t defined flat.1 (not_failed_of_walkAll ok) held.1) rest
    | some i =>
      have same : pass.Rewrites r [] t (rename [] (pass.walk s t).1) :=
        walk_rewrites t List.not_mem_nil flat.1 (not_failed_of_walkAll ok) held.1
      rw [Component.rename_nil] at same
      obtain ⟨o, d, rfl⟩ := Syntax.Tree.identifier?_eq_some_iff.mp written
      rw [walk_identifier] at same rest
      rw [walkAll, walk_identifier]
      dsimp only at same rest ⊢
      rw [renameProperties, renamedShorthand]
      cases same with
      | identifier isOptional declaredType =>
        split
        · exact .shorthand ‹_› isOptional declaredType rest
        · exact .otherShorthand ‹_› isOptional declaredType rest
      | node plain => contradiction
termination_by ts => sizeOf ts
end

end Derivation

end Pass

end MessageExtraction
