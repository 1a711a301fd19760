import MessageExtraction.Proofs.Extraction.Renaming

/-!
# Components after a run

When an item of a module exports a component, and that a run makes none: what is one afterwards, was one
under the same name, and was not renamed.

* `ofItem?_eq_some_iff`: the two shapes of an item that exports a component.
* `Rewrites.component`: a component after a run was one before.
* `ofItem?_wrappedExport`: nor is the export of a wrapped component one.
-/

namespace MessageExtraction

open Syntax (Tree Span Identifier)
open Component (renamed internalName isInternal baseName? statements endWithMarkup)

namespace Component

variable {config : Config} {component : Component} {item : Tree}

/-- When a component is what an item of a module exports. -/
inductive ExportedBy (config : Config) : Component → Tree → Prop
  | classBased {span inner place : Option Span} {name base : String}
      {flag note declared decorators body superClass isAbstract typeParams superTypeParams
        interfaces : Tree}
      (exposed : isInternal name = false) (own : name ≠ config.excludedBaseClass)
      (based : baseName? superClass = some base) (other : base ≠ config.excludedBaseClass)
      (listed : base ∈ config.baseComponentNames) :
      ExportedBy config ⟨.classBased, ⟨name, place⟩⟩
        (.exportDeclaration span (.classDeclaration inner (.identifier place name flag note) declared
          decorators body superClass isAbstract typeParams superTypeParams interfaces))
  | functional {span inner single place : Option Span} {name keyword : String}
      {flag note declared init definite : Tree}
      (exposed : isInternal name = false) (upper : startsUppercase name = true)
      (markup : endWithMarkup (statements init) = true) :
      ExportedBy config ⟨.functional, ⟨name, place⟩⟩
        (.exportDeclaration span (.variableDeclaration inner keyword declared
          [.variableDeclarator single (.identifier place name flag note) init definite]))

theorem isComponentClass_iff {name : String} {superClass : Tree} :
    isComponentClass config name superClass = true
      ↔ ∃ base, baseName? superClass = some base ∧ isInternal name = false
        ∧ name ≠ config.excludedBaseClass ∧ base ≠ config.excludedBaseClass
        ∧ base ∈ config.baseComponentNames := by
  rw [isComponentClass]
  cases baseName? superClass with
  | none => simp
  | some base => simp [and_assoc]

theorem ofItem?_eq_some_iff : ofItem? config item = some component ↔ component.ExportedBy config item := by
  constructor
  · intro found
    rw [ofItem?.eq_def] at found
    split at found
    · obtain ⟨isClass, ⟨⟩⟩ := Option.ite_none_right_eq_some.mp found
      obtain ⟨base, based, exposed, own, other, listed⟩ := isComponentClass_iff.mp isClass
      exact .classBased exposed own based other listed
    · obtain ⟨isFunction, ⟨⟩⟩ := Option.ite_none_right_eq_some.mp found
      simp only [Bool.and_eq_true, Bool.not_eq_true'] at isFunction
      obtain ⟨⟨upper, exposed⟩, markup⟩ := isFunction
      exact .functional exposed upper markup
    · contradiction
  · intro exported
    cases exported with
    | classBased exposed own based other listed =>
      rw [ofItem?, if_pos (isComponentClass_iff.mpr ⟨_, based, exposed, own, other, listed⟩)]
    | functional exposed upper markup => simp [ofItem?, exposed, upper, markup]

end Component

namespace Pass

variable {pass : Pass} {r : Registry} {names : List String} {t u : Tree} {ts us : List Tree}

theorem Rewrites.kind? (h : pass.Rewrites r names t u) : u.kind? = t.kind? := by
  cases h <;> rfl

theorem eq_of_exposed {name : String} (exposed : isInternal (renamed names name) = false) :
    name ∉ names ∧ renamed names name = name := by
  have other : name ∉ names := by
    intro mem
    rw [Component.renamed_of_mem mem, Component.isInternal_internalName] at exposed
    contradiction
  exact ⟨other, Component.renamed_of_not_mem other⟩

/-- What names a base class after a run under a name that is not internal, did so before. -/
theorem Rewrites.baseName? {base : String} (h : pass.Rewrites r names t u)
    (exposed : isInternal base = false) (found : baseName? u = some base) :
    Component.baseName? t = some base := by
  have inner := Rewrites.unwrap t h
  rw [Component.baseName?.eq_def] at found ⊢
  split at found
  · rename_i written
    rw [written] at inner
    obtain ⟨name, o, d, before, eq⟩ := inner.eq_identifier
    cases found
    rw [eq] at exposed ⊢
    rw [before, (eq_of_exposed exposed).2]
  · rename_i written
    rw [written] at inner
    cases found
    generalize t.unwrap = e at inner ⊢
    cases inner with | node _ fields =>
    obtain _ | ⟨_, _ | ⟨property, _ | _⟩⟩ := fields
    rw [property.eq_identifierName]
  · contradiction

theorem Rewrites.statements (h : pass.Rewrites r names t u) :
    pass.RewritesAll r names (statements t) (statements u) ∨ statements u = [] := by
  have inner := Rewrites.unwrap t h
  rw [Component.statements.eq_def u]
  split
  · rename_i written
    rw [written] at inner
    rw [Component.statements]
    generalize t.unwrap = e at inner ⊢
    cases inner with | node _ fields =>
    obtain _ | ⟨params, _ | ⟨body, _ | ⟨_, _ | ⟨_, _ | ⟨_, _ | ⟨_, _ | _⟩⟩⟩⟩⟩⟩ := fields
    cases params with | list =>
    cases body with | node _ fields =>
    obtain _ | ⟨list, _ | _⟩ := fields
    cases list with | list items =>
    exact .inl items
  · rename_i written
    rw [written] at inner
    rw [Component.statements]
    generalize t.unwrap = e at inner ⊢
    cases inner with | node _ fields =>
    obtain _ | ⟨_, _ | ⟨_, _ | ⟨_, _ | ⟨body, _ | ⟨_, _ | ⟨_, _ | ⟨_, _ | ⟨_, _ | _⟩⟩⟩⟩⟩⟩⟩⟩ := fields
    cases body with | node _ fields =>
    obtain _ | ⟨list, _ | _⟩ := fields
    cases list with | list items =>
    exact .inl items
  · exact .inr rfl

theorem RewritesAll.getLast? (h : pass.RewritesAll r names ts us) (last : us.getLast? = some u) :
    ∃ t, ts.getLast? = some t ∧ pass.Rewrites r names t u := by
  rw [List.getLast?_eq_head?_reverse] at last ⊢
  have reversed := List.rel_reverse h.forall₂
  cases before : ts.reverse with
  | nil =>
    rw [before, List.forall₂_nil_left_iff] at reversed
    rw [reversed] at last
    contradiction
  | cons t rest =>
    rw [before, List.forall₂_cons_left_iff] at reversed
    obtain ⟨u', _, head, -, eq⟩ := reversed
    rw [eq] at last
    cases last
    exact ⟨t, rfl, head⟩

/-- A function that returns markup after a run did so before. -/
theorem RewritesAll.endWithMarkup (h : pass.RewritesAll r names ts us)
    (found : endWithMarkup us = true) : Component.endWithMarkup ts = true := by
  rw [Component.endWithMarkup] at found
  split at found
  · rename_i last
    obtain ⟨t, before, head⟩ := h.getLast? last
    cases head with | node _ fields =>
    obtain _ | ⟨value, _ | _⟩ := fields
    have kind := (Rewrites.unwrap _ value).kind?
    rw [Component.endWithMarkup, before]
    dsimp only
    rwa [← kind]
  · contradiction

theorem Rewrites.endsWithMarkup (h : pass.Rewrites r names t u)
    (found : endWithMarkup (Component.statements u) = true) :
    endWithMarkup (Component.statements t) = true := by
  rcases h.statements with rewritten | none
  · exact rewritten.endWithMarkup found
  · rw [none] at found
    contradiction

/-- What is a component after a run was one before, and was not renamed. -/
theorem Rewrites.component {config : Config} {component : Component}
    (bases : ∀ base ∈ config.baseComponentNames, isInternal base = false)
    (h : pass.Rewrites r names t u) (found : Component.ofItem? config u = some component) :
    Component.ofItem? config t = some component ∧ component.identifier.name ∉ names
      ∧ isInternal component.identifier.name = false := by
  rw [Component.ofItem?_eq_some_iff] at found ⊢
  cases found with
  | classBased exposed own based other listed =>
    cases h with | node _ fields =>
    obtain _ | ⟨declaration, _ | _⟩ := fields
    cases declaration with | node _ fields =>
    obtain _ | ⟨declared, _ | ⟨_, _ | ⟨_, _ | ⟨_, _ | ⟨super, _ | ⟨_, _ | ⟨_, _ | ⟨_, _ | ⟨_, _ | _⟩⟩⟩⟩⟩⟩⟩⟩⟩
      := fields
    obtain ⟨name, o, d, rfl, rfl⟩ := declared.eq_identifier
    obtain ⟨kept, same⟩ := eq_of_exposed exposed
    rw [same] at exposed own ⊢
    exact ⟨.classBased exposed own (super.baseName? (bases _ listed) based) other listed, kept, exposed⟩
  | functional exposed upper markup =>
    cases h with | node _ fields =>
    obtain _ | ⟨declaration, _ | _⟩ := fields
    cases declaration with | node _ fields =>
    obtain _ | ⟨⟨⟩, _ | ⟨_, _ | ⟨list, _ | _⟩⟩⟩ := fields
    cases list with | list items =>
    obtain _ | ⟨declarator, _ | _⟩ := items
    cases declarator with | node _ fields =>
    obtain _ | ⟨declared, _ | ⟨init, _ | ⟨_, _ | _⟩⟩⟩ := fields
    obtain ⟨name, o, d, rfl, rfl⟩ := declared.eq_identifier
    obtain ⟨kept, same⟩ := eq_of_exposed exposed
    rw [same] at exposed upper ⊢
    exact ⟨.functional exposed upper (init.endsWithMarkup markup), kept, exposed⟩

end Pass

theorem Component.ofItem?_wrappedExport (config : Config) (wrapper : Identifier) (name : String) :
    ofItem? config (wrappedExport wrapper name) = none := by
  have other : endWithMarkup (statements (.callExpression (some .made) wrapper.toTree
      [.element none (Identifier.made (internalName name)).toTree] .absent)) = false := rfl
  rw [wrappedExport, Identifier.toTree, ofItem?, other, Bool.and_false]
  rfl

theorem Component.ofItem?_wrapperImport (config : Config) (wrapper : Identifier) (path : String) :
    ofItem? config (wrapperImport wrapper path) = none := rfl

end MessageExtraction
