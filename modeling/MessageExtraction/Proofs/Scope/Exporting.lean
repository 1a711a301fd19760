import MessageExtraction.Import.Basic
import MessageExtraction.Proofs.Scope.Declaring

/-!
# What a module exports

The names under which the items of a module export values: declared variables, functions and classes, the
names of export lists, and the name of the default export. Types are no values, and what is exported from
another module without a name is left out.

* `OutlinesItem`: two items that agree in what exports are made of, with new names for old ones. An export
  list keeps its names, but for those that are bound to other modules.
* `OutlinesItem.exportedNames`: such items export the same names if none of these gets a new one.
-/

namespace MessageExtraction.Syntax.Tree

open Import (exportName?)

/-! ## Exported names -/

/-- The name under which a specifier of an export list exports a value. -/
def specifierExport? : Tree → Option String
  | .node .exportSpecifier _ [original, exported, typeOnly] =>
      if typeOnly = .flag true then none
      else if exported = .absent then exportName? original
      else exportName? exported
  | .node .exportNamespaceSpecifier _ [name] => exportName? name
  | .node .exportDefaultSpecifier _ [exported] => exportName? exported
  | _ => none

/-- The names under which an item exports values. -/
def exportedNames : Tree → List String
  | .exportDeclaration _ declaration => declaration.declarationNames
  | .node .exportNamedDeclaration _ [.list specifiers, _, typeOnly, _] =>
      if typeOnly = .flag true then [] else specifiers.filterMap specifierExport?
  | .node .exportDefaultDeclaration _ [declaration] =>
      if declaration.kind? = some .tsInterfaceDeclaration then [] else ["default"]
  | .node .exportDefaultExpression _ [_] => ["default"]
  | _ => []

/-! ## Outlines of exports -/

variable {rename : String → String} {t u : Tree} {ts us : List Tree}

/-- Whether two specifiers agree in what exports are made of, with new names for old ones. One that names an
export of the module itself keeps its names. -/
structure OutlinesSpecifier (rename : String → String) (t u : Tree) : Prop where
  outlines : Outlines rename t u
  listed : ∀ {span fields}, t = .node .exportSpecifier span fields →
    ∃ fields', u = .node .exportSpecifier span fields' ∧ OutlinesAll id fields fields'

/-- Whether two items agree in what exports are made of, with new names for old ones. -/
structure OutlinesItem (rename : String → String) (t u : Tree) : Prop where
  outlines : Outlines rename t u
  listed : ∀ {span specifiers fields},
    t = .node .exportNamedDeclaration span (.list specifiers :: fields) →
      ∃ specifiers' fields', u = .node .exportNamedDeclaration span (.list specifiers' :: fields')
        ∧ List.Forall₂ (OutlinesSpecifier rename) specifiers specifiers'

theorem Outlines.kind? (h : Outlines rename t u) : u.kind? = t.kind? := by
  cases h <;> rfl

theorem Outlines.eq_flag_iff (h : Outlines rename t u) (b : Bool) : u = .flag b ↔ t = .flag b := by
  cases h <;> simp

theorem Outlines.eq_absent_iff (h : Outlines rename t u) : u = .absent ↔ t = .absent := by
  cases h <;> simp

theorem Outlines.exportName? (h : Outlines rename t u)
    (fixed : ∀ name ∈ Import.exportName? t, rename name = name) :
    Import.exportName? u = Import.exportName? t := by
  rw [Import.exportName?.eq_def t] at fixed ⊢
  split at fixed
  · cases h with
    | identifier => exact congrArg some (fixed _ rfl)
    | node unnamed => contradiction
  · cases h with | node _ parts =>
    obtain _ | ⟨⟨⟩, _ | ⟨_, _ | _⟩⟩ := parts rfl
    rfl
  · rename_i named quoted
    rw [Import.exportName?.eq_def u]
    split
    · cases h with
      | identifier => exact absurd rfl (named _ _ _ _)
      | node unnamed parts =>
        obtain _ | ⟨⟨⟩, _ | ⟨_, _ | ⟨_, _ | _⟩⟩⟩ := parts rfl
        contradiction
    · cases h with | node _ parts =>
      obtain _ | ⟨⟨⟩, _ | ⟨_, _ | _⟩⟩ := parts rfl
      exact absurd rfl (quoted _ _ _)
    · rfl

theorem OutlinesSpecifier.specifierExport? (h : OutlinesSpecifier rename t u)
    (fixed : ∀ name ∈ t.specifierExport?, rename name = name) :
    u.specifierExport? = t.specifierExport? := by
  rw [Tree.specifierExport?.eq_def t] at fixed ⊢
  split at fixed
  · obtain ⟨fields', rfl, parts⟩ := h.listed rfl
    obtain _ | ⟨original, _ | ⟨exported, _ | ⟨typeOnly, _ | _⟩⟩⟩ := parts
    rw [Tree.specifierExport?]
    simp only [typeOnly.eq_flag_iff, exported.eq_absent_iff, original.exportName? fun _ _ => rfl,
      exported.exportName? fun _ _ => rfl]
  · cases h.outlines with | node _ parts =>
    obtain _ | ⟨name, _ | _⟩ := parts rfl
    exact name.exportName? fixed
  · cases h.outlines with | node _ parts =>
    obtain _ | ⟨name, _ | _⟩ := parts rfl
    exact name.exportName? fixed
  · rename_i own namespaced single
    rw [Tree.specifierExport?.eq_def u]
    split
    · cases h.outlines with | node =>
      obtain ⟨_, eq, parts⟩ := h.listed rfl
      cases eq
      obtain _ | ⟨_, _ | ⟨_, _ | ⟨_, _ | _⟩⟩⟩ := parts
      exact absurd rfl (own _ _ _ _)
    · cases h.outlines with | node _ parts =>
      obtain _ | ⟨_, _ | _⟩ := parts rfl
      exact absurd rfl (namespaced _ _)
    · cases h.outlines with | node _ parts =>
      obtain _ | ⟨_, _ | _⟩ := parts rfl
      exact absurd rfl (single _ _)
    · rfl

theorem filterMap_specifierExport? (h : List.Forall₂ (OutlinesSpecifier rename) ts us)
    (fixed : ∀ name ∈ ts.filterMap specifierExport?, rename name = name) :
    us.filterMap specifierExport? = ts.filterMap specifierExport? := by
  induction h with
  | nil => rfl
  | @cons t u ts us head _ ih =>
    have same : u.specifierExport? = t.specifierExport? := head.specifierExport? fun name named =>
      fixed name (List.mem_filterMap.mpr ⟨t, List.mem_cons_self, named⟩)
    have rest := ih fun name mem =>
      let ⟨s, later, named⟩ := List.mem_filterMap.mp mem
      fixed name (List.mem_filterMap.mpr ⟨s, List.mem_cons_of_mem _ later, named⟩)
    rw [List.filterMap_cons, List.filterMap_cons, same, rest]

/-- An exported declaration exports what it declares, under new names if it has them. -/
theorem Outlines.exportedNames {span : Option Span} {declaration : Tree}
    (h : Outlines rename (.exportDeclaration span declaration) u) :
    u.exportedNames = declaration.declarationNames.map rename := by
  cases h with | node _ parts =>
  obtain _ | ⟨declared, _ | _⟩ := parts rfl
  exact declared.declarationNames

/-- Items that agree export the same names if these stay as they are. -/
theorem OutlinesItem.exportedNames (h : OutlinesItem rename t u)
    (fixed : ∀ name ∈ t.exportedNames, rename name = name) : u.exportedNames = t.exportedNames := by
  rw [Tree.exportedNames.eq_def t] at fixed ⊢
  split at fixed
  · rw [h.outlines.exportedNames, List.map_congr_left fixed, List.map_id']
  · obtain ⟨specifiers', fields', rfl, specifiers⟩ := h.listed rfl
    cases h.outlines with | node _ parts =>
    obtain _ | ⟨_, _ | ⟨_, _ | ⟨typeOnly, _ | ⟨_, _ | _⟩⟩⟩⟩ := parts rfl
    rw [Tree.exportedNames]
    simp only [typeOnly.eq_flag_iff]
    split at fixed
    · rename_i types
      rw [if_pos types, if_pos types]
    · rename_i values
      rw [if_neg values, if_neg values, filterMap_specifierExport? specifiers fixed]
  · cases h.outlines with | node _ parts =>
    obtain _ | ⟨declaration, _ | _⟩ := parts rfl
    rw [Tree.exportedNames, declaration.kind?]
  · cases h.outlines with | node _ parts =>
    obtain _ | ⟨_, _ | _⟩ := parts rfl
    rfl
  · rename_i declaration list default expression
    rw [Tree.exportedNames.eq_def u]
    split
    · cases h.outlines with | node _ parts =>
      obtain _ | ⟨_, _ | _⟩ := parts rfl
      exact absurd rfl (declaration _ _)
    · cases h.outlines with | node _ parts =>
      obtain _ | ⟨⟨⟩, _ | ⟨_, _ | ⟨_, _ | ⟨_, _ | _⟩⟩⟩⟩ := parts rfl
      exact absurd rfl (list _ _ _ _ _)
    · cases h.outlines with | node _ parts =>
      obtain _ | ⟨_, _ | _⟩ := parts rfl
      exact absurd rfl (default _ _)
    · cases h.outlines with | node _ parts =>
      obtain _ | ⟨_, _ | _⟩ := parts rfl
      exact absurd rfl (expression _ _)
    · rfl

end MessageExtraction.Syntax.Tree
