import MessageExtraction.Proofs.Extraction.Scoping

/-!
# Imports after a run

A run renames what imports bind like any other identifier.

* `RewritesAll.imports`: the imports of a module before and after a run, one by one.
* `find?_of_becomes`: the import of a name after a run is what became of the import of that name before it.

Names that start with `_` are kept for the run: as long as a module has none, no two names are renamed to
one.
-/

namespace MessageExtraction

open Syntax (Tree Identifier)
open Component (renamed internalName isInternal)

/-! ## Names -/

namespace Component

variable {names renames : List String} {a b : String}

theorem isInternal_internalName (name : String) : isInternal (internalName name) = true := by
  simp [isInternal, internalName, String.toList_append]

theorem internalName_injective : Function.Injective internalName := by
  intro a b eq
  have := congrArg String.toList eq
  simpa [internalName, String.toList_append, String.toList_inj] using this

theorem renamed_of_mem (mem : a ∈ names) : renamed names a = internalName a := if_pos mem

theorem renamed_of_not_mem (other : a ∉ names) : renamed names a = a := if_neg other

theorem isInternal_renamed (exposed : isInternal a = false) :
    isInternal (renamed names a) = true ↔ a ∈ names := by
  by_cases mem : a ∈ names
  · simp [renamed_of_mem mem, isInternal_internalName, mem]
  · simp [renamed_of_not_mem mem, exposed, mem]

/-- Names that are not internal stay apart in a renaming. -/
theorem eq_of_renamed_eq (exposed : isInternal a = false) (exposed' : isInternal b = false)
    (eq : renamed names a = renamed renames b) : a = b ∧ (a ∈ names ↔ b ∈ renames) := by
  have both : a ∈ names ↔ b ∈ renames := by
    rw [← isInternal_renamed exposed, eq, isInternal_renamed exposed']
  refine ⟨?_, both⟩
  by_cases mem : a ∈ names
  · rw [renamed_of_mem mem, renamed_of_mem (both.mp mem)] at eq
    exact internalName_injective eq
  · rwa [renamed_of_not_mem mem, renamed_of_not_mem fun h => mem (both.mpr h)] at eq

end Component

/-! ## Imports -/

/-- What an import becomes when identifiers of the given names are renamed. -/
structure Import.Becomes (names : List String) (i i' : Import) : Prop where
  name : i'.binding.name = renamed names i.binding.name
  modulePath : i'.modulePath = i.modulePath
  imported : i'.imported = i.imported ∨ ∃ name, i'.imported = .named (internalName name)

namespace Pass

variable {pass : Pass} {r : Registry} {names : List String} {t u : Tree} {ts us : List Tree}

theorem Rewrites.eq_absent_iff (h : pass.Rewrites r names t u) : u = .absent ↔ t = .absent := by
  cases h <;> simp

theorem Rewrites.eq_flag_iff (h : pass.Rewrites r names t u) (b : Bool) :
    u = .flag b ↔ t = .flag b := by
  cases h <;> simp

theorem Rewrites.identifier? (h : pass.Rewrites r names t u) :
    u.identifier? = t.identifier?.map fun i => { i with name := renamed names i.name } := by
  ext i
  rw [Syntax.Tree.identifier?_eq_some_iff, Option.map_eq_some_iff]
  simp only [Syntax.Tree.identifier?_eq_some_iff]
  constructor
  · rintro ⟨_, _, rfl⟩
    obtain ⟨name, o, d, rfl, written⟩ := h.eq_identifier
    exact ⟨⟨name, i.span⟩, ⟨o, d, rfl⟩, by rw [← written]⟩
  · rintro ⟨i, ⟨o, d, rfl⟩, rfl⟩
    cases h with
    | identifier => exact ⟨_, _, rfl⟩
    | node plain => contradiction

theorem Rewrites.exportName? (h : pass.Rewrites r names t u) :
    Import.exportName? u = Import.exportName? t
      ∨ ∃ before name, Import.exportName? t = some before
        ∧ Import.exportName? u = some (internalName name) := by
  rw [Import.exportName?.eq_def u]
  split
  · obtain ⟨name, o, d, rfl, rfl⟩ := h.eq_identifier
    by_cases mem : name ∈ names
    · exact .inr ⟨name, name, rfl, congrArg some (Component.renamed_of_mem mem)⟩
    · exact .inl (congrArg some (Component.renamed_of_not_mem mem))
  · cases h with | node _ fields =>
    obtain _ | ⟨⟨⟩, _ | ⟨_, _ | _⟩⟩ := fields
    exact .inl rfl
  · rename_i other literal
    refine .inl ?_
    rw [Import.exportName?.eq_def]
    split
    · cases h with
      | identifier => exact absurd rfl (other _ _ _ _)
      | node plain => contradiction
    · cases h with | node _ fields =>
      obtain _ | ⟨⟨⟩, _ | ⟨_, _ | _⟩⟩ := fields
      exact absurd rfl (literal _ _ _)
    · rfl

theorem Rewrites.ofSpecifier? (path : String) (h : pass.Rewrites r names t u) :
    Option.Rel (Import.Becomes names) (Import.ofSpecifier? path t) (Import.ofSpecifier? path u) := by
  rw [Import.ofSpecifier?.eq_def path u]
  split
  · cases h with | node _ fields =>
    obtain _ | ⟨binding, _ | ⟨imported, _ | ⟨typeOnly, _ | _⟩⟩⟩ := fields
    rw [Import.ofSpecifier?, binding.identifier?]
    generalize Syntax.Tree.identifier? _ = bound
    cases bound with
    | none => exact .none
    | some i =>
      simp only [Option.map_some, Option.bind_eq_bind, Option.bind_some, typeOnly.eq_flag_iff,
        imported.eq_absent_iff]
      split
      · exact .none
      split
      · refine .some ⟨rfl, rfl, ?_⟩
        by_cases mem : i.name ∈ names
        · exact .inr ⟨i.name, congrArg _ (Component.renamed_of_mem mem)⟩
        · exact .inl (congrArg ImportedName.named (Component.renamed_of_not_mem mem))
      · rcases imported.exportName? with same | ⟨before, name, found, found'⟩
        · rw [same]
          generalize Import.exportName? _ = exported
          cases exported with
          | none => exact .none
          | some text => exact .some ⟨rfl, rfl, .inl rfl⟩
        · rw [found, found']
          exact .some ⟨rfl, rfl, .inr ⟨name, rfl⟩⟩
  · cases h with | node _ fields =>
    obtain _ | ⟨binding, _ | _⟩ := fields
    rw [Import.ofSpecifier?, binding.identifier?]
    generalize Syntax.Tree.identifier? _ = bound
    cases bound with
    | none => exact .none
    | some i => exact .some ⟨rfl, rfl, .inl rfl⟩
  · cases h with | node _ fields =>
    obtain _ | ⟨binding, _ | _⟩ := fields
    rw [Import.ofSpecifier?, binding.identifier?]
    generalize Syntax.Tree.identifier? _ = bound
    cases bound with
    | none => exact .none
    | some i => exact .some ⟨rfl, rfl, .inl rfl⟩
  · rename_i named single whole
    rw [Import.ofSpecifier?.eq_def]
    split
    · cases h with | node _ fields =>
      obtain _ | ⟨_, _ | ⟨_, _ | ⟨_, _ | _⟩⟩⟩ := fields
      exact absurd rfl (named _ _ _ _)
    · cases h with | node _ fields =>
      obtain _ | ⟨_, _ | _⟩ := fields
      exact absurd rfl (single _ _)
    · cases h with | node _ fields =>
      obtain _ | ⟨_, _ | _⟩ := fields
      exact absurd rfl (whole _ _)
    · exact .none

theorem Rewrites.ofItem (h : pass.Rewrites r names t u) :
    List.Forall₂ (Import.Becomes names) (Import.ofItem t) (Import.ofItem u) := by
  rw [Import.ofItem.eq_def u]
  split
  · rename_i path _ _ _ _
    cases h with | node _ fields =>
    obtain _ | ⟨list, _ | ⟨source, _ | ⟨typeOnly, _ | ⟨_, _ | ⟨_, _ | _⟩⟩⟩⟩⟩ := fields
    cases list with | list specifiers =>
    cases source with | node _ fields =>
    obtain _ | ⟨⟨⟩, _ | ⟨_, _ | _⟩⟩ := fields
    simp only [Import.ofItem, typeOnly.eq_flag_iff]
    split
    · exact .nil
    · exact List.rel_filterMap (fun _ _ h => Rewrites.ofSpecifier? path h) specifiers.forall₂
  · rename_i other
    rw [Import.ofItem.eq_def]
    split
    · cases h with | node _ fields =>
      obtain _ | ⟨list, _ | ⟨source, _ | ⟨_, _ | ⟨_, _ | ⟨_, _ | _⟩⟩⟩⟩⟩ := fields
      cases list with | list specifiers =>
      cases source with | node _ fields =>
      obtain _ | ⟨⟨⟩, _ | ⟨_, _ | _⟩⟩ := fields
      exact absurd rfl (other _ _ _ _ _ _ _ _)
    · exact .nil

/-- The imports of a module before and after a run, one by one. -/
theorem RewritesAll.imports (h : pass.RewritesAll r names ts us) :
    List.Forall₂ (Import.Becomes names) (ts.flatMap Import.ofItem) (us.flatMap Import.ofItem) :=
  List.rel_flatMap h.forall₂ fun _ _ h => Rewrites.ofItem h

end Pass

/-! ## Finding imports -/

theorem forall₂_find? {α β : Type} {R : α → β → Prop} {p : α → Bool} {q : β → Bool}
    {xs : List α} {ys : List β} {y : β} (h : List.Forall₂ R xs ys)
    (agree : ∀ x ∈ xs, ∀ y, R x y → p x = q y) (found : ys.find? q = some y) :
    ∃ x, xs.find? p = some x ∧ R x y := by
  induction h with
  | nil => contradiction
  | @cons x y₁ xs ys head tail ih =>
    rw [List.find?_cons] at found ⊢
    rw [agree x List.mem_cons_self y₁ head]
    split at found
    · cases found
      exact ⟨x, rfl, head⟩
    · exact ih (fun x mem => agree x (List.mem_cons_of_mem _ mem)) found

/-- The last import of a name. -/
def Imports.last? (bindings : List Import) (name : String) : Option Import :=
  bindings.reverse.find? fun i => i.binding.name = name

theorem Imports.mem_of_last? {bindings : List Import} {name : String} {i : Import}
    (h : last? bindings name = some i) : i ∈ bindings ∧ i.binding.name = name :=
  ⟨List.mem_reverse.mp (List.mem_of_find?_eq_some h), by simpa using List.find?_some h⟩

/-- The last import of a name after a renaming is what became of the last import of the name before
it. -/
theorem last?_of_becomes {names renames : List String} {bindings bindings' : List Import}
    {name : String} {i' : Import} (becomes : List.Forall₂ (Import.Becomes renames) bindings bindings')
    (exposed : Component.isInternal name = false)
    (others : ∀ i ∈ bindings, Component.isInternal i.binding.name = false)
    (found : Imports.last? bindings' (renamed names name) = some i') :
    (name ∈ renames ↔ name ∈ names)
      ∧ ∃ i, Imports.last? bindings name = some i ∧ Import.Becomes renames i i' := by
  obtain ⟨mem', named⟩ := Imports.mem_of_last? found
  obtain ⟨i₀, mem₀, becomes₀⟩ := forall₂_exists_of_mem becomes mem'
  have both : name ∈ renames ↔ name ∈ names := by
    obtain ⟨rfl, same⟩ :=
      Component.eq_of_renamed_eq (others i₀ mem₀) exposed (becomes₀.name.symm.trans named)
    exact same
  refine ⟨both, forall₂_find? (List.rel_reverse becomes) (fun i mem i' h => ?_) found⟩
  rw [h.name, decide_eq_decide]
  constructor
  · rintro rfl
    by_cases mem : i.binding.name ∈ names
    · rw [Component.renamed_of_mem mem, Component.renamed_of_mem (both.mpr mem)]
    · rw [Component.renamed_of_not_mem mem, Component.renamed_of_not_mem fun h => mem (both.mp h)]
  · exact fun eq => (Component.eq_of_renamed_eq (others i (List.mem_reverse.mp mem)) exposed eq).1

end MessageExtraction
