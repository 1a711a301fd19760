import MessageExtraction.Proofs.Extraction.Renaming
import MessageExtraction.Proofs.Extraction.Succession

/-!
# The items of a module

A run walks over the items of a module one by one, and collects the components among them.

* `walkItems_rewrites`: every item is rewritten.
* `mem_planned`, `of_mem_planned`: the names collected are those of the exported components.
* `walk_of_settledItems`: a module of settled items without components stays as it is.
-/

namespace MessageExtraction

open Syntax (Tree Span Identifier)
open Component (renamed internalName rename renameAll)

/-! ## What a walk knows of components -/

namespace Session

/-- Whether taking in findings leaves something of a session as it is. -/
def Leaves {α : Type} (file : SourceFile) (f : Session → α) : Prop :=
  ∀ s findings, f (s.recordAll file findings) = f s

/-- The components that have been wrapped, and what the wrapping function is called. -/
def wrapping (session : Session) : List String × Option Identifier :=
  (session.converted, session.wrapper)

theorem record_wrapping (file : SourceFile) (session : Session) (finding : Finding) :
    (session.record file finding).wrapping = session.wrapping := by
  rw [record]
  split
  · rfl
  split
  · rfl
  · rfl
  · split <;> rfl

theorem recordAll_wrapping (file : SourceFile) (session : Session) (findings : List Finding) :
    (session.recordAll file findings).wrapping = session.wrapping := by
  induction findings generalizing session with
  | nil => rfl
  | cons finding findings ih => exact (ih _).trans (record_wrapping file session finding)

end Session

namespace Pass

variable {pass : Pass} {r : Registry} {α : Type} {f : Session → α}

mutual
/-- Below the items of a module, a walk leaves in a session what taking in findings leaves. -/
theorem walk_leaves (left : Session.Leaves pass.file f) : (t : Tree) → {s : Session} → t.IsFlat →
    f (pass.walk s t).2 = f s
  | t, s, flat => by
    rw [walk.eq_def]
    split
    · rename_i span callee args types
      obtain ⟨flatCallee, flatArgs, flatTypes⟩ := flat.call
      split
      · rfl
      split
      · dsimp only
        rw [walk_leaves left types flatTypes, walkAll_leaves left args flatArgs,
          walk_leaves left callee flatCallee]
      dsimp only
      split
      · rw [walk_leaves left types flatTypes, walkArguments_leaves left args flatArgs,
          walk_leaves left callee flatCallee, left]
      split
      · rw [left]
      · dsimp only
        rw [walk_leaves left types flatTypes, walkAll_leaves left args flatArgs,
          walk_leaves left callee flatCallee, left, left]
    · rename_i span name attributes closing types
      obtain ⟨flatName, flatAttributes, flatTypes⟩ := flat.tag
      split
      · rfl
      · dsimp only
        rw [walk_leaves left types flatTypes, walkAll_leaves left attributes flatAttributes,
          walk_leaves left name flatName, left]
    · exact absurd rfl (Syntax.Tree.isFlat_node.mp flat).1
    · exact walkAll_leaves left _ (Syntax.Tree.isFlat_node.mp flat).2
    · exact walkAll_leaves left _ flat
    · rfl
termination_by t => sizeOf t

theorem walkAll_leaves (left : Session.Leaves pass.file f) : (ts : List Tree) → {s : Session} →
    Syntax.Tree.AreFlat ts → f (pass.walkAll s ts).2 = f s
  | [], _, _ => rfl
  | t :: ts, s, flat => by
    rw [Syntax.Tree.areFlat_cons] at flat
    rw [walkAll]
    dsimp only
    rw [walkAll_leaves left ts flat.2, walk_leaves left t flat.1]
termination_by ts => sizeOf ts

theorem walkArguments_leaves (left : Session.Leaves pass.file f) : (ts : List Tree) → {s : Session} →
    {replacement : Option Tree} → Syntax.Tree.AreFlat ts →
    f (pass.walkArguments s replacement ts).2 = f s
  | [], _, _, _ => rfl
  | t :: ts, s, none, flat => by
    rw [Syntax.Tree.areFlat_cons] at flat
    rw [walkArguments]
    dsimp only
    rw [walkAll_leaves left ts flat.2, walk_leaves left t flat.1]
  | t :: ts, s, some e, flat => by
    rw [Syntax.Tree.areFlat_cons] at flat
    rw [walkArguments]
    dsimp only
    rw [walkAll_leaves left ts flat.2]
termination_by ts => sizeOf ts
end

/-- Only the items of a module say what is wrapped. -/
theorem walk_wrapping {t : Tree} {s : Session} (flat : t.IsFlat) :
    (pass.walk s t).2.wrapping = s.wrapping :=
  walk_leaves (Session.recordAll_wrapping pass.file) t flat

/-! ## Items -/

/-- The walk over one item. -/
def walkItem (pass : Pass) (s : Session) (item : Tree) : Tree × Session :=
  pass.walk { s with component := (Component.ofItem? pass.config item).map Component.kind } item

/-- The name collected for one item, and the session behind it. -/
def planItem (pass : Pass) (s : Session) (item : Tree) : Option String × Session :=
  Session.plan { (pass.walkItem s item).2 with component := none }
    (Component.ofItem? pass.config item)

/-- What one item adds to a walk over items that does not fail. -/
theorem walkItems_cons {item : Tree} {items : List Tree} {s : Session}
    (ok : (pass.walkItems s (item :: items)).2.failed = false) :
    (pass.walkItem s item).2.failed = false
      ∧ pass.walkItems s (item :: items)
        = (((pass.walkItem s item).1, (pass.planItem s item).1)
              :: (pass.walkItems (pass.planItem s item).2 items).1,
            (pass.walkItems (pass.planItem s item).2 items).2) := by
  rw [walkItems] at ok ⊢
  dsimp only at ok ⊢
  split at ok
  · rename_i failed
    rw [failed] at ok
    contradiction
  · rename_i started
    exact ⟨Bool.eq_false_iff.mpr started, by rw [if_neg started]; rfl⟩

theorem walkItem_wrapping {item : Tree} {s : Session} (flat : item.IsFlat) :
    (pass.walkItem s item).2.wrapping = s.wrapping := walk_wrapping flat

/-- A component is collected unless it has been converted already. -/
theorem planItem_some {item : Tree} {component : Component} {s : Session} (flat : item.IsFlat)
    (found : Component.ofItem? pass.config item = some component) :
    if component.identifier.name ∈ s.converted then
      (pass.planItem s item).1 = none ∧ (pass.planItem s item).2.wrapping = s.wrapping
    else
      (pass.planItem s item).1 = some component.identifier.name
        ∧ (pass.planItem s item).2.wrapping
          = (s.converted ++ [component.identifier.name, internalName component.identifier.name],
              s.wrapper) := by
  have kept : (pass.walkItem s item).2.wrapping = s.wrapping := walkItem_wrapping flat
  rw [Session.wrapping, Session.wrapping, Prod.mk.injEq] at kept
  rw [planItem, found, Session.plan, kept.1]
  dsimp only
  split
  · exact ⟨rfl, congrArg₂ Prod.mk kept.1 kept.2⟩
  · exact ⟨rfl, congrArg₂ Prod.mk rfl kept.2⟩

theorem planItem_none {item : Tree} {s : Session} (flat : item.IsFlat)
    (found : Component.ofItem? pass.config item = none) :
    (pass.planItem s item).1 = none ∧ (pass.planItem s item).2.wrapping = s.wrapping := by
  rw [planItem, found]
  exact ⟨rfl, walkItem_wrapping flat⟩

/-- Every item of a module is rewritten. -/
theorem walkItems_rewrites {names : List String} (defined : "undefined" ∉ names) {items : List Tree}
    {s : Session} (flat : Syntax.Tree.AreFlat items) (ok : (pass.walkItems s items).2.failed = false)
    (held : ∀ finding ∈ pass.surveyAll items, finding.IsHeld r) :
    pass.RewritesAll r names items
      ((pass.walkItems s items).1.map fun pair => rename names pair.1) := by
  induction items generalizing s with
  | nil => exact .nil
  | cons item items ih =>
    obtain ⟨walked, eq⟩ := walkItems_cons ok
    rw [Syntax.Tree.areFlat_cons] at flat
    rw [eq] at ok ⊢
    exact .cons
      (walk_rewrites item defined flat.1 walked fun f hf => held f (List.mem_append_left _ hf))
      (ih flat.2 ok fun f hf => held f (List.mem_append_right _ hf))

/-- The names of the components that a walk over the items of a module collects. -/
def planned (pass : Pass) (s : Session) (items : List Tree) : List String :=
  (pass.walkItems s items).1.filterMap Prod.snd

theorem planned_cons {item : Tree} {items : List Tree} {s : Session}
    (ok : (pass.walkItems s (item :: items)).2.failed = false) :
    pass.planned s (item :: items)
      = (pass.planItem s item).1.toList ++ pass.planned (pass.planItem s item).2 items := by
  rw [planned, (walkItems_cons ok).2, List.filterMap_cons]
  cases (pass.planItem s item).1 <;> rfl

/-- A walk over the items settles nothing about the wrapping function. -/
theorem walkItems_wrapper {items : List Tree} {s : Session} (flat : Syntax.Tree.AreFlat items)
    (ok : (pass.walkItems s items).2.failed = false) :
    (pass.walkItems s items).2.wrapper = s.wrapper := by
  induction items generalizing s with
  | nil => rfl
  | cons item items ih =>
    obtain ⟨-, eq⟩ := walkItems_cons ok
    rw [Syntax.Tree.areFlat_cons] at flat
    rw [eq] at ok ⊢
    rw [ih flat.2 ok]
    cases found : Component.ofItem? pass.config item with
    | none => exact congrArg Prod.snd (planItem_none flat.1 found).2
    | some component =>
      have := @planItem_some pass _ _ s flat.1 found
      split at this
      · exact congrArg Prod.snd this.2
      · exact congrArg Prod.snd this.2

/-- A name is collected only for a component. -/
theorem of_mem_planned {items : List Tree} {s : Session} (flat : Syntax.Tree.AreFlat items)
    (ok : (pass.walkItems s items).2.failed = false) {name : String}
    (mem : name ∈ pass.planned s items) :
    ∃ item ∈ items, ∃ component, Component.ofItem? pass.config item = some component
      ∧ component.identifier.name = name := by
  induction items generalizing s with
  | nil => contradiction
  | cons item items ih =>
    rw [planned_cons ok, List.mem_append] at mem
    rw [Syntax.Tree.areFlat_cons] at flat
    rw [(walkItems_cons ok).2] at ok
    rcases mem with mem | mem
    · refine ⟨item, List.mem_cons_self, ?_⟩
      cases found : Component.ofItem? pass.config item with
      | none =>
        rw [(planItem_none flat.1 found).1] at mem
        contradiction
      | some component =>
        refine ⟨component, rfl, ?_⟩
        have plan := @planItem_some pass _ _ s flat.1 found
        split at plan
        · rw [plan.1] at mem
          contradiction
        · rw [plan.1] at mem
          exact (List.mem_singleton.mp mem).symm
    · obtain ⟨item', mem', found⟩ := ih flat.2 ok mem
      exact ⟨item', List.mem_cons_of_mem _ mem', found⟩

/-- The name of each component has been converted already or is collected. -/
theorem mem_planned {items : List Tree} {s : Session} (flat : Syntax.Tree.AreFlat items)
    (ok : (pass.walkItems s items).2.failed = false) {item : Tree} (mem : item ∈ items)
    {component : Component} (found : Component.ofItem? pass.config item = some component)
    (exposed : Component.isInternal component.identifier.name = false) :
    component.identifier.name ∈ s.converted
      ∨ component.identifier.name ∈ pass.planned s items := by
  induction items generalizing s with
  | nil => contradiction
  | cons first items ih =>
    rw [planned_cons ok, List.mem_append]
    rw [Syntax.Tree.areFlat_cons] at flat
    rw [(walkItems_cons ok).2] at ok
    rcases List.mem_cons.mp mem with rfl | mem
    · have plan := @planItem_some pass _ _ s flat.1 found
      split at plan
      · exact .inl ‹_›
      · rw [plan.1]
        exact .inr (.inl List.mem_cons_self)
    · rcases ih flat.2 ok mem with converted | later
      · cases found' : Component.ofItem? pass.config first with
        | none =>
          have kept : (pass.planItem s first).2.converted = s.converted :=
            congrArg Prod.fst (planItem_none flat.1 found').2
          exact .inl (kept ▸ converted)
        | some other =>
          have plan := @planItem_some pass _ _ s flat.1 found'
          split at plan
          · have kept : (pass.planItem s first).2.converted = s.converted :=
              congrArg Prod.fst plan.2
            exact .inl (kept ▸ converted)
          · have grown : (pass.planItem s first).2.converted = _ := congrArg Prod.fst plan.2
            rw [grown] at converted
            rw [plan.1]
            simp only [List.mem_append, List.mem_cons, List.not_mem_nil, or_false] at converted
            rcases converted with converted | eq | eq
            · exact .inl converted
            · exact .inr (.inl (by simp [eq]))
            · rw [eq, Component.isInternal_internalName] at exposed
              contradiction
      · exact .inr (.inr later)

/-! ## Modules of settled items -/

/-- Whether an item is settled and exports no component. -/
def SettledItem (pass : Pass) (r : Registry) (item : Tree) : Prop :=
  pass.Settled r item ∧ Component.ofItem? pass.config item = none

theorem walkItems_of_settled {items : List Tree} {s : Session}
    (h : ∀ item ∈ items, pass.SettledItem r item) :
    (pass.walkItems s items).1 = items.map (·, none) := by
  induction items generalizing s with
  | nil => rfl
  | cons item items ih =>
    obtain ⟨settled, other⟩ := h item List.mem_cons_self
    rw [walkItems, other]
    dsimp only
    rw [walk_of_settled item settled]
    split
    · rfl
    · rw [Session.plan, ih fun item mem => h item (List.mem_cons_of_mem _ mem)]
      rfl

/-- Without components there is nothing to finish. -/
theorem finishItems_of_none (s : Session) (items : List Tree) :
    pass.finishItems s (items.map (·, none)) = (items, s) := by
  have fst : (items.map fun item => (item, (none : Option String))).map Prod.fst = items := by
    simp [Function.comp_def]
  have none : (items.map fun item => (item, (none : Option String))).filterMap Prod.snd = [] := by
    simp [List.filterMap_map]
  rw [finishItems]
  split
  · rw [fst]
  · rw [wrapAll, none]
    dsimp only
    rw [fst]

/-- A module of settled items stays as it is. -/
theorem walk_of_settledItems {span : Option Span} {items : List Tree} {interpreter : Tree}
    {s : Session} (h : ∀ item ∈ items, pass.SettledItem r item) :
    (pass.walk s (.sourceModule span items interpreter)).1
      = .sourceModule span items interpreter := by
  rw [walk]
  split
  · rfl
  · dsimp only
    rw [walkItems_of_settled h, finishItems_of_none]

end Pass

end MessageExtraction
