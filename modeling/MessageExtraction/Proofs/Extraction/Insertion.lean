import MessageExtraction.Proofs.Extraction.Interface
import MessageExtraction.Proofs.Extraction.Transformed

/-!
# What is inserted into a module

Where a module goes, item by item, in a run without a fault.

* `Component.converted?`: an item is converted if it exports a component and no item before it exports one
  of that name.
* `walkItems_components`: these are the components that a walk over the items collects.
* `extract_eq_inserted`, `extract_inserted`: the output is every item in its place, transformed and renamed,
  the converted ones each followed by the export that wraps it, behind the import of the wrapping function
  if that was missing.
-/

namespace MessageExtraction

open Syntax (Tree Span Identifier)
open Component (rename renameAll internalName wrappedExport wrapperImport insertExports namesOf)

namespace Component

/-- The name of the component that an item exports, unless it is taken. -/
def untaken? (config : Config) (taken : List String) (item : Tree) : Option String :=
  (ofItem? config item).bind fun component =>
    if component.identifier.name ∈ taken then none else some component.identifier.name

/-- The name of the component that is converted with item number `i` of a module: the one that it exports,
unless an item before it exports one of that name. -/
def converted? (config : Config) (items : List Tree) (i : Nat) (item : Tree) : Option String :=
  untaken? config (namesOf config (items.take i)) item

variable {config : Config} {item : Tree} {items : List Tree} {taken taken' : List String} {name : String}

theorem namesOf_cons (item : Tree) (items : List Tree) :
    namesOf config (item :: items) = namesOf config [item] ++ namesOf config items :=
  List.filterMap_append (l := [item])

theorem untaken?_congr (same : ∀ name, isInternal name = false → (name ∈ taken ↔ name ∈ taken')) :
    untaken? config taken item = untaken? config taken' item := by
  rw [untaken?, untaken?]
  cases found : ofItem? config item with
  | none => rfl
  | some component =>
    have := same _ (itemNames_of_ofItem? found).2
    simp only [Option.bind_some, this]

theorem untaken?_eq_some_iff :
    untaken? config taken item = some name ↔ name ∈ namesOf config [item] ∧ name ∉ taken := by
  rw [untaken?, namesOf]
  cases found : ofItem? config item with
  | none => simp [found]
  | some component =>
    simp only [Option.bind_some, List.filterMap_cons, found, Option.map_some, List.filterMap_nil,
      List.mem_singleton, Option.ite_none_left_eq_some, Option.some.injEq]
    constructor
    · rintro ⟨fresh, rfl⟩
      exact ⟨rfl, fresh⟩
    · rintro ⟨rfl, fresh⟩
      exact ⟨fresh, rfl⟩

/-- The names of components that are not taken and that no earlier item has. -/
def freshNames (config : Config) (taken : List String) (items : List Tree) : List String :=
  (items.mapIdx fun i item => untaken? config (taken ++ namesOf config (items.take i)) item).reduceOption

theorem freshNames_cons :
    freshNames config taken (item :: items)
      = (untaken? config taken item).toList ++ freshNames config (taken ++ namesOf config [item]) items := by
  have first : taken ++ namesOf config ((item :: items).take 0) = taken := List.append_nil taken
  have rest (i : Nat) : taken ++ namesOf config ((item :: items).take (i + 1))
      = taken ++ namesOf config [item] ++ namesOf config (items.take i) := by
    rw [List.take_succ_cons, namesOf_cons item, List.append_assoc]
  rw [freshNames, freshNames, List.mapIdx_cons, first]
  simp only [rest]
  cases untaken? config taken item <;> rfl

theorem mem_freshNames :
    name ∈ freshNames config taken items ↔ name ∈ namesOf config items ∧ name ∉ taken := by
  induction items generalizing taken with
  | nil => exact iff_of_false List.not_mem_nil fun here => absurd here.1 List.not_mem_nil
  | cons item items ih =>
    rw [freshNames_cons, List.mem_append, Option.mem_toList, untaken?_eq_some_iff, ih,
      namesOf_cons item items, List.mem_append, List.mem_append]
    tauto

theorem nodup_freshNames : (freshNames config taken items).Nodup := by
  induction items generalizing taken with
  | nil => exact List.nodup_nil
  | cons item items ih =>
    rw [freshNames_cons, List.nodup_append]
    refine ⟨Option.toList_nodup _, ih, ?_⟩
    rintro name first _ later rfl
    rw [Option.mem_toList, untaken?_eq_some_iff] at first
    exact (mem_freshNames.mp later).2 (List.mem_append_right _ first.1)

theorem insertExports_eq_flatten (wrapper : Identifier) (pairs : List (Tree × Option String)) :
    insertExports wrapper pairs
      = (pairs.map fun pair => pair.1 :: (pair.2.map (wrappedExport wrapper)).toList).flatten := by
  induction pairs with
  | nil => rfl
  | cons pair pairs ih =>
    obtain ⟨item, _ | name⟩ := pair <;> rw [insertExports, ih] <;> rfl

end Component

open Component (untaken? converted?)

namespace Pass

variable {pass : Pass}

/-- A walk collects the component of an item unless that has been converted already. -/
theorem planItem_eq {item : Tree} {s : Session} (flat : item.IsFlat) :
    (pass.planItem s item).1 = untaken? pass.config s.converted item
      ∧ ∀ name, Component.isInternal name = false →
          (name ∈ (pass.planItem s item).2.converted
            ↔ name ∈ s.converted ∨ name ∈ namesOf pass.config [item]) := by
  rw [untaken?, namesOf]
  cases found : Component.ofItem? pass.config item with
  | none =>
    obtain ⟨plan, kept⟩ := @planItem_none pass item s flat found
    have kept : (pass.planItem s item).2.converted = s.converted := congrArg Prod.fst kept
    refine ⟨plan, fun name _ => ?_⟩
    rw [kept]
    simp [found]
  | some component =>
    have plan := @planItem_some pass item component s flat found
    split at plan
    · rename_i mem
      have kept : (pass.planItem s item).2.converted = s.converted := congrArg Prod.fst plan.2
      refine ⟨by simp [plan.1, mem], fun name _ => ?_⟩
      rw [kept]
      simp only [found, List.filterMap_cons, Option.map_some, List.filterMap_nil, List.mem_singleton]
      exact ⟨.inl, fun h => h.elim id fun eq => eq ▸ mem⟩
    · rename_i fresh
      have grown : (pass.planItem s item).2.converted = _ := congrArg Prod.fst plan.2
      refine ⟨by simp [plan.1, fresh], fun name exposed => ?_⟩
      have other : name ≠ internalName component.identifier.name := by
        rintro rfl
        rw [Component.isInternal_internalName] at exposed
        contradiction
      rw [grown]
      simp [found, other]

/-- The components that a walk over items collects: each that is the first of its name and has not been
converted before. -/
theorem walkItems_components {items : List Tree} {s : Session} (flat : Syntax.Tree.AreFlat items)
    (ok : (pass.walkItems s items).2.failed = false) :
    (pass.walkItems s items).1.map Prod.snd
      = items.mapIdx fun i item =>
          untaken? pass.config (s.converted ++ namesOf pass.config (items.take i)) item := by
  induction items generalizing s with
  | nil => rfl
  | cons item items ih =>
    obtain ⟨-, eq⟩ := walkItems_cons ok
    rw [Syntax.Tree.areFlat_cons] at flat
    rw [eq] at ok ⊢
    obtain ⟨plan, grown⟩ := @planItem_eq pass item s flat.1
    rw [List.map_cons, ih flat.2 ok, List.mapIdx_cons, plan]
    refine congrArg₂ List.cons (by simp [namesOf]) ?_
    -- an item behind the first has a name that is taken by the first, or before or behind it
    congr 1
    funext i later
    refine Component.untaken?_congr fun name exposed => ?_
    rw [List.take_succ_cons, List.mem_append, grown name exposed, List.mem_append, or_assoc,
      Component.namesOf_cons item (items.take i), List.mem_append]

/-- The names of the components that a run converts. -/
def convertedNames (pass : Pass) (items : List Tree) : List String :=
  (items.mapIdx (converted? pass.config items)).reduceOption

/-- The import of the wrapping function, if a component is converted and the module has none. -/
def missingImport (pass : Pass) (items : List Tree) : List Tree :=
  if pass.convertedNames items ≠ []
      ∧ pass.imports.find? pass.config.wrapperModule (.named pass.config.wrapperFunction) = none then
    [wrapperImport (.made pass.config.wrapperFunction) pass.config.wrapperModule]
  else []

/-- What an item becomes: itself, transformed and renamed, and behind it the export that wraps its component
if that is converted. -/
def insertedItem (pass : Pass) (items : List Tree) (i : Nat) (item : Tree) : List Tree :=
  rename (pass.convertedNames items)
      (pass.transformed ((Component.ofItem? pass.config item).map Component.kind) item)
    :: ((converted? pass.config items i item).map (wrappedExport (pass.wrapper {}).1)).toList

theorem map_zip_mapIdx {α β γ δ : Type} (f : α → β) (g : Nat → α → γ) (h : β × γ → δ) (xs : List α) :
    ((xs.map f).zip (xs.mapIdx g)).map h = xs.mapIdx fun i x => h (f x, g i x) := by
  induction xs generalizing g with
  | nil => rfl
  | cons x xs ih =>
    rw [List.map_cons, List.mapIdx_cons, List.zip_cons_cons, List.map_cons, ih, List.mapIdx_cons]

/-- Renamed items with the exports that wrap their components, and the import of the wrapping function if it
is missing. -/
theorem insertWrapped_eq {s : Session} {pairs : List (Tree × Option String)} (fresh : s.wrapper = none) :
    pass.insertWrapped s pairs
      = (if pairs.filterMap Prod.snd ≠ []
            ∧ pass.imports.find? pass.config.wrapperModule (.named pass.config.wrapperFunction) = none then
          [wrapperImport (.made pass.config.wrapperFunction) pass.config.wrapperModule]
        else [])
        ++ (pairs.map fun pair =>
            pair.1 :: (pair.2.map (wrappedExport (pass.wrapper {}).1)).toList).flatten := by
  have missing := @wrapper_missing_iff pass s fresh
  rw [insertWrapped, ← wrapper_of_fresh fresh, ← Component.insertExports_eq_flatten]
  split
  · rename_i h
    rw [if_pos ⟨h.2, missing.mp h.1⟩, wrapper_of_missing fresh h.1]
    rfl
  · rename_i h
    rw [if_neg fun h' => h ⟨missing.mpr h'.2, h'.1⟩]
    rfl

section Module

variable {span : Option Span} {items : List Tree} {interpreter : Tree}

/-- A walk without a fault keeps what the items declare and export. -/
theorem outlinesItem_transformed (flat : Syntax.Tree.AreFlat items)
    (ok : (pass.walkItems {} items).2.failed = false) {item : Tree} (mem : item ∈ items) :
    Syntax.Tree.OutlinesItem id item
      (pass.transformed ((Component.ofItem? pass.config item).map Component.kind) item) := by
  have outlines := outlinesItem_walkItems ok
  rw [walkItems_transformed flat ok, List.forall₂_map_right_iff, List.forall₂_same] at outlines
  exact outlines item mem

theorem mem_convertedNames {name : String} :
    name ∈ pass.convertedNames items ↔ name ∈ namesOf pass.config items := by
  have fresh := @Component.mem_freshNames pass.config items [] name
  exact fresh.trans (and_iff_left List.not_mem_nil)

/-- The output of a run without a fault, item by item. -/
theorem extract_eq_inserted (flat : Syntax.Tree.AreFlat items)
    (ok : (pass.extract (.sourceModule span items interpreter)).2.failed = false) :
    (pass.extract (.sourceModule span items interpreter)).1
      = .sourceModule span
          (pass.missingImport items ++ (items.mapIdx (pass.insertedItem items)).flatten) interpreter := by
  have started := (@not_failed_of_walkItems pass span items interpreter _ _ rfl ok).1
  have walked := walkItems_transformed flat started
  have components : (pass.walkItems {} items).1.map Prod.snd = items.mapIdx (converted? pass.config items) :=
    walkItems_components flat started
  have fresh : (pass.walkItems {} items).2.wrapper = none := walkItems_wrapper flat started
  have names : (pass.walkItems {} items).1.filterMap Prod.snd = pass.convertedNames items := by
    rw [convertedNames, ← components]
    exact (List.filterMap_map (f := Prod.snd) (g := id)).symm
  rw [extract, walk_module rfl, finishItems, if_neg (by simp [started]), wrapAll_eq_insertWrapped, walked,
    components, names, Component.renameAll_eq_map, List.map_map, insertWrapped_eq fresh,
    Component.filterMap_snd_zip (by simp), map_zip_mapIdx]
  rfl

/-- The output of a run without a fault: the import of the wrapping function if it was missing, and every
item in its place, the converted ones each followed by the export that wraps it. Of the components with one
name the first is converted, and no other. -/
theorem extract_inserted (flat : Syntax.Tree.AreFlat items)
    (ok : (pass.extract (.sourceModule span items interpreter)).2.failed = false) :
    (pass.extract (.sourceModule span items interpreter)).1
        = .sourceModule span
            (pass.missingImport items ++ (items.mapIdx (pass.insertedItem items)).flatten) interpreter
      ∧ (pass.convertedNames items).Nodup
      ∧ ∀ name, name ∈ pass.convertedNames items ↔ name ∈ namesOf pass.config items :=
  ⟨extract_eq_inserted flat ok, @Component.nodup_freshNames pass.config items [],
    fun _ => mem_convertedNames⟩

end Module

end Pass

/-- The pass over the module of `interfaceItems`. -/
def interfacePass : Pass :=
  .ofModule {} ⟨"a.js", ""⟩ (.sourceModule (some ⟨1, 75⟩) interfaceItems .absent)

/-- In the output of `interfaceItems` the import comes first, and the new export behind the component. -/
theorem extract_interfaceItems :
    Syntax.Tree.AreFlat interfaceItems
      ∧ (interfacePass.extract (.sourceModule (some ⟨1, 75⟩) interfaceItems .absent)).2.failed = false
      ∧ ∃ output, (interfacePass.extract (.sourceModule (some ⟨1, 75⟩) interfaceItems .absent)).1
            = .sourceModule (some ⟨1, 75⟩) output .absent
        ∧ output.length = 5
        ∧ output[0]? = some (wrapperImport (.made "injectIntl") "react-intl")
        ∧ output[1]? = (interfaceItems.map (rename ["A"]))[0]?
        ∧ output[2]? = some (wrappedExport (.made "injectIntl") "A")
        ∧ output.drop 3 = (interfaceItems.map (rename ["A"])).drop 1 := by
  have flat : Syntax.Tree.AreFlat interfaceItems := by decide
  have ok : (interfacePass.extract (.sourceModule (some ⟨1, 75⟩) interfaceItems .absent)).2.failed
      = false := rfl
  exact ⟨flat, ok, _, (Pass.extract_inserted flat ok).1, rfl, rfl, rfl, rfl, rfl⟩

end MessageExtraction
