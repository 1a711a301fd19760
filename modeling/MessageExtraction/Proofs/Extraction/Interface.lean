import Mathlib.Data.List.Pairwise
import MessageExtraction.Proofs.Extraction.Distinct
import MessageExtraction.Proofs.Scope.Exporting

/-!
# The interface of a module

A run renames the declarations of components, and exports each component under its own name again. Here is
what that makes of the names that a module exports, where these are distinct.

* `exportsAs_image`: an item exports what it did before, but for a component, which is internal now.
* `extract_eq_insertWrapped`: the output is made of such items and of the exports that wrap components.
* `perm_insertWrapped`, `filter_insertWrapped`: what is made exports the names of the components.
* `exportedNames_extractFile`: the output exports the names of the input and the internal names of the
  components; each component is exported by the call that wraps it, and by nothing else.
-/

namespace MessageExtraction

open Syntax (Tree Span Identifier)
open Syntax.Tree (OutlinesItem OutlinesSpecifier exportedNames)
open Component (renamed internalName rename renameAll insertExports namesOf wrappedExport)

/-! ## Items -/

namespace Pass

variable {pass : Pass}

theorem outlinesSpecifier_walk (t : Tree) (s : Session) :
    OutlinesSpecifier id t (pass.walk s t).1 where
  outlines := outlines_walk t s
  listed := by
    rintro span fields rfl
    exact ⟨_, rfl, outlines_walkAll fields s⟩

theorem outlinesSpecifier_walkAll (ts : List Tree) (s : Session) :
    List.Forall₂ (OutlinesSpecifier id) ts (pass.walkAll s ts).1 := by
  induction ts generalizing s with
  | nil => exact .nil
  | cons t ts ih => exact .cons (outlinesSpecifier_walk t s) (ih _)

theorem outlinesItem_walk (t : Tree) (s : Session) : OutlinesItem id t (pass.walk s t).1 where
  outlines := outlines_walk t s
  listed := by
    rintro span specifiers fields rfl
    exact ⟨_, _, rfl, outlinesSpecifier_walkAll specifiers s⟩

theorem outlinesItem_walkItems {items : List Tree} {s : Session}
    (ok : (pass.walkItems s items).2.failed = false) :
    List.Forall₂ (OutlinesItem id) items ((pass.walkItems s items).1.map Prod.fst) := by
  induction items generalizing s with
  | nil => exact .nil
  | cons item items ih =>
    obtain ⟨-, eq⟩ := walkItems_cons ok
    rw [eq] at ok ⊢
    exact .cons (outlinesItem_walk item _) (ih ok)

end Pass

namespace Component

variable {config : Config} {items : List Tree} {item : Tree} {component : Component} {name : String}

theorem outlinesSpecifier_rename (names : List String) (t : Tree) :
    OutlinesSpecifier (renamed names) t (rename names t) where
  outlines := outlines_rename names t
  listed := by
    rintro span fields rfl
    have same := outlines_renameAll [] fields
    rw [renameAll_eq_map, List.map_congr_left fun t _ => rename_nil t, List.map_id'] at same
    exact ⟨fields, rename_exportSpecifier span fields, same⟩

theorem outlinesItem_rename (names : List String) (t : Tree) :
    OutlinesItem (renamed names) t (rename names t) where
  outlines := outlines_rename names t
  listed := by
    rintro span specifiers fields rfl
    refine ⟨_, _, rfl, ?_⟩
    rw [renameAll_eq_map, List.forall₂_map_right_iff, List.forall₂_same]
    exact fun t _ => outlinesSpecifier_rename names t

theorem eq_export_of_ofItem? (found : ofItem? config item = some component) :
    ∃ span declaration, item = .exportDeclaration span declaration
      ∧ declaration.declarationNames = [component.identifier.name] := by
  cases ofItem?_eq_some_iff.mp found with
  | classBased | functional => exact ⟨_, _, rfl, rfl⟩

/-- A component is all that its item exports. -/
theorem exportedNames_of_ofItem? (found : ofItem? config item = some component) :
    item.exportedNames = [component.identifier.name] := by
  obtain ⟨span, declaration, rfl, declared⟩ := eq_export_of_ofItem? found
  exact declared

theorem nodup_namesOf (distinct : (items.flatMap exportedNames).Nodup) :
    (namesOf config items).Nodup :=
  (namesOf_sublist_flatMap exportedNames_of_ofItem? items).nodup distinct

/-- Where exported names are distinct, each of them belongs to one item. -/
theorem eq_of_mem_exportedNames {other : Tree} (distinct : (items.flatMap exportedNames).Nodup)
    (mem : item ∈ items) (mem' : other ∈ items) (exported : name ∈ item.exportedNames)
    (exported' : name ∈ other.exportedNames) : item = other := by
  have : Std.Symm (Function.onFun List.Disjoint exportedNames) :=
    ⟨fun _ _ apart _ left right => apart right left⟩
  by_contra apart
  exact (List.nodup_flatMap.mp distinct).2.forall mem mem' apart exported exported'

/-- A component shares its name with no other export. -/
theorem not_mem_namesOf (distinct : (items.flatMap exportedNames).Nodup) (mem : item ∈ items)
    (plain : ofItem? config item = none) (exported : name ∈ item.exportedNames) :
    name ∉ namesOf config items := by
  intro named
  obtain ⟨other, mem', named⟩ := List.mem_filterMap.mp named
  obtain ⟨component, found, rfl⟩ := Option.map_eq_some_iff.mp named
  have exported' : component.identifier.name ∈ other.exportedNames := by
    rw [exportedNames_of_ofItem? found]
    exact List.mem_cons_self
  obtain rfl := eq_of_mem_exportedNames distinct mem mem' exported exported'
  rw [plain] at found
  contradiction

/-- Whether an item of the output exports what one of the input does, a component under its internal
name. -/
def ExportsAs (config : Config) (item image : Tree) : Prop :=
  image.exportedNames
    = match ofItem? config item with
      | some component => [internalName component.identifier.name]
      | none => item.exportedNames

theorem exportsAs_image {walked : Tree} (distinct : (items.flatMap exportedNames).Nodup)
    (mem : item ∈ items) (h : OutlinesItem id item walked) :
    ExportsAs config item (rename (namesOf config items) walked) := by
  unfold ExportsAs
  cases found : ofItem? config item with
  | none =>
    -- None of its names is that of a component, so the renaming passes it by.
    have kept : walked.exportedNames = item.exportedNames := h.exportedNames fun _ _ => rfl
    refine ((outlinesItem_rename _ walked).exportedNames fun name exported => ?_).trans kept
    rw [kept] at exported
    exact renamed_of_not_mem (not_mem_namesOf distinct mem found exported)
  | some component =>
    have named : component.identifier.name ∈ namesOf config items :=
      List.mem_filterMap.mpr ⟨item, mem, by rw [found, Option.map_some]⟩
    obtain ⟨span, declaration, rfl, declared⟩ := eq_export_of_ofItem? found
    cases h.outlines with | node _ parts =>
    obtain _ | ⟨walked, _ | _⟩ := parts rfl
    rw [(outlines_rename _ _).exportedNames, walked.declarationNames, declared]
    simp [renamed_of_mem named]

theorem exportsAs_images {part walked : List Tree} (distinct : (items.flatMap exportedNames).Nodup)
    (subset : part ⊆ items) (h : List.Forall₂ (OutlinesItem id) part walked) :
    List.Forall₂ (ExportsAs config) part (renameAll (namesOf config items) walked) := by
  induction h with
  | nil => exact .nil
  | cons head _ ih =>
    obtain ⟨mem, rest⟩ := List.cons_subset.mp subset
    exact .cons (exportsAs_image distinct mem head) (ih rest)

/-- No item of the output that was one of the input exports the public name of a component. -/
theorem not_mem_exportedNames_image {images : List Tree} {image : Tree}
    (distinct : (items.flatMap exportedNames).Nodup)
    (h : List.Forall₂ (ExportsAs config) items images) (mem : image ∈ images)
    (named : name ∈ namesOf config items) : name ∉ image.exportedNames := by
  obtain ⟨item, mem', exports⟩ := forall₂_exists_of_mem h mem
  unfold ExportsAs at exports
  rw [exports]
  cases found : ofItem? config item with
  | none => exact fun exported => not_mem_namesOf distinct mem' found exported named
  | some component =>
    intro taken
    have exposed := isInternal_of_mem_namesOf named
    rw [List.mem_singleton.mp taken, isInternal_internalName] at exposed
    contradiction

/-- With the public names of the components there is one export more for each component, its internal
name. -/
theorem perm_of_exportsAs {images : List Tree} (h : List.Forall₂ (ExportsAs config) items images) :
    (namesOf config items ++ images.flatMap exportedNames).Perm
      (items.flatMap exportedNames ++ (namesOf config items).map internalName) := by
  induction h with
  | nil => exact .nil
  | @cons item image items images head _ ih =>
    unfold ExportsAs at head
    rw [List.flatMap_cons, List.flatMap_cons, head, namesOf, List.filterMap_cons]
    cases found : ofItem? config item with
    | none =>
      dsimp only [Option.map_none]
      rw [List.append_assoc]
      exact (List.perm_append_comm_assoc _ _ _).trans (ih.append_left _)
    | some component =>
      -- The public name comes from the export that is made, the internal one from the item.
      dsimp only [Option.map_some]
      rw [exportedNames_of_ofItem? found, List.map_cons, List.singleton_append, List.singleton_append,
        List.cons_append, List.cons_append]
      exact (List.perm_middle.trans ((ih.cons _).trans List.perm_middle.symm)).cons _

end Component

/-! ## Modules -/

namespace Pass

variable {pass : Pass} {s : Session} {pairs : List (Tree × Option String)}

theorem wrapper_of_fresh (fresh : s.wrapper = none) : pass.wrapper s = pass.wrapper {} := by
  rw [wrapper, wrapper, fresh]

/-- What comes of a module in which each component has a name of its own: its items, walked over and
renamed, with the exports of all components among them. -/
theorem extract_eq_insertWrapped {span : Option Span} {items : List Tree} {interpreter tree : Tree}
    {after : Session} (flat : Syntax.Tree.AreFlat items)
    (distinct : (namesOf pass.config items).Nodup)
    (run : pass.extract (.sourceModule span items interpreter) = (tree, after))
    (ok : after.failed = false) :
    ∃ s pairs walked, tree = .sourceModule span (pass.insertWrapped s pairs) interpreter
      ∧ s.wrapper = none ∧ pairs.filterMap Prod.snd = namesOf pass.config items
      ∧ pairs.map Prod.fst = renameAll (namesOf pass.config items) walked
      ∧ List.Forall₂ (OutlinesItem id) items walked := by
  obtain ⟨started, -⟩ := not_failed_of_walkItems run ok
  have planned : (pass.walkItems {} items).1.filterMap Prod.snd = namesOf pass.config items :=
    planned_eq_namesOf flat started distinct (by simp)
  let walked := (pass.walkItems {} items).1.map Prod.fst
  let components := (pass.walkItems {} items).1.map Prod.snd
  have length : (renameAll (namesOf pass.config items) walked).length = components.length := by
    simp [walked, components, Component.renameAll_eq_map]
  refine ⟨(pass.walkItems {} items).2, (renameAll (namesOf pass.config items) walked).zip components,
    walked, ?_, walkItems_wrapper flat started, ?_, List.map_fst_zip length.le,
    outlinesItem_walkItems started⟩
  · rw [extract, walk_module rfl, finishItems, if_neg (by simp [started]), wrapAll_eq_insertWrapped,
      planned] at run
    exact (Prod.mk.inj run).1.symm
  · rw [Component.filterMap_snd_zip length, List.filterMap_map, ← planned]
    rfl

/-- What a run makes exports the components, and nothing else. -/
theorem perm_insertWrapped :
    ((pass.insertWrapped s pairs).flatMap exportedNames).Perm
      (pairs.filterMap Prod.snd ++ (pairs.map Prod.fst).flatMap exportedNames) := by
  have exports : ((insertExports (pass.wrapper s).1 pairs).flatMap exportedNames).Perm _ :=
    Component.perm_insertExports (fun _ => rfl) pairs
  rw [insertWrapped]
  split
  · exact exports
  · exact exports

theorem filter_insertExports {wrapper : Identifier} {p : Tree → Bool}
    (others : ∀ image ∈ pairs.map Prod.fst, p image = false) :
    (insertExports wrapper pairs).filter p
      = ((pairs.filterMap Prod.snd).map (wrappedExport wrapper)).filter p := by
  induction pairs with
  | nil => rfl
  | cons pair pairs ih =>
    obtain ⟨item, component⟩ := pair
    rw [List.map_cons, List.forall_mem_cons] at others
    cases component with
    | none =>
      rw [insertExports, List.filter_cons_of_neg (by simp [others.1]), ih others.2,
        List.filterMap_cons_none rfl]
    | some name =>
      rw [insertExports, List.filter_cons_of_neg (by simp [others.1]), List.filter_cons,
        ih others.2, List.filterMap_cons, List.map_cons, List.filter_cons]

/-- Only the export that wraps it exports the name of a component. -/
theorem filter_insertWrapped {name : String} (distinct : (pairs.filterMap Prod.snd).Nodup)
    (mem : name ∈ pairs.filterMap Prod.snd)
    (others : ∀ image ∈ pairs.map Prod.fst, name ∉ image.exportedNames) :
    (pass.insertWrapped s pairs).filter (fun item => name ∈ item.exportedNames)
      = [wrappedExport (pass.wrapper s).1 name] := by
  have inserted : (pass.insertWrapped s pairs).filter (fun item => name ∈ item.exportedNames)
      = (insertExports (pass.wrapper s).1 pairs).filter (fun item => name ∈ item.exportedNames) := by
    rw [insertWrapped]
    split
    · rfl
    · rfl
  have single : (pairs.filterMap Prod.snd).filter
      ((fun item => decide (name ∈ item.exportedNames)) ∘ wrappedExport (pass.wrapper s).1)
        = [name] := calc
    _ = (pairs.filterMap Prod.snd).filter (· = name) :=
      List.filter_congr fun other _ => decide_eq_decide.mpr (List.mem_singleton.trans eq_comm)
    _ = List.replicate ((pairs.filterMap Prod.snd).count name) name := List.filter_eq name
    _ = [name] := by rw [List.count_eq_one_of_mem distinct mem, List.replicate_one]
  rw [inserted, filter_insertExports fun image mem => decide_eq_false (others image mem),
    List.filter_map, single, List.map_singleton]

end Pass

section Module

variable {config : Config} {fs fs' : FileSystem} {root : Path} {file : SourceFile} {span : Option Span}
  {items : List Tree} {interpreter tree : Tree} {result : FileResult}

/-- If a module exports no name twice, its output exports what it does and the internal names of its
components. The public name of a component is exported by exactly one item, the one that wraps it. -/
theorem exportedNames_extractFile (flat : Syntax.Tree.AreFlat items)
    (distinct : (items.flatMap exportedNames).Nodup)
    (run : extractFile config fs root file (.sourceModule span items interpreter)
      = (tree, fs', .ok result)) :
    ∃ output, tree = .sourceModule span output interpreter
      ∧ (output.flatMap exportedNames).Perm
        (items.flatMap exportedNames ++ (namesOf config items).map internalName)
      ∧ ∀ name ∈ namesOf config items,
        output.filter (fun item => name ∈ item.exportedNames)
          = [wrappedExport ((Pass.ofModule config file (.sourceModule span items interpreter)).wrapper
              {}).1 name] := by
  have ok := (Session.finish_ok_iff.mp (congrArg Prod.snd run)).1
  have left : ((Pass.ofModule config file (.sourceModule span items interpreter)).extract
      (.sourceModule span items interpreter)).1 = tree := congrArg Prod.fst run
  obtain ⟨s, pairs, walked, output, fresh, components, images, outlines⟩ :=
    Pass.extract_eq_insertWrapped flat (Component.nodup_namesOf distinct) (Prod.ext left rfl) ok
  have exported : List.Forall₂ (Component.ExportsAs config) items (pairs.map Prod.fst) :=
    images ▸ Component.exportsAs_images distinct (List.Subset.refl items) outlines
  refine ⟨_, output, ?_, fun name mem => ?_⟩
  · refine Pass.perm_insertWrapped.trans ?_
    rw [components]
    exact Component.perm_of_exportsAs exported
  · rw [← Pass.wrapper_of_fresh fresh]
    refine Pass.filter_insertWrapped (components ▸ Component.nodup_namesOf distinct)
      (components ▸ mem) fun image among => ?_
    exact Component.not_mem_exportedNames_image distinct exported among mem

end Module

/-- The items of a module that exports a component under its name, under another one and by default. -/
def interfaceItems : List Tree :=
  [exportOfA 1,
    .node .exportNamedDeclaration (some ⟨40, 57⟩)
      [.list [.node .exportSpecifier (some ⟨49, 55⟩)
          [.identifier (some ⟨49, 50⟩) "A" .absent .absent,
            .identifier (some ⟨54, 55⟩) "B" .absent .absent, .flag false]],
        .absent, .flag false, .absent],
    .node .exportDefaultExpression (some ⟨58, 75⟩)
      [.identifier (some ⟨73, 74⟩) "A" .absent .absent]]

/-- The output of the module of `interfaceItems` exports the internal name of the component too. -/
theorem exportedNames_interfaceItems :
    Syntax.Tree.AreFlat interfaceItems
      ∧ interfaceItems.flatMap exportedNames = ["A", "B", "default"]
      ∧ ∃ output,
        extractFile {} default ⟨"."⟩ ⟨"a.js", ""⟩ (.sourceModule (some ⟨1, 75⟩) interfaceItems .absent)
            = (.sourceModule (some ⟨1, 75⟩) output .absent, default, .ok ⟨[], [], none⟩)
          ∧ (output.flatMap exportedNames).Perm ["A", "B", "default", "_A"]
          ∧ output.filter (fun item => "A" ∈ item.exportedNames)
            = [wrappedExport (.made "injectIntl") "A"] := by
  have flat : Syntax.Tree.AreFlat interfaceItems := by decide
  have run : extractFile {} default ⟨"."⟩ ⟨"a.js", ""⟩
        (.sourceModule (some ⟨1, 75⟩) interfaceItems .absent)
      = ((extractFile {} default ⟨"."⟩ ⟨"a.js", ""⟩
          (.sourceModule (some ⟨1, 75⟩) interfaceItems .absent)).1, default,
        .ok ⟨[], [], none⟩) := Prod.ext rfl rfl
  obtain ⟨output, eq, exported, wrapped⟩ := exportedNames_extractFile flat (by decide) run
  rw [eq] at run
  exact ⟨flat, rfl, output, run, exported, wrapped "A" (by decide)⟩

end MessageExtraction
