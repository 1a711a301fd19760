import MessageExtraction.Proofs.Extraction.Idempotence
import MessageExtraction.Proofs.Scope.Declaring

/-!
# Names declared by the output

What a module declares after a run, and when that are distinct names.

* `outlines_walk`, `outlines_rename`: a walk keeps what a module declares, and a renaming renames it.
* `moduleNames_extract`: the output declares the names of the input, renamed, the names of the components
  and, if it is imported, the wrapping function.
* `nodup_moduleNames_iff`: for a module with distinct names these are distinct exactly if no internal name
  is taken, and the name of the wrapping function is free where it is imported.
-/

namespace MessageExtraction

open Syntax (Tree Span Identifier Kind)
open Syntax.Tree (Outlines OutlinesAll itemNames moduleNames outlines_of_leaf)
open Component (renamed internalName isInternal rename renameAll insertExports wrappedExport
  wrapperImport)

/-! ## Outlines -/

namespace Pass

variable {pass : Pass}

mutual
/-- A walk keeps what a tree declares. -/
theorem outlines_walk : (t : Tree) → (s : Session) → Outlines id t (pass.walk s t).1
  | t, s => by
    rw [walk.eq_def]
    split
    · -- Nothing is declared in a call, whatever becomes of it.
      have hidden {args args' : List Tree} : ∀ span, Outlines id (.node .callExpression span args)
          (.node .callExpression span args') := fun _ => .node rfl nofun
      split
      · exact hidden _
      split
      · exact hidden _
      dsimp only
      split
      · exact hidden _
      split
      · exact hidden _
      · exact hidden _
    · split
      · exact .node rfl nofun
      · exact .node rfl nofun
    · split
      · exact .node rfl nofun
      · exact .node rfl nofun
    · rename_i kind span fields _ _ _
      dsimp only
      cases named : (Syntax.Tree.node kind span fields).identifier? with
      | none => exact .node named fun _ => outlines_walkAll fields s
      | some i =>
        obtain ⟨o, d, ⟨⟩⟩ := Syntax.Tree.identifier?_eq_some_iff.mp named
        exact .identifier
    · exact .list (outlines_walkAll _ s)
    · rename_i node list
      exact outlines_of_leaf node list
termination_by t => sizeOf t

theorem outlines_walkAll : (ts : List Tree) → (s : Session) → OutlinesAll id ts (pass.walkAll s ts).1
  | [], _ => .nil
  | t :: ts, s => .cons (outlines_walk t s) (outlines_walkAll ts _)
termination_by ts => sizeOf ts
end

end Pass

mutual
/-- A renaming renames what a tree declares. -/
theorem Component.outlines_rename (names : List String) :
    (t : Tree) → Outlines (renamed names) t (rename names t)
  | t => by
    rw [rename.eq_def]
    split
    · exact .identifier
    · exact .node rfl nofun
    · rename_i kind span fields unnamed _
      have unnamed : (Syntax.Tree.node kind span fields).identifier? = none := by
        rw [Option.eq_none_iff_forall_ne_some]
        intro i named
        obtain ⟨o, d, ⟨⟩⟩ := Syntax.Tree.identifier?_eq_some_iff.mp named
        exact unnamed _ _ _ rfl rfl
      split
      · rename_i specifier
        exact .node unnamed fun shown => absurd shown (specifier ▸ nofun)
      · exact .node unnamed fun _ => outlines_renameAll names fields
    · exact .list (outlines_renameAll names _)
    · rename_i node list
      exact Syntax.Tree.outlines_of_leaf node list
termination_by t => sizeOf t

theorem Component.outlines_renameAll (names : List String) :
    (ts : List Tree) → OutlinesAll (renamed names) ts (renameAll names ts)
  | [] => .nil
  | t :: ts => .cons (outlines_rename names t) (outlines_renameAll names ts)
termination_by ts => sizeOf ts
end

/-! ## Items around components -/

namespace Component

variable {wrapper : Identifier}

theorem insertExports_of_none {items : List (Tree × Option String)}
    (none : items.filterMap Prod.snd = []) : insertExports wrapper items = items.map Prod.fst := by
  induction items with
  | nil => rfl
  | cons pair items ih =>
    obtain ⟨item, _ | name⟩ := pair
    · rw [insertExports, List.map_cons, ih (by simpa using none)]
    · simp at none

theorem filterMap_snd_zip {components : List (Option String)} {items : List Tree}
    (length : items.length = components.length) :
    (items.zip components).filterMap Prod.snd = components.filterMap id := calc
  _ = ((items.zip components).map Prod.snd).filterMap id := by
    rw [List.filterMap_map]
    rfl
  _ = components.filterMap id := by rw [List.map_snd_zip length.ge]

end Component

namespace Pass

/-- The items of a module, already renamed, with the exports of its components and the import of the
wrapping function. -/
def insertWrapped (pass : Pass) (session : Session) (items : List (Tree × Option String)) : List Tree :=
  let inserted := insertExports (pass.wrapper session).1 items
  if (pass.wrapper session).2 ∧ items.filterMap Prod.snd ≠ [] then
    wrapperImport (pass.wrapper session).1 pass.config.wrapperModule :: inserted
  else inserted

/-- Wrapping components is renaming the items one by one and inserting what is made. -/
theorem wrapAll_eq_insertWrapped {pass : Pass} (session : Session)
    (pairs : List (Tree × Option String)) :
    (pass.wrapAll session pairs).1 = pass.insertWrapped session
      ((renameAll (pairs.filterMap Prod.snd) (pairs.map Prod.fst)).zip (pairs.map Prod.snd)) := by
  have zipped (names : List String) :
      (renameAll names (pairs.map Prod.fst)).zip (pairs.map Prod.snd)
        = pairs.map fun pair => (rename names pair.1, pair.2) := by
    rw [Component.renameAll_eq_map, List.map_map, List.zip_map']
    rfl
  have components (names : List String) :
      (pairs.map fun pair => (rename names pair.1, pair.2)).filterMap Prod.snd
        = pairs.filterMap Prod.snd := List.filterMap_map
  rw [zipped, wrapAll, insertWrapped, components]
  split
  · rename_i none
    rw [if_neg (by simp [none]), Component.insertExports_of_none ((components _).trans none), none]
    simp [Component.rename_nil]
  · rename_i name names some
    rw [some]
    simp

end Pass

/-! ## Components -/

namespace Component

/-- The names of the components among the items of a module. -/
def namesOf (config : Config) (items : List Tree) : List String :=
  items.filterMap fun item => (ofItem? config item).map fun component => component.identifier.name

/-- A component is what its item declares, under no internal name. -/
theorem itemNames_of_ofItem? {config : Config} {item : Tree} {component : Component}
    (found : ofItem? config item = some component) :
    item.itemNames = [component.identifier.name] ∧ isInternal component.identifier.name = false := by
  cases ofItem?_eq_some_iff.mp found with
  | classBased exposed | functional exposed => exact ⟨rfl, exposed⟩

/-- The names of the components are among any names of the items that those of a component are. -/
theorem namesOf_sublist_flatMap {config : Config} {names : Tree → List String}
    (each : ∀ {item component}, ofItem? config item = some component →
      names item = [component.identifier.name]) (items : List Tree) :
    (namesOf config items).Sublist (items.flatMap names) := by
  induction items with
  | nil => exact .slnil
  | cons item items ih =>
    rw [namesOf, List.filterMap_cons, List.flatMap_cons]
    cases found : ofItem? config item with
    | none => exact ih.trans (List.sublist_append_right _ _)
    | some component =>
      rw [each found]
      exact ih.cons_cons _

theorem namesOf_sublist (config : Config) (items : List Tree) :
    (namesOf config items).Sublist (items.flatMap itemNames) :=
  namesOf_sublist_flatMap (fun found => (itemNames_of_ofItem? found).1) items

theorem isInternal_of_mem_namesOf {config : Config} {items : List Tree} {name : String}
    (mem : name ∈ namesOf config items) : isInternal name = false := by
  obtain ⟨item, -, named⟩ := List.mem_filterMap.mp mem
  obtain ⟨component, found, rfl⟩ := Option.map_eq_some_iff.mp named
  exact (itemNames_of_ofItem? found).2

/-- The exports of wrapped components add the names of the components. -/
theorem perm_insertExports {wrapper : Identifier} {names : Tree → List String}
    (wrapped : ∀ name, names (wrappedExport wrapper name) = [name])
    (pairs : List (Tree × Option String)) :
    ((insertExports wrapper pairs).flatMap names).Perm
      (pairs.filterMap Prod.snd ++ (pairs.map Prod.fst).flatMap names) := by
  induction pairs with
  | nil => exact .nil
  | cons pair pairs ih =>
    obtain ⟨item, _ | name⟩ := pair
    · rw [insertExports, List.flatMap_cons, List.map_cons, List.flatMap_cons]
      exact (ih.append_left _).trans (List.perm_append_comm_assoc _ _ _)
    · rw [insertExports, List.flatMap_cons, List.flatMap_cons, List.map_cons, List.flatMap_cons,
        wrapped, List.filterMap_cons]
      dsimp only
      rw [List.singleton_append, List.cons_append]
      exact List.perm_middle.trans
        (((ih.append_left _).trans (List.perm_append_comm_assoc _ _ _)).cons _)

end Component

namespace Pass

variable {pass : Pass}

/-- In a module that declares each name once, all components are collected. -/
theorem planned_eq_namesOf {items : List Tree} {s : Session} (flat : Syntax.Tree.AreFlat items)
    (ok : (pass.walkItems s items).2.failed = false)
    (distinct : (Component.namesOf pass.config items).Nodup)
    (fresh : ∀ name ∈ Component.namesOf pass.config items, name ∉ s.converted) :
    pass.planned s items = Component.namesOf pass.config items := by
  induction items generalizing s with
  | nil => rfl
  | cons item items ih =>
    rw [planned_cons ok]
    rw [Syntax.Tree.areFlat_cons] at flat
    rw [(walkItems_cons ok).2] at ok
    cases found : Component.ofItem? pass.config item with
    | none =>
      have names : Component.namesOf pass.config (item :: items)
          = Component.namesOf pass.config items := by
        rw [Component.namesOf, List.filterMap_cons, found]
        rfl
      rw [names] at distinct fresh ⊢
      obtain ⟨nothing, wrapping⟩ := @planItem_none pass _ s flat.1 found
      rw [nothing]
      refine ih flat.2 ok distinct fun name mem => ?_
      have kept : (pass.planItem s item).2.converted = s.converted := congrArg Prod.fst wrapping
      exact kept ▸ fresh name mem
    | some component =>
      have names : Component.namesOf pass.config (item :: items)
          = component.identifier.name :: Component.namesOf pass.config items := by
        rw [Component.namesOf, List.filterMap_cons, found]
        rfl
      rw [names] at distinct fresh ⊢
      rw [List.nodup_cons] at distinct
      have plan := @planItem_some pass _ _ s flat.1 found
      rw [if_neg (fresh _ List.mem_cons_self)] at plan
      have grown : (pass.planItem s item).2.converted = _ := congrArg Prod.fst plan.2
      rw [plan.1]
      refine congrArg (_ :: ·) (ih flat.2 ok distinct.2 fun name mem => ?_)
      -- The names noted for this component are its own and an internal one.
      rw [grown]
      simp only [List.mem_append, List.mem_cons, List.not_mem_nil, or_false, not_or]
      refine ⟨fresh name (List.mem_cons_of_mem _ mem), ?_, ?_⟩
      · rintro rfl
        exact distinct.1 mem
      · rintro rfl
        have := Component.isInternal_of_mem_namesOf mem
        rw [Component.isInternal_internalName] at this
        contradiction

theorem itemNames_walkItems {items : List Tree} {s : Session}
    (ok : (pass.walkItems s items).2.failed = false) :
    ((pass.walkItems s items).1.map Prod.fst).flatMap itemNames = items.flatMap itemNames := by
  induction items generalizing s with
  | nil => rfl
  | cons item items ih =>
    obtain ⟨-, eq⟩ := walkItems_cons ok
    rw [eq] at ok ⊢
    rw [List.map_cons, List.flatMap_cons, List.flatMap_cons, ih ok, walkItem,
      (outlines_walk item _).itemNames, List.map_id]

/-- The name that a run imports: that of the wrapping function, if there are components and no import of
it is found. -/
def importedNames (pass : Pass) (names : List String) : List String :=
  if names ≠ []
      ∧ pass.imports.find? pass.config.wrapperModule (.named pass.config.wrapperFunction) = none then
    [pass.config.wrapperFunction]
  else []

theorem wrapper_missing_iff {s : Session} (fresh : s.wrapper = none) :
    (pass.wrapper s).2 = true
      ↔ pass.imports.find? pass.config.wrapperModule (.named pass.config.wrapperFunction) = none := by
  rw [wrapper, fresh]
  dsimp only
  split
  · rename_i found
    simp [found]
  · rename_i found
    simp [found]

theorem itemNames_insertWrapped {s : Session} (fresh : s.wrapper = none)
    (pairs : List (Tree × Option String)) :
    ((pass.insertWrapped s pairs).flatMap itemNames).Perm
      (pass.importedNames (pairs.filterMap Prod.snd)
        ++ (pairs.filterMap Prod.snd ++ (pairs.map Prod.fst).flatMap itemNames)) := by
  have exports : ((insertExports (pass.wrapper s).1 pairs).flatMap itemNames).Perm _ :=
    Component.perm_insertExports (fun _ => rfl) pairs
  rw [insertWrapped, importedNames]
  split
  · rename_i missing
    rw [if_pos ⟨missing.2, (wrapper_missing_iff fresh).mp missing.1⟩, List.flatMap_cons]
    have imported : (wrapperImport (pass.wrapper s).1 pass.config.wrapperModule).itemNames
        = [pass.config.wrapperFunction] := by
      rw [wrapper_of_missing fresh missing.1]
      rfl
    rw [imported]
    exact exports.cons _
  · rename_i present
    rw [if_neg fun missing => present ⟨(wrapper_missing_iff fresh).mpr missing.2, missing.1⟩]
    exact exports

/-- What the items of the output declare. -/
theorem itemNames_finishItems {pairs : List (Tree × Option String)} {s : Session}
    (fresh : s.wrapper = none) (ok : s.failed = false) :
    ((pass.finishItems s pairs).1.flatMap itemNames).Perm
      (pass.importedNames (pairs.filterMap Prod.snd) ++ (pairs.filterMap Prod.snd
        ++ ((pairs.map Prod.fst).flatMap itemNames).map (renamed (pairs.filterMap Prod.snd)))) := by
  rw [finishItems, if_neg (by simp [ok]), wrapAll_eq_insertWrapped]
  have length : (renameAll (pairs.filterMap Prod.snd) (pairs.map Prod.fst)).length
      = (pairs.map Prod.snd).length := by simp [Component.renameAll_eq_map]
  have output := @itemNames_insertWrapped pass _ fresh
    ((renameAll (pairs.filterMap Prod.snd) (pairs.map Prod.fst)).zip (pairs.map Prod.snd))
  have names : (pairs.map Prod.snd).filterMap id = pairs.filterMap Prod.snd := List.filterMap_map
  have renames := (Component.outlines_renameAll (pairs.filterMap Prod.snd)
    (pairs.map Prod.fst)).flatMap fun _ _ _ h => h.itemNames
  rwa [Component.filterMap_snd_zip length, names, List.map_fst_zip length.le, renames] at output

end Pass

/-! ## Distinct names -/

namespace Component

/-- Names and what a list becomes when they are renamed stay distinct if no internal name is taken. -/
theorem nodup_renamed_iff {names declared : List String} (distinct : declared.Nodup)
    (sublist : names.Sublist declared) (exposed : ∀ name ∈ names, isInternal name = false) :
    (names ++ declared.map (renamed names)).Nodup
      ↔ ∀ name ∈ names, internalName name ∉ declared := by
  rw [List.nodup_append', List.nodup_map_iff_inj_on distinct]
  constructor
  · rintro ⟨-, injective, -⟩ name mem taken
    have other : internalName name ∉ names := fun mem' => by
      have := exposed _ mem'
      rw [isInternal_internalName] at this
      contradiction
    have eq := injective name (sublist.subset mem) (internalName name) taken
      (by rw [renamed_of_mem mem, renamed_of_not_mem other])
    exact other (eq ▸ mem)
  · intro free
    refine ⟨sublist.nodup distinct, fun a ha b hb eq => ?_, ?_⟩
    · by_cases mem : a ∈ names <;> by_cases mem' : b ∈ names
      · rw [renamed_of_mem mem, renamed_of_mem mem'] at eq
        exact internalName_injective eq
      · rw [renamed_of_mem mem, renamed_of_not_mem mem'] at eq
        exact absurd (eq ▸ hb) (free a mem)
      · rw [renamed_of_not_mem mem, renamed_of_mem mem'] at eq
        exact absurd (eq ▸ ha) (free b mem')
      · rwa [renamed_of_not_mem mem, renamed_of_not_mem mem'] at eq
    · intro name mem image
      obtain ⟨a, ha, eq⟩ := List.mem_map.mp image
      by_cases mem' : a ∈ names
      · rw [renamed_of_mem mem'] at eq
        have := exposed name mem
        rw [← eq, isInternal_internalName] at this
        contradiction
      · rw [renamed_of_not_mem mem'] at eq
        exact mem' (eq ▸ mem)

theorem mem_renamed_iff {names declared : List String} (subset : names ⊆ declared) {name : String} :
    name ∈ names ++ declared.map (renamed names)
      ↔ name ∈ declared ∨ ∃ component ∈ names, internalName component = name := by
  rw [List.mem_append, List.mem_map]
  constructor
  · rintro (mem | ⟨a, ha, rfl⟩)
    · exact .inl (subset mem)
    · by_cases mem : a ∈ names
      · exact .inr ⟨a, mem, (renamed_of_mem mem).symm⟩
      · exact .inl ((renamed_of_not_mem mem).symm ▸ ha)
  · rintro (mem | ⟨a, ha, rfl⟩)
    · by_cases mem' : name ∈ names
      · exact .inl mem'
      · exact .inr ⟨name, mem, renamed_of_not_mem mem'⟩
    · exact .inr ⟨a, subset ha, renamed_of_mem ha⟩

/-- When the names of an output are distinct: `names` are those of the components, `declared` those of the
input, and `wrapper` is imported if it is `missing`. -/
theorem nodup_declared_iff {names declared : List String} {missing : Prop} [Decidable missing]
    {wrapper : String} (distinct : declared.Nodup) (sublist : names.Sublist declared)
    (exposed : ∀ name ∈ names, isInternal name = false) :
    ((if names ≠ [] ∧ missing then [wrapper] else [])
        ++ (names ++ declared.map (renamed names))).Nodup
      ↔ (∀ name ∈ names, internalName name ∉ declared)
        ∧ (names ≠ [] → missing →
          wrapper ∉ declared ∧ ∀ name ∈ names, internalName name ≠ wrapper) := by
  split
  · rename_i imported
    rw [List.singleton_append, List.nodup_cons, mem_renamed_iff sublist.subset,
      nodup_renamed_iff distinct sublist exposed, and_comm]
    refine and_congr_right fun _ => ?_
    constructor
    · intro free _ _
      exact ⟨fun mem => free (.inl mem), fun name mem same => free (.inr ⟨name, mem, same⟩)⟩
    · intro free taken
      obtain ⟨free, apart⟩ := free imported.1 imported.2
      rcases taken with mem | ⟨name, mem, same⟩
      · exact free mem
      · exact apart name mem same
  · rename_i other
    rw [List.nil_append, nodup_renamed_iff distinct sublist exposed]
    exact (and_iff_left fun some missing => absurd ⟨some, missing⟩ other).symm

end Component

section Module

variable {config : Config} {fs fs' : FileSystem} {root : Path} {file : SourceFile} {span : Option Span}
  {items : List Tree} {interpreter tree : Tree} {result : FileResult}

/-- What the output of a run declares: what the input declares, renamed, each component under its own name
again, and the wrapping function if it is imported. -/
theorem Pass.moduleNames_extract {pass : Pass} {s : Session} (flat : Syntax.Tree.AreFlat items)
    (distinct : (Tree.sourceModule span items interpreter).moduleNames.Nodup)
    (run : pass.extract (.sourceModule span items interpreter) = (tree, s)) (ok : s.failed = false) :
    tree.moduleNames.Perm (pass.importedNames (Component.namesOf pass.config items)
      ++ (Component.namesOf pass.config items
        ++ (Tree.sourceModule span items interpreter).moduleNames.map
          (renamed (Component.namesOf pass.config items)))) := by
  obtain ⟨started, -⟩ := not_failed_of_walkItems run ok
  have planned := planned_eq_namesOf flat started
    ((Component.namesOf_sublist pass.config items).nodup distinct) (by simp)
  have output := @itemNames_finishItems pass (pass.walkItems {} items).1 _
    (walkItems_wrapper flat started) started
  rw [itemNames_walkItems started] at output
  rw [extract, walk_module rfl] at run
  obtain ⟨rfl, -⟩ := Prod.mk.inj run
  exact planned ▸ output

/-- If a module declares no name twice, its output declares none twice exactly if no component has an
internal name that is taken, and, where the wrapping function is imported, its name is neither taken nor the
internal name of a component. -/
theorem nodup_moduleNames_iff (flat : Syntax.Tree.AreFlat items)
    (distinct : (Tree.sourceModule span items interpreter).moduleNames.Nodup)
    (run : extractFile config fs root file (.sourceModule span items interpreter)
      = (tree, fs', .ok result)) :
    tree.moduleNames.Nodup
      ↔ (∀ name ∈ Component.namesOf config items,
          internalName name ∉ (Tree.sourceModule span items interpreter).moduleNames)
        ∧ (Component.namesOf config items ≠ [] →
          (Imports.ofModule (.sourceModule span items interpreter)).find? config.wrapperModule
              (.named config.wrapperFunction) = none →
            config.wrapperFunction ∉ (Tree.sourceModule span items interpreter).moduleNames
              ∧ ∀ name ∈ Component.namesOf config items,
                internalName name ≠ config.wrapperFunction) := by
  have left : ((Pass.ofModule config file (.sourceModule span items interpreter)).extract
      (.sourceModule span items interpreter)).1 = tree := congrArg Prod.fst run
  have ok := (Session.finish_ok_iff.mp (congrArg Prod.snd run)).1
  have declared := Pass.moduleNames_extract flat distinct (Prod.ext left rfl) ok
  exact declared.nodup_iff.trans (Component.nodup_declared_iff distinct
    (Component.namesOf_sublist config items) fun _ => Component.isInternal_of_mem_namesOf)

end Module

/-- The output of `componentModule` declares no name twice. -/
theorem nodup_componentModule :
    (extractFile {} default ⟨"."⟩ ⟨"a.js", ""⟩ componentModule).1.moduleNames.Nodup := by
  have run : extractFile {} default ⟨"."⟩ ⟨"a.js", ""⟩ componentModule
      = ((extractFile {} default ⟨"."⟩ ⟨"a.js", ""⟩ componentModule).1, default,
        .ok ⟨[⟨"hello", none, none⟩], [], none⟩) := Prod.ext rfl rfl
  exact (nodup_moduleNames_iff (by decide) (by decide) run).mpr (by decide +kernel)

/-- A configuration with a module of its own for the wrapping function. -/
def wrapperConfig : Config := { wrapperModule := "i18n/inject" }

/-- The items of a module that imports the wrapping function by another path to its module. -/
def relativeItems : List Tree :=
  [.importDeclaration (some ⟨1, 45⟩)
      [.importSpecifier (some ⟨10, 20⟩) (.identifier (some ⟨10, 20⟩) "injectIntl" .absent .absent)
        .absent (.flag false)]
      (.stringLiteral (some ⟨28, 44⟩) (.text "../i18n/inject") .absent) (.flag false) .absent
      (.text "evaluation"),
    exportOfA 46]

/-- A wrapping function that is imported by another path to its module is imported once more under the
name that it has. -/
theorem duplicate_relativeModule :
    ModulePath.same wrapperConfig.internalPathMarkers "../i18n/inject" wrapperConfig.wrapperModule = true
      ∧ (Tree.sourceModule (some ⟨1, 81⟩) relativeItems .absent).moduleNames = ["injectIntl", "A"]
      ∧ (extractFile wrapperConfig default ⟨"."⟩ ⟨"a.js", ""⟩
          (.sourceModule (some ⟨1, 81⟩) relativeItems .absent)).2 = (default, .ok ⟨[], [], none⟩)
      ∧ (extractFile wrapperConfig default ⟨"."⟩ ⟨"a.js", ""⟩
          (.sourceModule (some ⟨1, 81⟩) relativeItems .absent)).1.moduleNames
        = ["injectIntl", "injectIntl", "_A", "A"] :=
  ⟨by decide +kernel, by decide, rfl, by decide +kernel⟩

end MessageExtraction
