import MessageExtraction.Proofs.Extraction.Items

/-!
# The output of a run

What a module is after a run, and what its imports are.

* `finishItems_output`: each item of the output is an item of the input rewritten, the export of a wrapped
  component, or the import of the wrapping function.
* `isLater_same`, `isLater_ofModule`: a pass with the imports of the input and one with the imports of the
  output meet no reference that marks where there was none.
-/

namespace MessageExtraction

open Syntax (Tree Span Identifier Frame DeclaredIn Sighting)
open Component (renamed internalName isInternal rename insertExports wrappedExport wrapperImport)

/-! ## Items -/

namespace Component

theorem mem_insertExports {wrapper : Identifier} {pairs : List (Tree × Option String)} {t : Tree} :
    t ∈ insertExports wrapper pairs
      ↔ t ∈ pairs.map Prod.fst
        ∨ ∃ name ∈ pairs.filterMap Prod.snd, t = wrappedExport wrapper name := by
  induction pairs with
  | nil => simp [insertExports]
  | cons pair pairs ih =>
    obtain ⟨item, _ | name⟩ := pair
    · rw [insertExports, List.mem_cons, ih]
      simp [or_assoc]
    · rw [insertExports, List.mem_cons, List.mem_cons, ih]
      simp only [List.map_cons, List.filterMap_cons, List.mem_cons, exists_eq_or_imp]
      tauto

theorem ofItem_wrappedExport (wrapper : Identifier) (name : String) :
    Import.ofItem (wrappedExport wrapper name) = [] := rfl

/-- The exports of wrapped components import nothing. -/
theorem flatMap_insertExports (wrapper : Identifier) (pairs : List (Tree × Option String)) :
    (insertExports wrapper pairs).flatMap Import.ofItem
      = (pairs.map Prod.fst).flatMap Import.ofItem := by
  induction pairs with
  | nil => rfl
  | cons pair pairs ih =>
    obtain ⟨item, _ | name⟩ := pair
    · rw [insertExports, List.flatMap_cons, ih, List.map_cons, List.flatMap_cons]
    · rw [insertExports, List.flatMap_cons, List.flatMap_cons, ofItem_wrappedExport, List.nil_append,
        ih, List.map_cons, List.flatMap_cons]

end Component

/-- The import of the wrapping function that a run adds. -/
def Config.wrapperBinding (config : Config) : Import :=
  ⟨.made config.wrapperFunction, config.wrapperModule, .named config.wrapperFunction⟩

theorem ofItem_wrapperImport (config : Config) :
    Import.ofItem (wrapperImport (.made config.wrapperFunction) config.wrapperModule)
      = [config.wrapperBinding] := rfl

/-- What the items of a module are after a run that made `images` of them and wrapped the components
`names`. -/
structure Config.Output (config : Config) (names : List String) (images : List Tree)
    (wrapper : Option Identifier) (items : List Tree) : Prop where
  origin : ∀ item ∈ items,
    item ∈ images
      ∨ (∃ w ∈ wrapper, ∃ name ∈ names, item = wrappedExport w name)
      ∨ item = wrapperImport (.made config.wrapperFunction) config.wrapperModule
  exports : ∀ w ∈ wrapper, ∃ name ∈ names, wrappedExport w name ∈ items
  imports :
    items.flatMap Import.ofItem = images.flatMap Import.ofItem
      ∨ items.flatMap Import.ofItem = config.wrapperBinding :: images.flatMap Import.ofItem

/-- The import of the wrapping function in front of the output of a run. -/
theorem Config.Output.withImport {config : Config} {names : List String} {images items : List Tree}
    {wrapper : Option Identifier} (output : config.Output names images wrapper items)
    (imports : items.flatMap Import.ofItem = images.flatMap Import.ofItem) :
    config.Output names images wrapper
      (wrapperImport (.made config.wrapperFunction) config.wrapperModule :: items) where
  origin := List.forall_mem_cons.mpr ⟨.inr (.inr rfl), output.origin⟩
  exports w mem :=
    (output.exports w mem).imp fun _ ⟨named, exported⟩ => ⟨named, List.mem_cons_of_mem _ exported⟩
  imports := by
    right
    rw [List.flatMap_cons, imports, ofItem_wrapperImport]
    rfl

namespace Pass

variable {pass : Pass}

theorem wrapper_of_missing {s : Session} (fresh : s.wrapper = none)
    (missing : (pass.wrapper s).2 = true) :
    (pass.wrapper s).1 = .made pass.config.wrapperFunction := by
  rw [wrapper, fresh] at missing ⊢
  dsimp only at missing ⊢
  split at missing
  · contradiction
  · rfl

theorem wrapper_exposed {s : Session} (fresh : s.wrapper = none)
    (function : isInternal pass.config.wrapperFunction = false)
    (others : ∀ i ∈ pass.imports.bindings, isInternal i.binding.name = false) :
    isInternal (pass.wrapper s).1.name = false := by
  rw [wrapper, fresh]
  dsimp only
  split
  · rename_i i found
    exact others i (List.mem_of_find?_eq_some found)
  · exact function

theorem finishItems_wrapper {pairs : List (Tree × Option String)} {s : Session}
    (fresh : s.wrapper = none) {w : Identifier} (mem : w ∈ (pass.finishItems s pairs).2.wrapper) :
    w = (pass.wrapper s).1 := by
  rw [finishItems] at mem
  split at mem
  · rw [fresh] at mem
    contradiction
  · rw [wrapAll] at mem
    split at mem
    · rw [fresh] at mem
      contradiction
    · cases mem
      rfl

/-- Wrapped components are exported behind what became of the items, and the exports import nothing. -/
theorem output_insertExports (config : Config) (w : Identifier) {pairs : List (Tree × Option String)}
    {name : String} {names : List String} (wrapped : pairs.filterMap Prod.snd = name :: names) :
    config.Output (name :: names) (pairs.map fun pair => rename (name :: names) pair.1) (some w)
        (insertExports w (pairs.map fun pair => (rename (name :: names) pair.1, pair.2)))
      ∧ (insertExports w (pairs.map fun pair => (rename (name :: names) pair.1, pair.2))).flatMap
          Import.ofItem
        = (pairs.map fun pair => rename (name :: names) pair.1).flatMap Import.ofItem := by
  have fst : (pairs.map fun pair => (rename (name :: names) pair.1, pair.2)).map Prod.fst
      = pairs.map fun pair => rename (name :: names) pair.1 := by
    rw [List.map_map]
    rfl
  have snd : (pairs.map fun pair => (rename (name :: names) pair.1, pair.2)).filterMap Prod.snd
      = name :: names := by
    rw [List.filterMap_map]
    exact wrapped
  have imports := Component.flatMap_insertExports w
    (pairs.map fun pair => (rename (name :: names) pair.1, pair.2))
  rw [fst] at imports
  refine ⟨⟨fun item mem => ?_, ?_, .inl imports⟩, imports⟩
  · rw [Component.mem_insertExports, fst, snd] at mem
    exact mem.imp_right fun ⟨n, hn, eq⟩ => .inl ⟨w, rfl, n, hn, eq⟩
  · rintro _ ⟨⟩
    refine ⟨name, List.mem_cons_self, ?_⟩
    rw [Component.mem_insertExports, snd]
    exact .inr ⟨name, List.mem_cons_self, rfl⟩

/-- What the items of a module are after a run. -/
theorem finishItems_output {pairs : List (Tree × Option String)} {s : Session}
    (fresh : s.wrapper = none) (ok : s.failed = false) :
    pass.config.Output (pairs.filterMap Prod.snd)
      (pairs.map fun pair => rename (pairs.filterMap Prod.snd) pair.1)
      (pass.finishItems s pairs).2.wrapper (pass.finishItems s pairs).1 := by
  rw [finishItems, if_neg (by simp [ok]), wrapAll]
  split
  · rename_i none
    rw [none]
    have same : pairs.map (fun pair => rename [] pair.1) = pairs.map Prod.fst := by
      simp only [Component.rename_nil]
    rw [same]
    exact ⟨fun item mem => .inl mem, by simp [fresh], .inl rfl⟩
  · rename_i name names some
    rw [some]
    dsimp only
    split
    · rename_i missing
      rw [wrapper_of_missing fresh missing]
      obtain ⟨output, imports⟩ :=
        output_insertExports pass.config (.made pass.config.wrapperFunction) some
      exact output.withImport imports
    · exact (output_insertExports pass.config _ some).1

theorem walk_module {span : Option Span} {items : List Tree} {interpreter : Tree} {s : Session}
    (started : s.failed = false) :
    pass.walk s (.sourceModule span items interpreter)
      = (.sourceModule span
          (pass.finishItems (pass.walkItems s items).2 (pass.walkItems s items).1).1 interpreter,
        (pass.finishItems (pass.walkItems s items).2 (pass.walkItems s items).1).2) := by
  rw [walk, if_neg (by simp [started])]

theorem not_failed_of_walkItems {span : Option Span} {items : List Tree} {interpreter tree : Tree}
    {s : Session} (run : pass.extract (.sourceModule span items interpreter) = (tree, s))
    (ok : s.failed = false) :
    (pass.walkItems {} items).2.failed = false
      ∧ s.registry = (pass.walkItems {} items).2.registry := by
  rw [extract, walk_module rfl] at run
  obtain ⟨-, rfl⟩ := Prod.mk.inj run
  have gathered := @finishItems_gathered pass (pass.walkItems {} items).2 (pass.walkItems {} items).1
  obtain ⟨started, registry⟩ := Session.not_failed_of_gathered
    (gathered.symm.trans (Session.gathered_of_not_failed ok))
  exact ⟨started, registry⟩

/-- What a module is after a run that ends without a fault. -/
theorem extract_items {span : Option Span} {items : List Tree} {interpreter : Tree}
    (translate : "bind" ∉ pass.config.translateFunctions)
    (define : "bind" ∉ pass.config.defineMessagesFunctions) (flat : Syntax.Tree.AreFlat items)
    (defined : "undefined" ∉ pass.planned {} items) {tree : Tree} {s : Session}
    (run : pass.extract (.sourceModule span items interpreter) = (tree, s)) (ok : s.failed = false) :
    (isInternal pass.config.wrapperFunction = false →
        (∀ i ∈ pass.imports.bindings, isInternal i.binding.name = false) →
          ∀ w ∈ s.wrapper, isInternal w.name = false)
      ∧ ∃ images items', tree = .sourceModule span items' interpreter
        ∧ pass.RewritesAll s.registry (pass.planned {} items) items images
        ∧ pass.config.Output (pass.planned {} items) images s.wrapper items' := by
  obtain ⟨started, registry⟩ := not_failed_of_walkItems run ok
  obtain ⟨-, held⟩ :=
    (walkItems_gathers (bindFindings_eq_nil translate define) {} items).held started
  have fresh : (pass.walkItems {} items).2.wrapper = none := walkItems_wrapper flat started
  rw [registry]
  rw [extract, walk_module rfl] at run
  obtain ⟨rfl, rfl⟩ := Prod.mk.inj run
  refine ⟨fun function others w mem => ?_, _, _, rfl, walkItems_rewrites defined flat started held,
    finishItems_output fresh started⟩
  rw [finishItems_wrapper fresh mem]
  exact wrapper_exposed fresh function others

end Pass

/-! ## Sightings -/

/-- What a specifier imports is in the module at the path, and is bound to the first field. -/
theorem Import.exists_of_ofSpecifier? {path : String} {t : Tree} {i : Import}
    (h : Import.ofSpecifier? path t = some i) :
    i.modulePath = path ∧ ∃ kind span binding rest,
      t = .node kind span (binding :: rest) ∧ binding.identifier? = some i.binding := by
  rw [ofSpecifier?.eq_def] at h
  split at h
  · simp only [Option.bind_eq_bind, Option.bind_eq_some_iff] at h
    obtain ⟨binding, found, h⟩ := h
    split at h
    · contradiction
    split at h
    · cases h
      exact ⟨rfl, _, _, _, _, rfl, found⟩
    · obtain ⟨_, -, rfl⟩ := Option.map_eq_some_iff.mp h
      exact ⟨rfl, _, _, _, _, rfl, found⟩
  · obtain ⟨binding, found, rfl⟩ := Option.map_eq_some_iff.mp h
    exact ⟨rfl, _, _, _, _, rfl, found⟩
  · obtain ⟨binding, found, rfl⟩ := Option.map_eq_some_iff.mp h
    exact ⟨rfl, _, _, _, _, rfl, found⟩
  · contradiction

namespace Syntax.Tree

theorem sightingsOf_of_mem {chain : List Frame} {parent : Tree} {i : Nat} {t : Tree}
    {ts : List Tree} (mem : t ∈ ts) :
    ∃ j, t.sightings (⟨parent, j⟩ :: chain) ⊆ sightingsOf chain parent i ts := by
  induction ts generalizing i with
  | nil => contradiction
  | cons u ts ih =>
    rw [sightingsOf]
    rcases List.mem_cons.mp mem with rfl | mem
    · exact ⟨i, List.subset_append_left _ _⟩
    · obtain ⟨j, subset⟩ := @ih (i + 1) mem
      exact ⟨j, List.Subset.trans subset (List.subset_append_right _ _)⟩

/-- The identifiers of an item are seen in the module. -/
theorem sightings_item {span : Option Span} {items : List Tree} {interpreter item : Tree}
    (mem : item ∈ items) :
    ∃ i, item.sightings [⟨.absent, i⟩, ⟨.sourceModule span items interpreter, 0⟩]
      ⊆ (sourceModule span items interpreter).sightings [] := by
  obtain ⟨i, subset⟩ := @sightingsOf_of_mem [⟨.sourceModule span items interpreter, 0⟩] .absent 0
    item items mem
  have listed := (List.append_subset.mp (subset_of_node (List.Subset.refl
    ((sourceModule span items interpreter).sightings [])))).1
  exact ⟨i, List.Subset.trans subset listed⟩

/-- Whether a name is seen in a tree, wherever that stands. -/
def Shows (t : Tree) (name : String) : Prop := ∀ chain, ∃ s ∈ t.sightings chain, s.name = name

theorem shows_identifier? {t : Tree} {i : Identifier} (h : t.identifier? = some i) :
    t.Shows i.name := by
  obtain ⟨_, _, rfl⟩ := identifier?_eq_some_iff.mp h
  exact fun chain => ⟨_, List.mem_cons_self, rfl⟩

theorem Shows.of_listed {t : Tree} {name : String} {ts : List Tree} (mem : t ∈ ts)
    (h : t.Shows name) : (Tree.list ts).Shows name := by
  intro chain
  obtain ⟨j, subset⟩ := @sightingsOf_of_mem chain .absent 0 t ts mem
  obtain ⟨s, seen, named⟩ := h (⟨.absent, j⟩ :: chain)
  exact ⟨s, subset seen, named⟩

theorem Shows.of_field {t : Tree} {name : String} {kind : Kind} {span : Option Span}
    {fields : List Tree} (mem : t ∈ fields) (h : t.Shows name) :
    (Syntax.Tree.node kind span fields).Shows name := by
  intro chain
  obtain ⟨j, subset⟩ := @sightingsOf_of_mem chain (.node kind span fields) 0 t fields mem
  obtain ⟨s, seen, named⟩ := h (⟨.node kind span fields, j⟩ :: chain)
  exact ⟨s, subset_of_node (List.Subset.refl _) (subset seen), named⟩

theorem shows_ofSpecifier? {path : String} {t : Tree} {i : Import}
    (h : Import.ofSpecifier? path t = some i) : t.Shows i.binding.name := by
  obtain ⟨-, _, _, _, _, rfl, found⟩ := Import.exists_of_ofSpecifier? h
  exact .of_field List.mem_cons_self (shows_identifier? found)

/-- What an import binds is seen in the module. -/
theorem shows_import {span : Option Span} {items : List Tree} {interpreter : Tree} {i : Import}
    (h : i ∈ items.flatMap Import.ofItem) :
    (sourceModule span items interpreter).Shows i.binding.name := by
  obtain ⟨item, mem, h⟩ := List.mem_flatMap.mp h
  refine .of_field List.mem_cons_self (.of_listed mem ?_)
  rw [Import.ofItem.eq_def] at h
  split at h
  · split at h
    · contradiction
    · obtain ⟨specifier, mem, found⟩ := List.mem_filterMap.mp h
      exact .of_field List.mem_cons_self (.of_listed mem (shows_ofSpecifier? found))
  · contradiction

end Syntax.Tree

/-! ## References -/

/-- Whether a reference to an import is to one of the given exports of the module that marks messages. -/
def Config.accepts (config : Config) (names : List String) (reference : Reference) (i : Import) :
    Bool :=
  ModulePath.same config.internalPathMarkers i.modulePath config.moduleSource
    && match reference with
      | .plain _ => names.contains i.imported.text
      | .member _ name => i.imported == .namespace && names.contains name

theorem Config.accepts_rename (config : Config) (names renames : List String)
    (reference : Reference) (i : Import) :
    config.accepts names (reference.rename renames) i = config.accepts names reference i := by
  cases reference <;> rfl

theorem Config.accepts_congr (config : Config) (names : List String) (reference : Reference)
    {i i' : Import} (modulePath : i'.modulePath = i.modulePath) (imported : i'.imported = i.imported) :
    config.accepts names reference i' = config.accepts names reference i := by
  cases reference <;> rw [accepts, accepts, modulePath, imported]

theorem Config.accepts_of_not_mem (config : Config) {names : List String} (reference : Reference)
    {i : Import} {name : String} (imported : i.imported = .named name) (other : name ∉ names) :
    config.accepts names reference i = false := by
  cases reference with
  | plain identifier => simp [accepts, imported, ImportedName.text, other]
  | member object name => simp [accepts, imported]

/-- Whether no configured name gets in the way of what a run makes. -/
structure Config.IsApart (config : Config) : Prop where
  exposed : ∀ name ∈ config.markingLists.flatten, isInternal name = false
  bases : ∀ name ∈ config.baseComponentNames, isInternal name = false
  function : isInternal config.wrapperFunction = false
  bind : "bind" ∉ config.markingLists.flatten
  wrapper : config.wrapperFunction ∉ config.markingLists.flatten

theorem Config.IsApart.not_mem {config : Config} (apart : config.IsApart) {names : List String}
    (mem : names ∈ config.markingLists) : config.wrapperFunction ∉ names :=
  fun h => apart.wrapper (List.mem_flatten_of_mem mem h)

theorem Config.IsApart.internalName_not_mem {config : Config} (apart : config.IsApart)
    {names : List String} (mem : names ∈ config.markingLists) (name : String) :
    internalName name ∉ names := by
  intro h
  have := apart.exposed _ (List.mem_flatten_of_mem mem h)
  rw [Component.isInternal_internalName] at this
  contradiction

/-- No list accepts the import of the wrapping function. -/
theorem Config.IsApart.accepts_wrapperBinding {config : Config} (apart : config.IsApart)
    {names : List String} (mem : names ∈ config.markingLists) (reference : Reference) :
    config.accepts names reference config.wrapperBinding = false :=
  config.accepts_of_not_mem reference rfl (apart.not_mem mem)

/-- An import is accepted as before a renaming, or no more. -/
theorem Config.IsApart.accepts_of_becomes {config : Config} (apart : config.IsApart)
    {renames : List String} {i i' : Import} (became : Import.Becomes renames i i')
    (reference : Reference) :
    (∀ names ∈ config.markingLists,
        config.accepts names reference i' = config.accepts names reference i)
      ∨ ∀ names ∈ config.markingLists, config.accepts names reference i' = false := by
  rcases became.imported with same | ⟨name, imported⟩
  · exact .inl fun names _ => config.accepts_congr names reference became.modulePath same
  · exact .inr fun names mem =>
      config.accepts_of_not_mem reference imported (apart.internalName_not_mem mem name)

theorem Config.IsApart.bind_not_mem {config : Config} (apart : config.IsApart) :
    "bind" ∉ config.translateFunctions ∧ "bind" ∉ config.defineMessagesFunctions := by
  have := apart.bind
  simp only [Config.markingLists, List.flatten_cons, List.mem_append, not_or] at this
  exact ⟨this.1, this.2.1⟩

namespace Pass

variable {pass : Pass}

/-- What a reference is taken for depends on the import that it refers to. -/
theorem isHelper_eq (names : List String) (reference : Reference) :
    pass.isHelper names reference
      = (pass.imports.binding? reference.root.name reference.root.offset).any
          (pass.config.accepts names reference) := by
  cases reference with
  | plain identifier =>
    rw [isHelper, Reference.isImported, Imports.references, Reference.root]
    cases pass.imports.binding? identifier.name identifier.offset <;> rfl
  | member object name =>
    rw [isHelper, Reference.isImported, Imports.referencesMember, Imports.references, Reference.root]
    cases pass.imports.binding? object.name object.offset with
    | none => rfl
    | some i => simp [Config.accepts, Bool.and_assoc]

/-- A pass with the imports of the input is a later pass over the output. -/
theorem isLater_same {names : List String} {before after : Tree} (apart : pass.config.IsApart)
    (defined : "undefined" ∉ names)
    (others : ∀ i ∈ pass.imports.bindings, isInternal i.binding.name = false) :
    IsLater pass pass names before after := by
  refine ⟨rfl, apart.bind_not_mem.1, apart.bind_not_mem.2, defined, ?_⟩
  intro renames chain chain' reference subset follows seen seen'
  by_cases mem : reference.root.name ∈ renames
  · refine .inr fun list _ => ?_
    have missing : Imports.last? pass.imports.bindings (internalName reference.root.name) = none := by
      rw [Imports.last?, List.find?_eq_none]
      intro i hi
      rw [decide_eq_true_eq]
      intro eq
      have := others i (List.mem_reverse.mp hi)
      rw [eq, Component.isInternal_internalName] at this
      contradiction
    rw [isHelper_eq, Reference.root_rename, Component.renamed_of_mem mem, Imports.binding?]
    split
    · rfl
    · exact congrArg (Option.any _) missing
  · refine .inl fun list _ => ?_
    have same : reference.rename renames = reference := by
      cases reference with
      | plain identifier =>
        exact congrArg (fun name => Reference.plain { identifier with name })
          (Component.renamed_of_not_mem mem)
      | member object name =>
        exact congrArg (fun written => Reference.member { object with name := written } name)
          (Component.renamed_of_not_mem mem)
    rw [same]

end Pass

/-! ## Imports of the output -/

namespace Imports

variable {span : Option Span} {items items' : List Tree} {interpreter : Tree}

theorem shadowed_iff (o : Nat) :
    o ∈ (ofModule (.sourceModule span items interpreter)).shadowed
      ↔ ∃ s ∈ (Tree.sourceModule span items interpreter).sightings [], s.offset = o
        ∧ s.name ∈ (items.flatMap Import.ofItem).map (fun i => i.binding.name)
        ∧ DeclaredIn s.chain s.name := by
  rw [ofModule_shadowed, Tree.mem_shadowedOffsets _ (Syntax.carries_nil _)]
  rfl

theorem binding?_some {name : String} {o : Nat} {i : Import}
    (h : (ofModule (.sourceModule span items interpreter)).binding? name o = some i) :
    o ∉ (ofModule (.sourceModule span items interpreter)).shadowed
      ∧ last? (items.flatMap Import.ofItem) name = some i := by
  rw [binding?] at h
  split at h
  · contradiction
  · exact ⟨‹_›, h⟩

/-- What an identifier of the output refers to, it referred to before the run, but for the wrapping
function. -/
theorem binding?_of_output {config : Config} {renames names : List String} {images : List Tree}
    {wrapper : Option Identifier}
    (placed : Syntax.IsPlaced (.sourceModule span items interpreter))
    (exposed : ∀ s ∈ (Tree.sourceModule span items interpreter).sightings [],
      isInternal s.name = false)
    (becomes : List.Forall₂ (Import.Becomes renames) (items.flatMap Import.ofItem)
      (images.flatMap Import.ofItem))
    (output : config.Output renames images wrapper items') {chain chain' : List Frame}
    (follows : Follows renames names chain chain') {name : String} {o : Nat}
    (seen : ⟨name, o, chain⟩ ∈ (Tree.sourceModule span items interpreter).sightings [])
    (seen' : ⟨renamed names name, o, chain'⟩
      ∈ (Tree.sourceModule span items' interpreter).sightings []) {i' : Import}
    (found : (ofModule (.sourceModule span items' interpreter)).binding? (renamed names name) o
      = some i') :
    i' = config.wrapperBinding
      ∨ ∃ i, (ofModule (.sourceModule span items interpreter)).binding? name o = some i
        ∧ Import.Becomes renames i i' := by
  obtain ⟨free, last⟩ := binding?_some found
  have others (i : Import) (mem : i ∈ items.flatMap Import.ofItem) :
      isInternal i.binding.name = false := by
    obtain ⟨s, sighted, named⟩ := @Tree.shows_import span items interpreter i mem []
    exact named ▸ exposed s sighted
  have image (h : last? (images.flatMap Import.ofItem) (renamed names name) = some i') :
      ∃ i, (ofModule (.sourceModule span items interpreter)).binding? name o = some i
        ∧ Import.Becomes renames i i' := by
    obtain ⟨both, i, found, became⟩ := last?_of_becomes becomes (exposed _ seen) others h
    refine ⟨i, ?_, became⟩
    rw [binding?, if_neg]
    · exact found
    · intro shadowed
      rw [shadowed_iff] at shadowed free
      obtain ⟨s, sighted, offset, -, declared⟩ := shadowed
      obtain rfl := placed.eq_of_offset sighted seen offset
      refine free ⟨_, seen', rfl, ?_, follows name both.mp declared⟩
      obtain ⟨mem, named⟩ := mem_of_last? last
      exact List.mem_map.mpr ⟨i', mem, named⟩
  rcases output.imports with eq | eq
  · rw [eq] at last
    exact .inr (image last)
  · rw [eq, last?, List.reverse_cons, List.find?_append, Option.or_eq_some_iff] at last
    rcases last with last | ⟨-, last⟩
    · exact .inr (image last)
    · exact .inl (List.mem_singleton.mp (List.mem_of_find?_eq_some last))

end Imports

/-- A pass with the imports of the output is a later pass over it. -/
theorem Pass.isLater_ofModule {config : Config} {file : SourceFile} {span : Option Span}
    {items items' images : List Tree} {interpreter : Tree} {r : Registry} {names : List String}
    {wrapper : Option Identifier} (apart : config.IsApart) (defined : "undefined" ∉ names)
    (placed : Syntax.IsPlaced (.sourceModule span items interpreter))
    (exposed : ∀ s ∈ (Tree.sourceModule span items interpreter).sightings [],
      isInternal s.name = false)
    (rewritten : (ofModule config file (.sourceModule span items interpreter)).RewritesAll r names
      items images)
    (output : config.Output names images wrapper items') :
    IsLater (ofModule config file (.sourceModule span items interpreter))
      (ofModule config file (.sourceModule span items' interpreter)) names
      (.sourceModule span items interpreter) (.sourceModule span items' interpreter) := by
  refine ⟨rfl, apart.bind_not_mem.1, apart.bind_not_mem.2, defined, ?_⟩
  intro renames chain chain' reference subset follows seen seen'
  cases found : (Imports.ofModule (.sourceModule span items' interpreter)).binding?
      (renamed renames reference.root.name) reference.root.offset with
  | none =>
    refine .inr fun list _ => ?_
    rw [isHelper_eq, Reference.root_rename]
    exact congrArg (Option.any _) found
  | some i' =>
    have helper (list : List String) :
        (ofModule config file (.sourceModule span items' interpreter)).isHelper list
          (reference.rename renames) = config.accepts list reference i' := by
      rw [isHelper_eq, Reference.root_rename]
      exact (congrArg (Option.any _) found).trans (config.accepts_rename list renames reference i')
    rcases Imports.binding?_of_output placed exposed rewritten.imports output follows seen seen'
      found with rfl | ⟨i, before, became⟩
    · refine .inr fun list mem => ?_
      rw [helper, apart.accepts_wrapperBinding mem]
    · rcases apart.accepts_of_becomes became reference with same | nothing
      · refine .inl fun list mem => ?_
        rw [helper, same list mem, isHelper_eq]
        exact (congrArg (Option.any (config.accepts list reference)) before).symm
      · refine .inr fun list mem => ?_
        rw [helper, nothing list mem]

end MessageExtraction
