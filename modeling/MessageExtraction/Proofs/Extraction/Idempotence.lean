import MessageExtraction.Proofs.Extraction.Exported
import MessageExtraction.Proofs.Extraction.Output
import MessageExtraction.Proofs.FileSystem.Growth
import Mathlib.Logic.Function.Iterate

/-!
# Running again

A run over the output of a run has nothing left to do: calls are bound, arrays are objects, default texts
are there and components are internal. What it finds was found before. Only the calls that wrap components
are new, and those must not be taken for calls that mark messages.

* `settled_output`: the items of the output are settled for every later pass that does not take them so.
* `extractFile_again_iff`: when the output can be run over again, in a new session or in the same.
-/

namespace MessageExtraction

open Syntax (Tree Span Identifier)
open Component (isInternal internalName wrappedExport wrapperImport)

/-! ## Exports of wrapped components -/

namespace Pass

variable {pass pass' : Pass} {r : Registry}

/-- Whether a pass takes calls of the wrapping function for calls that mark messages. -/
def marks (pass : Pass) (wrapper : Identifier) : Bool :=
  pass.isHelper pass.config.translateFunctions (.plain wrapper)
    || pass.isHelper pass.config.defineMessagesFunctions (.plain wrapper)

/-- The argument of a call that wraps a component. -/
def wrapArguments (name : String) : List Tree :=
  [.element none (Identifier.made (internalName name)).toTree]

theorem helperCall?_wrapper {wrapper : Identifier} (h : pass.marks wrapper = false)
    (span : Option Span) (args : List Tree) :
    pass.helperCall? span wrapper.toTree args = none := by
  rw [marks, Bool.or_eq_false_iff] at h
  rw [Identifier.toTree, helperCall?, Reference.ofCallee?]
  dsimp only [bind, Option.bind]
  rw [h.1, h.2]
  rfl

theorem settled_wrappedExport {wrapper : Identifier} (h : pass.marks wrapper = false)
    (name : String) : pass.Settled r (wrappedExport wrapper name) := by
  have call : pass.Settled r
      (.callExpression (some .made) wrapper.toTree (wrapArguments name) .absent) := by
    refine ⟨fun call found => ?_, ?_, ?_, trivial⟩
    · rw [helperCall?_wrapper h] at found
      contradiction
    · simp [Identifier.toTree, Settled, SettledAll]
    · simp [wrapArguments, Identifier.toTree, Settled, SettledAll]
  rw [wrapArguments] at call
  simp [wrappedExport, Identifier.toTree, Settled, SettledAll] at call ⊢
  exact call

theorem settled_wrapperImport (wrapper : Identifier) (path : String) :
    pass.Settled r (wrapperImport wrapper path) := by
  simp [wrapperImport, Identifier.toTree, StaticValue.stringNode, Settled, SettledAll]

theorem internalName_ne_undefined (name : String) : internalName name ≠ "undefined" := by
  intro eq
  have := Component.isInternal_internalName name
  rw [eq] at this
  contradiction

/-- The name of a component is no message. -/
theorem fault_of_wrapArguments (call : HelperCall) {name : String}
    (args : call.args = wrapArguments name) :
    ∃ finding ∈ call.findings pass, ¬ finding.IsHeld r := by
  have unknown : (Identifier.made (internalName name)).toTree.evaluateText = none := by
    rw [Identifier.toTree, Syntax.Tree.evaluateText, Syntax.Tree.evaluate,
      Identifier.made, if_neg (internalName_ne_undefined name)]
    rfl
  rw [HelperCall.findings]
  cases kind : call.kind with
  | single =>
    have failed : call.descriptor = .error (.notStatic "id") := by
      rw [HelperCall.descriptor, args, wrapArguments]
      simp [HelperCall.fullCount, HelperCall.isSpread, HelperCall.expression, unknown]
    dsimp only
    rw [failed]
    exact ⟨_, List.mem_singleton_self _, id⟩
  | bulk =>
    have unusable : call.argument = .unusable (call.shapeFault call.span) := by
      rw [HelperCall.argument, args]
      rfl
    dsimp only
    rw [unusable]
    exact ⟨_, List.mem_singleton_self _, id⟩

/-- A pass that takes calls of the wrapping function for calls that mark messages finds a fault in each. -/
theorem fault_of_marks {wrapper : Identifier} (h : pass.marks wrapper = true) (name : String) :
    ∃ finding ∈ pass.survey (wrappedExport wrapper name), ¬ finding.IsHeld r := by
  obtain ⟨call, found, args⟩ : ∃ call, pass.helperCall? (some .made) wrapper.toTree
      (wrapArguments name) = some call ∧ call.args = wrapArguments name := by
    rw [marks, Bool.or_eq_true] at h
    rw [Identifier.toTree, helperCall?, Reference.ofCallee?]
    dsimp only [bind, Option.bind]
    split
    · exact ⟨_, rfl, rfl⟩
    · rename_i notSingle
      rw [if_pos (h.resolve_left notSingle)]
      exact ⟨_, rfl, rfl⟩
  obtain ⟨finding, mem, fault⟩ := @fault_of_wrapArguments pass r call name args
  refine ⟨finding, ?_, fault⟩
  rw [wrapArguments] at found
  simp [wrappedExport, survey, surveyAll, callFindings, found, mem]

theorem mem_surveyAll {t : Tree} {ts : List Tree} (mem : t ∈ ts) {finding : Finding}
    (found : finding ∈ pass.survey t) : finding ∈ pass.surveyAll ts := by
  induction ts with
  | nil => contradiction
  | cons u ts ih =>
    rw [surveyAll]
    rcases List.mem_cons.mp mem with rfl | mem
    · exact List.mem_append_left _ found
    · exact List.mem_append_right _ (ih mem)

/-! ## Walks over the output -/

section Output

variable {names : List String} {span : Option Span} {items items' images : List Tree}
  {interpreter : Tree} {wrapper : Option Identifier}

/-- Each item of the output is settled for a later pass that does not take the wrapping function for one
that marks messages. -/
theorem settled_output
    (later : IsLater pass pass' names (.sourceModule span items interpreter)
      (.sourceModule span items' interpreter))
    (rewritten : pass.RewritesAll r names items images)
    (output : pass.config.Output names images wrapper items')
    (internal : ∀ item ∈ images, Component.ofItem? pass.config item = none)
    (unmarked : ∀ w ∈ wrapper, pass'.marks w = false) :
    ∀ item ∈ items', pass'.SettledItem r item := by
  intro item mem
  rw [SettledItem, later.config]
  rcases output.origin item mem with image | ⟨w, wraps, name, -, rfl⟩ | rfl
  · obtain ⟨before, memBefore, rewrites⟩ := forall₂_exists_of_mem rewritten.forall₂ image
    obtain ⟨i, seen⟩ := @Syntax.Tree.sightings_item span items interpreter before memBefore
    obtain ⟨i', seen'⟩ := @Syntax.Tree.sightings_item span items' interpreter item mem
    refine ⟨settled_of_rewrites later rewrites (List.Subset.refl _) ?_ seen seen',
      internal item image⟩
    exact (Follows.nil.undeclared rfl).undeclared rfl
  · exact ⟨settled_wrappedExport (unmarked w wraps) name,
      Component.ofItem?_wrappedExport pass.config w name⟩
  · exact ⟨settled_wrapperImport _ _, Component.ofItem?_wrapperImport _ _ _⟩

/-- A walk over the output without a fault takes no wrapping function for one that marks messages. -/
theorem unmarked_of_walk {config : Config} (output : config.Output names images wrapper items')
    (translate : "bind" ∉ pass'.config.translateFunctions)
    (define : "bind" ∉ pass'.config.defineMessagesFunctions) {s : Session}
    (ok : (pass'.walk s (.sourceModule span items' interpreter)).2.failed = false) :
    ∀ w ∈ wrapper, pass'.marks w = false := by
  intro w wraps
  by_contra marked
  rw [Bool.not_eq_false] at marked
  obtain ⟨name, -, exported⟩ := output.exports w wraps
  obtain ⟨-, held⟩ :=
    (walk_gathers (bindFindings_eq_nil translate define) s
      (.sourceModule span items' interpreter)).held ok
  obtain ⟨finding, mem, fault⟩ := fault_of_marks marked name
  exact fault (held finding (mem_surveyAll exported mem))

/-- A walk over settled items leaves the module as it is, and finds nothing that was not found before. -/
theorem walk_settled (translate : "bind" ∉ pass.config.translateFunctions)
    (define : "bind" ∉ pass.config.defineMessagesFunctions)
    (settled : ∀ item ∈ items, pass.SettledItem r item) {s : Session} (ok : s.failed = false)
    (within : s.registry.Within r) :
    (pass.walk s (.sourceModule span items interpreter)).1 = .sourceModule span items interpreter
      ∧ (pass.walk s (.sourceModule span items interpreter)).2.failed = false
      ∧ (pass.walk s (.sourceModule span items interpreter)).2.registry.Within r :=
  ⟨walk_of_settledItems settled,
    (walk_gathers (bindFindings_eq_nil translate define) s _).of_held ok within
      (heldAll_of_settled items (settledAll_of_forall fun item mem => (settled item mem).1))⟩

end Output

/-! ## Runs over the output -/

/-- A walk over the tree that a walk left, in the same session. -/
def walkAgain (pass : Pass) (run : Tree × Session) : Tree × Session := pass.walk run.2 run.1

end Pass

/-- What a module is asked for so that its output can be compared with further runs over it. Each identifier
has a place of its own and no name that wrapped components have, no module stands inside the module, and no
component is called `undefined`, which values are written with. -/
structure Config.Admits (config : Config) (span : Option Span) (items : List Tree)
    (interpreter : Tree) : Prop where
  flat : Syntax.Tree.AreFlat items
  placed : Syntax.IsPlaced (.sourceModule span items interpreter)
  exposed : ∀ s ∈ (Tree.sourceModule span items interpreter).sightings [],
    isInternal s.name = false
  defined : ∀ item ∈ items, ∀ component ∈ Component.ofItem? config item,
    component.identifier.name ≠ "undefined"

namespace Pass

section Module

variable {config : Config} {file : SourceFile} {span : Option Span} {items : List Tree}
  {interpreter tree : Tree} {s : Session}

theorem exposed_imports (admits : config.Admits span items interpreter) {i : Import}
    (mem : i ∈ items.flatMap Import.ofItem) : isInternal i.binding.name = false := by
  obtain ⟨s, sighted, named⟩ := @Syntax.Tree.shows_import span items interpreter i mem []
  exact named ▸ admits.exposed s sighted

/-- What is known of a module and of the output of a run over it. -/
theorem extract_output (apart : config.IsApart) (admits : config.Admits span items interpreter)
    (run : (ofModule config file (.sourceModule span items interpreter)).extract
      (.sourceModule span items interpreter) = (tree, s)) (ok : s.failed = false) :
    ∃ names images items', tree = .sourceModule span items' interpreter
      ∧ "undefined" ∉ names
      ∧ (ofModule config file (.sourceModule span items interpreter)).RewritesAll s.registry names
          items images
      ∧ config.Output names images s.wrapper items'
      ∧ (∀ item ∈ images, Component.ofItem? config item = none)
      ∧ ∀ w ∈ s.wrapper, isInternal w.name = false := by
  have others : ∀ i ∈ (ofModule config file (.sourceModule span items interpreter)).imports.bindings,
      isInternal i.binding.name = false := fun i => exposed_imports admits
  generalize passed : ofModule config file (.sourceModule span items interpreter) = pass
    at run others ⊢
  have same : pass.config = config := passed ▸ rfl
  subst same
  have started := (not_failed_of_walkItems run ok).1
  have other : "undefined" ∉ pass.planned {} items := by
    intro mem
    obtain ⟨item, mem, component, found, named⟩ := of_mem_planned admits.flat started mem
    exact admits.defined item mem component found named
  obtain ⟨wraps, images, items', eq, rewritten, output⟩ :=
    extract_items apart.bind_not_mem.1 apart.bind_not_mem.2 admits.flat other run ok
  refine ⟨_, images, items', eq, other, rewritten, output, fun item image => ?_,
    wraps apart.function others⟩
  -- A component of the output was one of the input, so it was collected and is internal now.
  cases found : Component.ofItem? pass.config item with
  | none => rfl
  | some component =>
    obtain ⟨before, mem, rewrites⟩ := forall₂_exists_of_mem rewritten.forall₂ image
    obtain ⟨found, unplanned, exposed⟩ := rewrites.component apart.bases found
    rcases mem_planned admits.flat started mem found exposed with converted | planned
    · contradiction
    · exact absurd planned unplanned

/-- When a walk over the output of a run succeeds, and what comes of it, if the walk knows the imports of
the input or those of the output. -/
theorem walk_output (apart : config.IsApart) (admits : config.Admits span items interpreter)
    (run : (ofModule config file (.sourceModule span items interpreter)).extract
      (.sourceModule span items interpreter) = (tree, s)) (ok : s.failed = false) {pass' : Pass}
    (imports : pass' = ofModule config file (.sourceModule span items interpreter)
      ∨ pass' = ofModule config file tree) {s' : Session} (started : s'.failed = false)
    (within : s'.registry.Within s.registry) :
    ((pass'.walk s' tree).2.failed = false → ∀ w ∈ s.wrapper, pass'.marks w = false)
      ∧ ((∀ w ∈ s.wrapper, pass'.marks w = false) → (pass'.walk s' tree).1 = tree
        ∧ (pass'.walk s' tree).2.failed = false
        ∧ (pass'.walk s' tree).2.registry.Within s.registry) := by
  obtain ⟨names, images, items', rfl, other, rewritten, output, internal, -⟩ :=
    extract_output apart admits run ok
  have later : IsLater (ofModule config file (.sourceModule span items interpreter)) pass' names
      (.sourceModule span items interpreter) (.sourceModule span items' interpreter) := by
    rcases imports with rfl | rfl
    · exact isLater_same apart other fun i => exposed_imports admits
    · exact isLater_ofModule apart other admits.placed admits.exposed rewritten output
  have translate : "bind" ∉ pass'.config.translateFunctions :=
    later.config ▸ apart.bind_not_mem.1
  have define : "bind" ∉ pass'.config.defineMessagesFunctions :=
    later.config ▸ apart.bind_not_mem.2
  exact ⟨unmarked_of_walk output translate define, fun unmarked =>
    walk_settled translate define
      (settled_output later rewritten output internal unmarked) started within⟩

/-- A pass over the output of a run takes the wrapping function for one that marks messages only if the
input has an import of such a function under the same name. -/
theorem imported_of_marks (apart : config.IsApart) (admits : config.Admits span items interpreter)
    (run : (ofModule config file (.sourceModule span items interpreter)).extract
      (.sourceModule span items interpreter) = (tree, s)) (ok : s.failed = false) {pass' : Pass}
    (imports : pass' = ofModule config file (.sourceModule span items interpreter)
      ∨ pass' = ofModule config file tree) {w : Identifier} (wraps : w ∈ s.wrapper)
    (marked : pass'.marks w = true) :
    ∃ i ∈ items.flatMap Import.ofItem, i.binding.name = w.name
      ∧ ∃ names ∈ [config.translateFunctions, config.defineMessagesFunctions],
        config.accepts names (.plain w) i = true := by
  obtain ⟨names, images, items', rfl, -, rewritten, output, -, wrappers⟩ :=
    extract_output apart admits run ok
  have config' : pass'.config = config := by rcases imports with rfl | rfl <;> rfl
  obtain ⟨list, listed, helper⟩ : ∃ list ∈ [config.translateFunctions, config.defineMessagesFunctions],
      pass'.isHelper list (.plain w) = true := by
    rw [marks, config', Bool.or_eq_true] at marked
    rcases marked with marked | marked
    · exact ⟨_, List.mem_cons_self, marked⟩
    · exact ⟨_, List.mem_cons_of_mem _ List.mem_cons_self, marked⟩
  have marking : list ∈ config.markingLists :=
    List.mem_append_left [config.componentNames, config.deprecatedComponentNames] listed
  rw [isHelper_eq, Option.any_eq_true, config'] at helper
  obtain ⟨i', found, accepted⟩ := helper
  rcases imports with rfl | rfl
  · obtain ⟨mem, named⟩ := Imports.mem_of_last? (Imports.binding?_some found).2
    exact ⟨i', mem, named, list, listed, accepted⟩
  · obtain ⟨mem, named⟩ := Imports.mem_of_last? (Imports.binding?_some found).2
    have origin : i' = config.wrapperBinding ∨ i' ∈ images.flatMap Import.ofItem := by
      rcases output.imports with eq | eq <;> rw [eq] at mem
      · exact .inr mem
      · exact List.mem_cons.mp mem
    rcases origin with rfl | mem
    · rw [apart.accepts_wrapperBinding marking] at accepted
      contradiction
    · obtain ⟨i, before, became⟩ := forall₂_exists_of_mem rewritten.imports mem
      have renamed : Component.renamed names i.binding.name = w.name := became.name.symm.trans named
      have kept := (eq_of_exposed (renamed ▸ wrappers w wraps)).2
      refine ⟨i, before, kept.symm.trans renamed, list, listed, ?_⟩
      rcases apart.accepts_of_becomes became (.plain w) with same | nothing
      · rw [← same list marking, accepted]
      · rw [nothing list marking] at accepted
        contradiction

end Module

end Pass

namespace Session

variable {s : Session} {config : Config} {fs fs' : FileSystem} {source root : Path}

/-- A session with less can be ended where another was ended. -/
theorem finish_again {s' : Session} {result : FileResult}
    (h : s.finish config fs source root = (fs', .ok result)) (ok : s'.failed = false)
    (within : s'.registry.Within s.registry) :
    ∃ later result', s'.finish config fs' source root = (later, .ok result') := by
  obtain ⟨-, written, emitted, -⟩ := finish_ok_iff.mp h
  obtain ⟨later, written', again⟩ := Catalog.emit_again emitted fun none =>
    List.eq_nil_iff_forall_not_mem.mpr fun d mem => by
      have := within d mem
      rw [none] at this
      contradiction
  exact ⟨later, _, finish_ok_iff.mpr ⟨ok, written', again, rfl⟩⟩

end Session

/-- After a run over a module that succeeds, a new run over its output succeeds and changes nothing exactly
if it does not take the function that components are wrapped in for one that marks messages. The same holds
of any number of further walks in the session of the first run, which knows the imports of the input. Both
take it so only if the input imports a marking function under the name of the wrapping function. -/
theorem extractFile_again_iff {config : Config} {fs fs' : FileSystem} {root : Path} {file : SourceFile}
    {span : Option Span} {items : List Tree} {interpreter tree : Tree} {result : FileResult}
    (apart : config.IsApart) (admits : config.Admits span items interpreter)
    (first : extractFile config fs root file (.sourceModule span items interpreter)
      = (tree, fs', .ok result)) :
    let pass := Pass.ofModule config file (.sourceModule span items interpreter)
    let run := pass.extract (.sourceModule span items interpreter)
    ((∃ later result', extractFile config fs' root file tree = (tree, later, .ok result'))
        ↔ ∀ w ∈ run.2.wrapper, (Pass.ofModule config file tree).marks w = false)
      ∧ ((∀ n, (pass.walkAgain^[n] run).1 = tree ∧ (pass.walkAgain^[n] run).2.failed = false)
        ↔ ∀ w ∈ run.2.wrapper, pass.marks w = false)
      ∧ ∀ w ∈ run.2.wrapper, (pass.marks w || (Pass.ofModule config file tree).marks w) = true →
        ∃ i ∈ pass.imports.bindings, i.binding.name = w.name
          ∧ ∃ names ∈ [config.translateFunctions, config.defineMessagesFunctions],
            config.accepts names (.plain w) i = true := by
  intro pass run
  obtain ⟨left, finished⟩ :
      run.1 = tree ∧ run.2.finish config fs ⟨file.path⟩ root = (fs', .ok result) :=
    Prod.mk.inj first
  have ok : run.2.failed = false := (Session.finish_ok_iff.mp finished).1
  have source : run = (tree, run.2) := Prod.ext left rfl
  have walks {pass' : Pass} (imports : pass' = pass ∨ pass' = Pass.ofModule config file tree)
      {s : Session} (started : s.failed = false) (within : s.registry.Within run.2.registry) :=
    Pass.walk_output apart admits source ok imports started within
  refine ⟨?_, ?_, fun w wraps marked => ?_⟩
  · obtain ⟨unmarked, again⟩ := @walks _ (.inr rfl) {} rfl fun d mem => by contradiction
    constructor
    · rintro ⟨later, result', eq⟩
      exact unmarked (Session.finish_ok_iff.mp (congrArg Prod.snd eq)).1
    · intro h
      obtain ⟨same, ok', within⟩ := again h
      obtain ⟨later, result', eq⟩ := Session.finish_again finished ok' within
      exact ⟨later, result', Prod.ext same eq⟩
  · constructor
    · intro again
      have once := (again 1).2
      rw [Function.iterate_one, Pass.walkAgain, left] at once
      exact (walks (.inl rfl) ok (.refl _)).1 once
    · intro unmarked n
      have step : (pass.walkAgain^[n] run).1 = tree ∧ (pass.walkAgain^[n] run).2.failed = false
          ∧ (pass.walkAgain^[n] run).2.registry.Within run.2.registry := by
        induction n with
        | zero => exact ⟨left, ok, .refl _⟩
        | succ n ih =>
          obtain ⟨same, started, within⟩ := ih
          rw [Function.iterate_succ_apply', Pass.walkAgain, same]
          exact (walks (.inl rfl) started within).2 unmarked
      exact ⟨step.1, step.2.1⟩
  · rcases (Bool.or_eq_true _ _).mp marked with marked | marked
    · exact Pass.imported_of_marks apart admits source ok (.inl rfl) wraps marked
    · exact Pass.imported_of_marks apart admits source ok (.inr rfl) wraps marked

theorem isApart_default : ({} : Config).IsApart :=
  ⟨by decide, by decide, by decide, by decide, by decide⟩

/-- A class that is a component, and its export. -/
def exportOfA (lo : Nat) : Tree :=
  .exportDeclaration (some ⟨lo, lo + 35⟩)
    (.classDeclaration (some ⟨lo + 7, lo + 35⟩)
      (.identifier (some ⟨lo + 13, lo + 14⟩) "A" .absent .absent) (.flag false) (.list [])
      (.list []) (.identifier (some ⟨lo + 23, lo + 32⟩) "Component" .absent .absent) (.flag false)
      .absent .absent (.list []))

/-- The items of a module that marks a message and exports a component. -/
def componentItems : List Tree :=
  [.importDeclaration (some ⟨1, 40⟩)
      [.importSpecifier (some ⟨10, 19⟩) (.identifier (some ⟨10, 19⟩) "translate" .absent .absent)
        .absent (.flag false)]
      (.stringLiteral (some ⟨27, 39⟩) (.text "react-intl") .absent) (.flag false) .absent
      (.text "evaluation"),
    .expressionStatement (some ⟨41, 60⟩)
      (.callExpression (some ⟨41, 59⟩) (.identifier (some ⟨41, 50⟩) "translate" .absent .absent)
        [.element none (.stringLiteral (some ⟨51, 58⟩) (.text "hello") .absent)] .absent),
    exportOfA 61]

/-- The module of `componentItems`. -/
def componentModule : Tree := .sourceModule (some ⟨1, 96⟩) componentItems .absent

/-- What a run makes of `componentModule` stays as it is in all further runs. -/
theorem extractFile_componentModule :
    ∃ tree,
      extractFile {} default ⟨"."⟩ ⟨"a.js", ""⟩ componentModule
          = (tree, default, .ok ⟨[⟨"hello", none, none⟩], [], none⟩)
        ∧ tree ≠ componentModule
        ∧ (∃ later result,
          extractFile {} default ⟨"."⟩ ⟨"a.js", ""⟩ tree = (tree, later, .ok result))
        ∧ ∀ n, ((Pass.ofModule {} ⟨"a.js", ""⟩ componentModule).walkAgain^[n]
          ((Pass.ofModule {} ⟨"a.js", ""⟩ componentModule).extract componentModule)).1 = tree := by
  have admits : ({} : Config).Admits (some ⟨1, 96⟩) componentItems .absent :=
    ⟨by decide, ⟨by decide, by decide⟩, by decide, by decide⟩
  have first : extractFile {} default ⟨"."⟩ ⟨"a.js", ""⟩ componentModule
      = ((extractFile {} default ⟨"."⟩ ⟨"a.js", ""⟩ componentModule).1, default,
        .ok ⟨[⟨"hello", none, none⟩], [], none⟩) := Prod.ext rfl rfl
  have again := extractFile_again_iff isApart_default admits first
  exact ⟨_, first, by decide +kernel, again.1.mpr (by decide +kernel),
    fun n => (again.2.1.mpr (by decide +kernel) n).1⟩

/-- The items of a module that imports a marking function under the name of the wrapping function. -/
def renamingItems : List Tree :=
  [.importDeclaration (some ⟨1, 54⟩)
      [.importSpecifier (some ⟨10, 33⟩) (.identifier (some ⟨23, 33⟩) "injectIntl" .absent .absent)
        (.identifier (some ⟨10, 19⟩) "translate" .absent .absent) (.flag false)]
      (.stringLiteral (some ⟨41, 53⟩) (.text "react-intl") .absent) (.flag false) .absent
      (.text "evaluation"),
    exportOfA 55]

/-- The module of `renamingItems`. -/
def renamingModule : Tree := .sourceModule (some ⟨1, 90⟩) renamingItems .absent

/-- What a run makes of `renamingModule` has a fault in the next run. -/
theorem extractFile_renamingModule :
    ({} : Config).IsApart ∧ ({} : Config).Admits (some ⟨1, 90⟩) renamingItems .absent
      ∧ ∃ tree,
        extractFile {} default ⟨"."⟩ ⟨"a.js", ""⟩ renamingModule
            = (tree, default, .ok ⟨[], [], none⟩)
          ∧ (extractFile {} default ⟨"."⟩ ⟨"a.js", ""⟩ tree).2
            = (default, .error (.fault ⟨.notStatic "id", ⟨"a.js", 0, 0⟩⟩)) :=
  ⟨isApart_default, ⟨by decide, ⟨by decide, by decide⟩, by decide, by decide⟩,
    (extractFile {} default ⟨"."⟩ ⟨"a.js", ""⟩ renamingModule).1, Prod.ext rfl rfl, rfl⟩

end MessageExtraction
