import MessageExtraction.Proofs.Extraction.Messages
import MessageExtraction.Proofs.Extraction.Output

/-!
# Modules that mark no messages

A module that imports nothing from the module that marks messages and exports no component stays as it is,
with whatever calls and tags in it. Only an import makes a name a marking one, never its spelling.

* `isHelper_of_isUnrelated`: no reference is to a marking function or component.
* `walk_of_isUnrelated`: so a walk over a tree changes and gathers nothing.
* `extractFile_unrelated`: nor does the extraction of the file.
-/

namespace MessageExtraction

open Syntax (Tree Span)

/-! ## Import paths -/

namespace Import

/-- The path of the module that an item imports from, none for an import of types. -/
def path? : Tree → Option String
  | .importDeclaration _ _ (.stringLiteral _ (.text path) _) typeOnly _ _ =>
      if typeOnly = .flag true then none else some path
  | _ => none

/-- All imports of an item are from one module. -/
theorem path?_of_mem_ofItem {item : Tree} {i : Import} (mem : i ∈ ofItem item) :
    path? item = some i.modulePath := by
  rw [ofItem.eq_def] at mem
  split at mem
  · rename_i path _ typeOnly _ _
    rw [path?]
    split at mem
    · contradiction
    · rename_i values
      obtain ⟨specifier, -, found⟩ := List.mem_filterMap.mp mem
      rw [if_neg values, (exists_of_ofSpecifier? found).1]
  · contradiction

end Import

/-! ## References -/

namespace Pass

variable {pass : Pass}

/-- Whether a module imports nothing from the module that marks messages. -/
def IsUnrelated (pass : Pass) : Prop :=
  ∀ i ∈ pass.imports.bindings,
    ModulePath.same pass.config.internalPathMarkers i.modulePath pass.config.moduleSource = false

theorem isHelper_of_isUnrelated (unrelated : pass.IsUnrelated) (names : List String)
    (reference : Reference) : pass.isHelper names reference = false := by
  rw [isHelper_eq, Option.any_eq_false]
  intro i found
  have mem : i ∈ pass.imports.bindings := by
    rw [Imports.binding?] at found
    split at found
    · contradiction
    · exact List.mem_reverse.mp (List.mem_of_find?_eq_some found)
  rw [Config.accepts.eq_def, unrelated i mem, Bool.false_and]

theorem helperCall?_of_isUnrelated (unrelated : pass.IsUnrelated) (span : Option Span)
    (callee : Tree) (args : List Tree) : pass.helperCall? span callee args = none := by
  rw [helperCall?]
  cases Reference.ofCallee? callee with
  | none => rfl
  | some reference => simp [isHelper_of_isUnrelated unrelated]

theorem tagMeaning?_of_isUnrelated (unrelated : pass.IsUnrelated) (name : Tree) :
    pass.tagMeaning? name = none := by
  rw [tagMeaning?]
  cases Reference.ofTag? name with
  | none => rfl
  | some reference => simp [isHelper_of_isUnrelated unrelated]

/-! ## Walks -/

mutual
theorem walk_of_isUnrelated (unrelated : pass.IsUnrelated) : (t : Tree) → {s : Session} →
    t.IsFlat → pass.walk s t = (t, s)
  | t, s, flat => by
    rw [walk.eq_def]
    split
    · rename_i span callee args types
      obtain ⟨flatCallee, flatArgs, flatTypes⟩ := flat.call
      split
      · rfl
      · rw [helperCall?_of_isUnrelated unrelated]
        dsimp only
        rw [walk_of_isUnrelated unrelated callee flatCallee,
          walkAll_of_isUnrelated unrelated args flatArgs,
          walk_of_isUnrelated unrelated types flatTypes]
    · rename_i span name attributes closing types
      obtain ⟨flatName, flatAttributes, flatTypes⟩ := flat.tag
      split
      · rfl
      · -- A tag without a meaning holds nothing and gets no attributes.
        rw [tagFindings, addedAttributes, tagMeaning?_of_isUnrelated unrelated]
        dsimp only [Session.recordAll, List.foldl_nil]
        rw [walk_of_isUnrelated unrelated name flatName,
          walkAll_of_isUnrelated unrelated attributes flatAttributes,
          walk_of_isUnrelated unrelated types flatTypes, List.append_nil]
    · exact absurd rfl (Syntax.Tree.isFlat_node.mp flat).1
    · rw [walkAll_of_isUnrelated unrelated _ (Syntax.Tree.isFlat_node.mp flat).2]
    · rw [walkAll_of_isUnrelated unrelated _ flat]
    · rfl
termination_by t => sizeOf t

theorem walkAll_of_isUnrelated (unrelated : pass.IsUnrelated) : (ts : List Tree) →
    {s : Session} → Syntax.Tree.AreFlat ts → pass.walkAll s ts = (ts, s)
  | [], _, _ => rfl
  | t :: ts, s, flat => by
    rw [Syntax.Tree.areFlat_cons] at flat
    rw [walkAll, walk_of_isUnrelated unrelated t flat.1]
    dsimp only
    rw [walkAll_of_isUnrelated unrelated ts flat.2]
termination_by ts => sizeOf ts
end

theorem walkItems_of_isUnrelated (unrelated : pass.IsUnrelated) {items : List Tree} {s : Session}
    (flat : Syntax.Tree.AreFlat items)
    (plain : ∀ item ∈ items, Component.ofItem? pass.config item = none)
    (ok : s.failed = false) (outside : s.component = none) :
    pass.walkItems s items = (items.map (·, none), s) := by
  induction items with
  | nil => rfl
  | cons item items ih =>
    rw [Syntax.Tree.areFlat_cons] at flat
    -- The note of the component that is visited is set and taken back to what it was.
    have same : { s with component := none } = s := by rw [← outside]
    rw [walkItems, plain item List.mem_cons_self]
    dsimp only [Option.map_none]
    rw [same, walk_of_isUnrelated unrelated item flat.1]
    dsimp only
    rw [same, if_neg (Bool.eq_false_iff.mp ok), Session.plan,
      ih flat.2 fun later mem => plain later (List.mem_cons_of_mem item mem)]
    rfl

end Pass

/-! ## Files -/

/-- A module is left as it is, without messages and warnings and with nothing written, if it exports no
component and imports nothing but types from the module that marks messages. Two paths name the same module
if they agree from their first marker on. -/
theorem extractFile_unrelated {config : Config} {span : Option Span} {items : List Tree}
    (flat : Syntax.Tree.AreFlat items)
    (others : ∀ item ∈ items, ∀ path ∈ Import.path? item,
      ModulePath.normalize config.internalPathMarkers path
        ≠ ModulePath.normalize config.internalPathMarkers config.moduleSource)
    (plain : ∀ item ∈ items, Component.ofItem? config item = none)
    (fs : FileSystem) (root : Path) (file : SourceFile) (interpreter : Tree) :
    extractFile config fs root file (.sourceModule span items interpreter)
      = (.sourceModule span items interpreter, fs, .ok ⟨[], [], none⟩) := by
  have unrelated : (Pass.ofModule config file (.sourceModule span items interpreter)).IsUnrelated := by
    intro i mem
    obtain ⟨item, mem, found⟩ := List.mem_flatMap.mp mem
    exact beq_false_of_ne (others item mem i.modulePath (Import.path?_of_mem_ofItem found))
  have walked : (Pass.ofModule config file (.sourceModule span items interpreter)).extract
      (.sourceModule span items interpreter) = (.sourceModule span items interpreter, {}) := by
    rw [Pass.extract, Pass.walk, if_neg (by decide)]
    dsimp only
    rw [Pass.walkItems_of_isUnrelated unrelated flat plain rfl rfl]
    dsimp only
    rw [Pass.finishItems_of_none]
  rw [extractFile_of_walk walked, Session.finish_of_unwritten rfl (.inr rfl)]

/-- The items of a module that imports a function from elsewhere, a type from the module that marks messages,
and nothing of the name in its last call. All of them are called as marking functions and components are. -/
def unrelatedItems : List Tree :=
  [.importDeclaration (some ⟨1, 2⟩)
      [.importSpecifier (some ⟨3, 4⟩) (.identifier (some ⟨3, 4⟩) "translate" .absent .absent)
        .absent (.flag false)]
      (literalAt 5 "./react-intl") (.flag false) .absent (.text "evaluation"),
    .importDeclaration (some ⟨10, 11⟩)
      [.importSpecifier (some ⟨12, 13⟩)
        (.identifier (some ⟨12, 13⟩) "FormattedMessage" .absent .absent) .absent (.flag false)]
      (literalAt 14 "react-intl") (.flag true) .absent (.text "evaluation"),
    .expressionStatement (some ⟨20, 21⟩)
      (.callExpression (some ⟨20, 21⟩) (.identifier (some ⟨20, 21⟩) "translate" .absent .absent)
        [.element none (literalAt 22 "hello"),
          .element none (.node .jsxElement (some ⟨24, 25⟩)
            [.jsxOpeningElement (some ⟨24, 25⟩)
              (.identifier (some ⟨26, 27⟩) "FormattedMessage" .absent .absent)
              [.jsxAttribute (some ⟨28, 29⟩) (.identifierName (some ⟨28, 29⟩) "id")
                (literalAt 30 "bye")] (.flag true) .absent, .list [], .absent])] .absent),
    .expressionStatement (some ⟨40, 41⟩)
      (.callExpression (some ⟨40, 41⟩)
        (.identifier (some ⟨40, 41⟩) "defineMessages" .absent .absent)
        [.element none (.arrayExpression (some ⟨42, 43⟩) [])] .absent)]

/-- Calls and tags that are only spelled as marking ones. -/
theorem extractFile_unrelatedItems :
    Syntax.Tree.AreFlat unrelatedItems
      ∧ (∀ item ∈ unrelatedItems, ∀ path ∈ Import.path? item,
        ModulePath.normalize ["i18n"] path ≠ ModulePath.normalize ["i18n"] "react-intl")
      ∧ (∀ item ∈ unrelatedItems, Component.ofItem? {} item = none)
      ∧ extractFile {} default ⟨"."⟩ ⟨"a.js", ""⟩ (.sourceModule (some ⟨1, 50⟩) unrelatedItems .absent)
        = (.sourceModule (some ⟨1, 50⟩) unrelatedItems .absent, default, .ok ⟨[], [], none⟩) := by
  have flat : Syntax.Tree.AreFlat unrelatedItems := by decide
  have others : ∀ item ∈ unrelatedItems, ∀ path ∈ Import.path? item,
      ModulePath.normalize ["i18n"] path ≠ ModulePath.normalize ["i18n"] "react-intl" := by
    decide
  have plain : ∀ item ∈ unrelatedItems, Component.ofItem? {} item = none := by decide
  exact ⟨flat, others, plain, extractFile_unrelated flat others plain default ⟨"."⟩ ⟨"a.js", ""⟩ _⟩

end MessageExtraction
