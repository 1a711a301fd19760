import MessageExtraction.Proofs.Extraction.Insertion

/-!
# Directives

A module may begin with directives, statements that are string literals and nothing else, such as
`"use client"`. They count as long as nothing stands before them.

* `Outlines.eq_of_directive`, `Outlines.isDirective`: a walk and a renaming keep directives, and make none.
* `prologue_inserted`: so do the exports that are inserted, which follow other items.
* `prologue_extractFile`: a run keeps the directives of a module, unless it inserts the import of the wrapping
  function, which comes before them: then the output has none.
-/

namespace MessageExtraction

open Syntax (Tree Span)
open Syntax.Tree (Outlines)
open Component (rename renamed wrappedExport wrapperImport namesOf)

namespace Syntax.Tree

/-- Whether an item is a directive. The text of the literal stands beside it if it holds half a surrogate
pair. -/
def isDirective : Tree → Bool
  | .expressionStatement _ (.stringLiteral _ (.text _) .absent) => true
  | .expressionStatement _ (.stringLiteral _ .absent (.text _)) => true
  | _ => false

/-- The directives that a body begins with. -/
def prologue (items : List Tree) : List Tree := items.takeWhile isDirective

variable {f : String → String} {t u : Tree}

/-- A directive is its own outline, and the outline of nothing else. -/
theorem Outlines.eq_of_directive (h : Outlines f t u)
    (directive : t.isDirective = true ∨ u.isDirective = true) : u = t := by
  rcases directive with is | is <;> rw [isDirective.eq_def] at is <;> split at is
  any_goals contradiction
  -- Each node on the way down to the text shows its parts, so that the other tree has the same.
  all_goals
    cases h with | node _ parts =>
    obtain _ | ⟨literal, _ | _⟩ := parts rfl
    cases literal with | node _ literalParts =>
    obtain _ | ⟨⟨⟩, _ | ⟨⟨⟩, _ | _⟩⟩ := literalParts rfl
    rfl

theorem Outlines.isDirective (h : Outlines f t u) : u.isDirective = t.isDirective := by
  rw [Bool.eq_iff_iff]
  constructor
  · intro is
    rwa [h.eq_of_directive (.inr is)] at is
  · intro is
    rwa [h.eq_of_directive (.inl is)]

/-- Where each directive goes to itself, and any other item to one that is none with whatever behind it, the
prologue stays. -/
theorem prologue_flatten_mapIdx {place : Nat → Tree → List Tree} {items : List Tree}
    (kept : ∀ i, ∀ item ∈ items, item.isDirective = true → place i item = [item])
    (others : ∀ i, ∀ item ∈ items, item.isDirective = false →
      ∃ first more, place i item = first :: more ∧ first.isDirective = false) :
    prologue (items.mapIdx place).flatten = prologue items := by
  unfold prologue
  induction items generalizing place with
  | nil => rfl
  | cons item items ih =>
    rw [List.mapIdx_cons, List.flatten_cons]
    cases is : item.isDirective with
    | true =>
      rw [kept 0 item List.mem_cons_self is, List.singleton_append, List.takeWhile_cons_of_pos is,
        List.takeWhile_cons_of_pos is]
      refine congrArg (item :: ·) (ih ?_ ?_)
      · exact fun i other mem => kept (i + 1) other (List.mem_cons_of_mem _ mem)
      · exact fun i other mem => others (i + 1) other (List.mem_cons_of_mem _ mem)
    | false =>
      obtain ⟨first, more, placed, other⟩ := others 0 item List.mem_cons_self is
      rw [placed, List.cons_append, List.takeWhile_cons_of_neg (by simp [other]),
        List.takeWhile_cons_of_neg (by simp [is])]

end Syntax.Tree

open Syntax.Tree (isDirective prologue)

namespace Component

theorem ofItem?_of_directive {item : Tree} (config : Config) (is : item.isDirective = true) :
    ofItem? config item = none := by
  rw [Syntax.Tree.isDirective.eq_def] at is
  split at is
  · rfl
  · rfl
  · contradiction

end Component

namespace Pass

variable {pass : Pass} {span : Option Span} {items : List Tree} {interpreter : Tree}

/-- The items of the output begin with the directives of the module, but for the import before them. -/
theorem prologue_inserted (flat : Syntax.Tree.AreFlat items)
    (ok : (pass.walkItems {} items).2.failed = false) :
    prologue (items.mapIdx (pass.insertedItem items)).flatten = prologue items := by
  refine Syntax.Tree.prologue_flatten_mapIdx (fun i item mem is => ?_) (fun i item mem is => ?_)
  · have same := (outlinesItem_transformed flat ok mem).outlines.eq_of_directive (.inl is)
    have renamed := (Component.outlines_rename (pass.convertedNames items) item).eq_of_directive (.inl is)
    have plain : Component.converted? pass.config items i item = none := by
      rw [Component.converted?, Component.untaken?, Component.ofItem?_of_directive _ is,
        Option.bind_none]
    rw [insertedItem, plain, same, renamed]
    rfl
  · refine ⟨_, _, rfl, ?_⟩
    rw [(Component.outlines_rename _ _).isDirective,
      (outlinesItem_transformed flat ok mem).outlines.isDirective, is]

theorem missingImport_eq_nil_iff : pass.missingImport items = []
    ↔ namesOf pass.config items = []
      ∨ pass.imports.find? pass.config.wrapperModule (.named pass.config.wrapperFunction) ≠ none := by
  have same : pass.convertedNames items = [] ↔ namesOf pass.config items = [] := by
    simp only [List.eq_nil_iff_forall_not_mem, mem_convertedNames]
  rw [missingImport, ← same]
  split
  · rename_i missing
    simp [missing.1, missing.2]
  · rename_i found
    rw [not_and_or, not_not] at found
    exact iff_of_true rfl found

/-- The import of the wrapping function is no directive, so none behind it counts. -/
theorem prologue_of_missingImport {more : List Tree} (missing : pass.missingImport items ≠ []) :
    prologue (pass.missingImport items ++ more) = [] := by
  rw [missingImport] at missing ⊢
  split
  · rfl
  · rename_i found
    exact absurd (if_neg found) missing

/-- A run without a fault keeps the directives of a module, or leaves it without any. -/
theorem prologue_extract (flat : Syntax.Tree.AreFlat items)
    (ok : (pass.extract (.sourceModule span items interpreter)).2.failed = false) :
    ∃ output, (pass.extract (.sourceModule span items interpreter)).1
        = .sourceModule span output interpreter
      ∧ (prologue output = prologue items
        ↔ prologue items = [] ∨ namesOf pass.config items = []
          ∨ pass.imports.find? pass.config.wrapperModule (.named pass.config.wrapperFunction) ≠ none)
      ∧ (prologue output = prologue items ∨ prologue output = []) := by
  have started := (@not_failed_of_walkItems pass span items interpreter _ _ rfl ok).1
  refine ⟨_, extract_eq_inserted flat ok, ?_⟩
  rw [← missingImport_eq_nil_iff]
  by_cases needless : pass.missingImport items = []
  · rw [needless, List.nil_append, prologue_inserted flat started]
    exact ⟨iff_of_true rfl (.inr rfl), .inl rfl⟩
  · rw [prologue_of_missingImport needless, or_iff_left needless]
    exact ⟨eq_comm, .inr rfl⟩

end Pass

section Module

variable {config : Config} {fs fs' : FileSystem} {root : Path} {file : SourceFile} {span : Option Span}
  {items : List Tree} {interpreter tree : Tree} {result : FileResult}

/-- The output of a run has the directives of the module exactly if there are none, or no component is
wrapped, or the wrapping function is imported already. Otherwise it has none at all. -/
theorem prologue_extractFile (flat : Syntax.Tree.AreFlat items)
    (run : extractFile config fs root file (.sourceModule span items interpreter)
      = (tree, fs', .ok result)) :
    ∃ output, tree = .sourceModule span output interpreter
      ∧ (prologue output = prologue items
        ↔ prologue items = [] ∨ namesOf config items = []
          ∨ (Imports.ofModule (.sourceModule span items interpreter)).find? config.wrapperModule
              (.named config.wrapperFunction) ≠ none)
      ∧ (prologue output = prologue items ∨ prologue output = []) := by
  have ok := (Session.finish_ok_iff.mp (congrArg Prod.snd run)).1
  have left : ((Pass.ofModule config file (.sourceModule span items interpreter)).extract
      (.sourceModule span items interpreter)).1 = tree := congrArg Prod.fst run
  obtain ⟨output, made, directives⟩ := Pass.prologue_extract flat ok
  exact ⟨output, left.symm.trans made, directives⟩

end Module

/-- The directive `"use client"` at the start of a source. -/
def clientDirective : Tree :=
  .expressionStatement (some ⟨1, 14⟩) (.stringLiteral (some ⟨1, 13⟩) (.text "use client") .absent)

/-- The items of a module with a directive, the import of the wrapping function and a component. -/
def readyItems : List Tree :=
  [clientDirective,
    .importDeclaration (some ⟨15, 55⟩)
      [.importSpecifier (some ⟨24, 34⟩) (.identifier (some ⟨24, 34⟩) "injectIntl" .absent .absent)
        .absent (.flag false)]
      (.stringLiteral (some ⟨42, 54⟩) (.text "react-intl") .absent) (.flag false) .absent
      (.text "evaluation"),
    exportOfA 56]

/-- In the output of `readyItems` the directive comes first. -/
theorem prologue_readyItems :
    Syntax.Tree.AreFlat readyItems
      ∧ prologue readyItems = [clientDirective]
      ∧ ∃ output,
        extractFile {} default ⟨"."⟩ ⟨"a.js", ""⟩ (.sourceModule (some ⟨1, 91⟩) readyItems .absent)
            = (.sourceModule (some ⟨1, 91⟩) output .absent, default, .ok ⟨[], [], none⟩)
          ∧ prologue output = [clientDirective] := by
  have flat : Syntax.Tree.AreFlat readyItems := by decide
  have run : extractFile {} default ⟨"."⟩ ⟨"a.js", ""⟩
        (.sourceModule (some ⟨1, 91⟩) readyItems .absent)
      = ((extractFile {} default ⟨"."⟩ ⟨"a.js", ""⟩
          (.sourceModule (some ⟨1, 91⟩) readyItems .absent)).1, default,
        .ok ⟨[], [], none⟩) := Prod.ext rfl rfl
  obtain ⟨output, made, kept, -⟩ := prologue_extractFile flat run
  rw [made] at run
  exact ⟨flat, rfl, output, run, kept.mpr (.inr (.inr (by decide)))⟩

/-- The items of a module with a directive and a component. -/
def clientItems : List Tree := [clientDirective, exportOfA 15]

/-- In the output of `clientItems` the directive comes second, behind the import of the wrapping function. -/
theorem prologue_clientItems :
    prologue clientItems = [clientDirective]
      ∧ ∃ output,
        extractFile {} default ⟨"."⟩ ⟨"a.js", ""⟩ (.sourceModule (some ⟨1, 50⟩) clientItems .absent)
            = (.sourceModule (some ⟨1, 50⟩) output .absent, default, .ok ⟨[], [], none⟩)
          ∧ prologue output = []
          ∧ output[0]? = some (wrapperImport (.made "injectIntl") "react-intl")
          ∧ output[1]? = some clientDirective :=
  ⟨rfl, _, Prod.ext rfl rfl, rfl, rfl, rfl⟩

end MessageExtraction
