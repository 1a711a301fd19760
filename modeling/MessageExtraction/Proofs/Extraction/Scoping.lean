import MessageExtraction.Proofs.Extraction.Rewritten
import MessageExtraction.Proofs.Scope.Enclosing

/-!
# Scopes after a run

A run renames declarations and what refers to them alike, so an identifier that stands below a declaration
of its name still does afterwards.

* `Rewrites.binds`, `Rewrites.hoists`, `Rewrites.declares`: the rules for declarations, after a run.
* `Rewrites.declaredNames`: what a node declares for a field it declares under the new names.
* `Follows`: how the fields above an identifier before and after a run belong together.
-/

namespace MessageExtraction

open Syntax (Tree Span Identifier Frame DeclaredIn Sighting)
open Component (renamed)

/-! ## Declarations -/

namespace Pass

variable {pass : Pass} {r : Registry} {names : List String} {name : String} {t u part : Tree}
  {ts us : List Tree}

theorem Rewrites.items (h : pass.Rewrites r names t u) : pass.RewritesAll r names t.items u.items := by
  cases h with
  | list items => exact items
  | _ => exact .nil

/-- A pattern binds the same names after a run, but for new ones. -/
theorem Rewrites.binds (h : pass.Rewrites r names t u) (binds : Tree.Binds t name) :
    Tree.Binds u (renamed names name) := by
  induction binds generalizing u with
  | identifier =>
    cases h with
    | identifier => exact .identifier
    | node plain => contradiction
  | element mem _ ih =>
    cases h with | node _ fields =>
    obtain _ | ⟨list, _ | ⟨_, _ | ⟨_, _ | _⟩⟩⟩ := fields
    cases list with | list items =>
    obtain ⟨u, mem, inner⟩ := items.exists_of_mem mem
    exact .element mem (ih inner)
  | property mem _ ih =>
    cases h with | node _ fields =>
    obtain _ | ⟨list, _ | ⟨_, _ | ⟨_, _ | _⟩⟩⟩ := fields
    cases list with | list items =>
    obtain ⟨u, mem, inner⟩ := items.exists_of_mem mem
    exact .property mem (ih inner)
  | value _ ih =>
    cases h with | node _ fields =>
    obtain _ | ⟨_, _ | ⟨inner, _ | _⟩⟩ := fields
    exact .value (ih inner)
  | shorthand _ ih =>
    cases h with | node _ fields =>
    obtain _ | ⟨inner, _ | ⟨_, _ | _⟩⟩ := fields
    exact .shorthand (ih inner)
  | withDefault _ ih =>
    cases h with | node _ fields =>
    obtain _ | ⟨inner, _ | ⟨_, _ | _⟩⟩ := fields
    exact .withDefault (ih inner)
  | rest _ ih =>
    cases h with | node _ fields =>
    obtain _ | ⟨_, _ | ⟨inner, _ | ⟨_, _ | _⟩⟩⟩ := fields
    exact .rest (ih inner)
  | parameter _ ih =>
    cases h with | node _ fields =>
    obtain _ | ⟨_, _ | ⟨inner, _ | _⟩⟩ := fields
    exact .parameter (ih inner)
  | propertyParameter _ ih =>
    cases h with | node _ fields =>
    obtain _ | ⟨_, _ | ⟨_, _ | ⟨_, _ | ⟨_, _ | ⟨inner, _ | _⟩⟩⟩⟩⟩ := fields
    exact .propertyParameter (ih inner)
  | declarator _ ih =>
    cases h with | node _ fields =>
    obtain _ | ⟨inner, _ | ⟨_, _ | ⟨_, _ | _⟩⟩⟩ := fields
    exact .declarator (ih inner)

/-- The statements directly below a statement have their counterparts below it after a run. -/
theorem Rewrites.exists_substatement (h : pass.Rewrites r names t u) (mem : part ∈ t.substatements) :
    ∃ part' ∈ u.substatements, pass.Rewrites r names part part' := by
  rw [Syntax.Tree.substatements.eq_def] at mem
  split at mem
  · cases h with | node _ fields =>
    obtain _ | ⟨list, _ | _⟩ := fields
    cases list with | list items => exact items.exists_of_mem mem
  · cases h with | node _ fields =>
    obtain _ | ⟨_, _ | ⟨consequent, _ | ⟨alternate, _ | _⟩⟩⟩ := fields
    exact RewritesAll.exists_of_mem (.cons consequent (.cons alternate .nil)) mem
  · cases h with | node _ fields =>
    obtain _ | ⟨init, _ | ⟨_, _ | ⟨_, _ | ⟨body, _ | _⟩⟩⟩⟩ := fields
    exact RewritesAll.exists_of_mem (.cons init (.cons body .nil)) mem
  · cases h with | node _ fields =>
    obtain _ | ⟨left, _ | ⟨_, _ | ⟨body, _ | _⟩⟩⟩ := fields
    exact RewritesAll.exists_of_mem (.cons left (.cons body .nil)) mem
  · cases h with | node _ fields =>
    obtain _ | ⟨_, _ | ⟨left, _ | ⟨_, _ | ⟨body, _ | _⟩⟩⟩⟩ := fields
    exact RewritesAll.exists_of_mem (.cons left (.cons body .nil)) mem
  · cases h with | node _ fields =>
    obtain _ | ⟨_, _ | ⟨body, _ | _⟩⟩ := fields
    exact RewritesAll.exists_of_mem (.cons body .nil) mem
  · cases h with | node _ fields =>
    obtain _ | ⟨_, _ | ⟨body, _ | _⟩⟩ := fields
    exact RewritesAll.exists_of_mem (.cons body .nil) mem
  · cases h with | node _ fields =>
    obtain _ | ⟨_, _ | ⟨body, _ | _⟩⟩ := fields
    exact RewritesAll.exists_of_mem (.cons body .nil) mem
  · cases h with | node _ fields =>
    obtain _ | ⟨block, _ | ⟨handler, _ | ⟨finalizer, _ | _⟩⟩⟩ := fields
    exact RewritesAll.exists_of_mem (.cons block (.cons handler (.cons finalizer .nil))) mem
  · cases h with | node _ fields =>
    obtain _ | ⟨_, _ | ⟨body, _ | _⟩⟩ := fields
    exact RewritesAll.exists_of_mem (.cons body .nil) mem
  · cases h with | node _ fields =>
    obtain _ | ⟨_, _ | ⟨list, _ | _⟩⟩ := fields
    cases list with | list items => exact items.exists_of_mem mem
  · cases h with | node _ fields =>
    obtain _ | ⟨_, _ | ⟨list, _ | _⟩⟩ := fields
    cases list with | list items => exact items.exists_of_mem mem
  · contradiction

/-- A statement declares the same names by `var` after a run, but for new ones. -/
theorem Rewrites.hoists (h : pass.Rewrites r names t u) (hoists : Tree.Hoists t name) :
    Tree.Hoists u (renamed names name) := by
  induction hoists generalizing u with
  | declaration mem binds =>
    cases h with | node _ fields =>
    obtain _ | ⟨⟨⟩, _ | ⟨_, _ | ⟨list, _ | _⟩⟩⟩ := fields
    cases list with | list items =>
    obtain ⟨u, mem, rewritten⟩ := items.exists_of_mem mem
    exact .declaration mem (rewritten.binds binds)
  | inside mem _ ih =>
    obtain ⟨u, mem, rewritten⟩ := h.exists_substatement mem
    exact .inside mem (ih rewritten)

theorem Rewrites.declaresVariable (h : pass.Rewrites r names t u)
    (declares : Tree.DeclaresVariable t name) : Tree.DeclaresVariable u (renamed names name) := by
  cases declares with | intro other mem binds =>
  cases h with | node _ fields =>
  obtain _ | ⟨⟨⟩, _ | ⟨_, _ | ⟨list, _ | _⟩⟩⟩ := fields
  cases list with | list items =>
  obtain ⟨u, mem, rewritten⟩ := items.exists_of_mem mem
  exact .intro other mem (rewritten.binds binds)

theorem Rewrites.declaresInBlock (h : pass.Rewrites r names t u)
    (declares : Tree.DeclaresInBlock t name) : Tree.DeclaresInBlock u (renamed names name) := by
  cases declares with
  | functionName binds =>
    cases h with | node _ fields =>
    obtain _ | ⟨own, _ | ⟨_, _ | ⟨_, _ | ⟨_, _ | ⟨_, _ | ⟨_, _ | ⟨_, _ | ⟨_, _ | ⟨_, _ | _⟩⟩⟩⟩⟩⟩⟩⟩⟩
      := fields
    exact .functionName (own.binds binds)
  | className binds =>
    cases h with | node _ fields =>
    obtain _ | ⟨own, _ | ⟨_, _ | ⟨_, _ | ⟨_, _ | ⟨_, _ | ⟨_, _ | ⟨_, _ | ⟨_, _ | ⟨_, _ | _⟩⟩⟩⟩⟩⟩⟩⟩⟩
      := fields
    exact .className (own.binds binds)
  | declared declares => exact .declared (h.declaresVariable declares)

/-- A function is one after a run, with its parameters and its body rewritten. -/
theorem Rewrites.functionParts? {f : Tree.FunctionParts} (h : pass.Rewrites r names t u)
    (holds : t.functionParts? = some f) :
    ∃ f', u.functionParts? = some f' ∧ f'.start = f.start
      ∧ pass.RewritesAll r names f.params f'.params ∧ pass.Rewrites r names f.body f'.body := by
  rw [Syntax.Tree.functionParts?.eq_def] at holds
  split at holds
  · cases holds
    cases h with | node _ fields =>
    obtain _ | ⟨params, _ | ⟨_, _ | ⟨body, _ | ⟨_, _ | ⟨_, _ | ⟨_, _ | ⟨_, _ | _⟩⟩⟩⟩⟩⟩⟩ := fields
    exact ⟨_, rfl, rfl, params.items, body⟩
  · cases holds
    cases h with | node _ fields =>
    obtain _ | ⟨_, _ | ⟨params, _ | ⟨_, _ | ⟨body, _ | ⟨_, _ | ⟨_, _ | ⟨_, _ | ⟨_, _ | _⟩⟩⟩⟩⟩⟩⟩⟩
      := fields
    exact ⟨_, rfl, rfl, params.items, body⟩
  · cases holds
    cases h with | node _ fields =>
    obtain _ | ⟨_, _ | ⟨_, _ | ⟨params, _ | ⟨_, _ | ⟨body, _ | ⟨_, _ | ⟨_, _ | ⟨_, _ | ⟨_, _ | _⟩⟩⟩⟩⟩⟩⟩⟩⟩
      := fields
    exact ⟨_, rfl, rfl, params.items, body⟩
  · cases holds
    cases h with | node _ fields =>
    obtain _ | ⟨_, _ | ⟨params, _ | ⟨_, _ | ⟨body, _ | ⟨_, _ | ⟨_, _ | ⟨_, _ | ⟨_, _ | _⟩⟩⟩⟩⟩⟩⟩⟩
      := fields
    exact ⟨_, rfl, rfl, params.items, body⟩
  · cases holds
    cases h with | node _ fields =>
    obtain _ | ⟨params, _ | ⟨body, _ | ⟨_, _ | ⟨_, _ | ⟨_, _ | ⟨_, _ | _⟩⟩⟩⟩⟩⟩ := fields
    cases params with | list items => exact ⟨_, rfl, rfl, items, body⟩
  · cases holds
    cases h with | node _ fields =>
    obtain _ | ⟨_, _ | ⟨params, _ | ⟨body, _ | ⟨_, _ | ⟨_, _ | _⟩⟩⟩⟩⟩ := fields
    cases params with | list items => exact ⟨_, rfl, rfl, items, body⟩
  · contradiction

theorem Rewrites.loopHead? {head : Tree} (h : pass.Rewrites r names t u)
    (heads : t.loopHead? = some head) :
    ∃ head', u.loopHead? = some head' ∧ pass.Rewrites r names head head' := by
  rw [Syntax.Tree.loopHead?.eq_def] at heads
  split at heads
  · cases heads
    cases h with | node _ fields =>
    obtain _ | ⟨init, _ | ⟨_, _ | ⟨_, _ | ⟨_, _ | _⟩⟩⟩⟩ := fields
    exact ⟨_, rfl, init⟩
  · cases heads
    cases h with | node _ fields =>
    obtain _ | ⟨left, _ | ⟨_, _ | ⟨_, _ | _⟩⟩⟩ := fields
    exact ⟨_, rfl, left⟩
  · cases heads
    cases h with | node _ fields =>
    obtain _ | ⟨_, _ | ⟨left, _ | ⟨_, _ | ⟨_, _ | _⟩⟩⟩⟩ := fields
    exact ⟨_, rfl, left⟩
  · contradiction

theorem Rewrites.declares {i : Nat} (h : pass.Rewrites r names t u) (declares : Tree.Declares i t name) :
    Tree.Declares i u (renamed names name) := by
  cases declares with
  | parameter holds inside mem binds =>
    obtain ⟨f', holds', start, params, -⟩ := h.functionParts? holds
    obtain ⟨param', mem', rewritten⟩ := params.exists_of_mem mem
    exact .parameter holds' (start ▸ inside) mem' (rewritten.binds binds)
  | hoisted holds inside hoists =>
    obtain ⟨f', holds', start, -, body⟩ := h.functionParts? holds
    exact .hoisted holds' (start ▸ inside) (body.hoists hoists)
  | functionName binds =>
    cases h with | node _ fields =>
    obtain _ | ⟨own, _ | ⟨_, _ | ⟨_, _ | ⟨_, _ | ⟨_, _ | ⟨_, _ | ⟨_, _ | ⟨_, _ | _⟩⟩⟩⟩⟩⟩⟩⟩ := fields
    exact .functionName (own.binds binds)
  | className binds =>
    cases h with | node _ fields =>
    obtain _ | ⟨own, _ | ⟨_, _ | ⟨_, _ | ⟨_, _ | ⟨_, _ | ⟨_, _ | ⟨_, _ | ⟨_, _ | _⟩⟩⟩⟩⟩⟩⟩⟩ := fields
    exact .className (own.binds binds)
  | block mem declares =>
    cases h with | node _ fields =>
    obtain _ | ⟨list, _ | _⟩ := fields
    cases list with | list items =>
    obtain ⟨stmt', mem', rewritten⟩ := items.exists_of_mem mem
    exact .block mem' (rewritten.declaresInBlock declares)
  | caught binds =>
    cases h with | node _ fields =>
    obtain _ | ⟨param, _ | ⟨_, _ | _⟩⟩ := fields
    exact .caught (param.binds binds)
  | loop heads declares =>
    obtain ⟨head', heads', rewritten⟩ := h.loopHead? heads
    exact .loop heads' (rewritten.declaresVariable declares)

/-- What a node declares for a field, it declares under the new names after a run. -/
theorem Rewrites.declaredNames (h : pass.Rewrites r names t u) (i : Nat) {name : String}
    (mem : name ∈ t.declaredNames i) : renamed names name ∈ u.declaredNames i :=
  Tree.declares_iff.mp (h.declares (Tree.declares_iff.mpr mem))

end Pass

/-! ## Ways down -/

/-- Whether the declarations above an identifier of a module are found above it after a run that renames
`renames`, in a place where it renames `names`. -/
def Follows (renames names : List String) (chain chain' : List Frame) : Prop :=
  ∀ name, (name ∈ renames → name ∈ names) → DeclaredIn chain name →
    DeclaredIn chain' (renamed names name)

namespace Follows

variable {renames names : List String} {chain chain' : List Frame}

theorem nil : Follows renames names [] [] := by
  rintro name - ⟨frame, mem, -⟩
  contradiction

theorem cons (h : Follows renames names chain chain') {frame frame' : Frame}
    (declared : ∀ name ∈ frame.declared, renamed names name ∈ frame'.declared) :
    Follows renames names (frame :: chain) (frame' :: chain') := by
  intro name allowed inside
  rw [Syntax.declaredIn_cons] at inside ⊢
  exact inside.imp (declared name) (h name allowed)

/-- Fields without declarations of their own come and go. -/
theorem extend (h : Follows renames names chain chain') {extra extra' : List Frame}
    (plain : ∀ frame ∈ extra, frame.declared = []) :
    Follows renames names (extra ++ chain) (extra' ++ chain') := by
  rintro name allowed ⟨frame, mem, declared⟩
  rcases List.mem_append.mp mem with mem | mem
  · rw [plain frame mem] at declared
    contradiction
  · obtain ⟨frame', mem', declared'⟩ := h name allowed ⟨frame, mem, declared⟩
    exact ⟨frame', List.mem_append_right _ mem', declared'⟩

theorem undeclared (h : Follows renames names chain chain') {frame frame' : Frame}
    (plain : frame.declared = []) : Follows renames names (frame :: chain) (frame' :: chain') := by
  refine @extend _ _ _ _ h [frame] [frame'] fun f hf => ?_
  rwa [List.mem_singleton.mp hf]

theorem made (h : Follows renames names chain chain') {frame' : Frame} :
    Follows renames names chain (frame' :: chain') :=
  @extend _ _ _ _ h [] [frame'] (by simp)

theorem of_subset (h : Follows renames names chain chain') (subset : names ⊆ renames) :
    Follows renames [] chain chain' := by
  intro name other inside
  have kept : name ∉ renames := fun mem => List.not_mem_nil (other mem)
  have := h name (fun mem => absurd mem kept) inside
  rwa [renamed, if_neg fun mem => kept (subset mem)] at this

end Follows

/-! ## References -/

namespace Reference

/-- The identifier that a reference starts with. -/
def root : Reference → Identifier
  | .plain identifier => identifier
  | .member object _ => object

/-- A reference after a renaming. -/
def rename (names : List String) : Reference → Reference
  | .plain identifier => .plain { identifier with name := renamed names identifier.name }
  | .member object name => .member { object with name := renamed names object.name } name

theorem root_rename (names : List String) (reference : Reference) :
    (reference.rename names).root
      = { reference.root with name := renamed names reference.root.name } := by
  cases reference <;> rfl

/-- A node that names a function is, or holds, the identifier that the name starts with. -/
theorem sighted_of_ofCallee? {t : Tree} {reference : Reference}
    (h : ofCallee? t = some reference) (chain : List Frame) :
    ∃ extra, (∀ frame ∈ extra, frame.declared = [])
      ∧ ⟨reference.root.name, reference.root.offset, extra ++ chain⟩ ∈ t.sightings chain := by
  rw [ofCallee?.eq_def] at h
  split at h
  · cases h
    exact ⟨[], by simp, List.mem_cons_self⟩
  · rename_i span objectSpan name o d propertySpan property
    cases h
    refine ⟨[⟨.memberExpression span (.identifier objectSpan name o d)
      (.identifierName propertySpan property), 0⟩], ?_, List.mem_cons_self⟩
    rintro frame mem
    rw [List.mem_singleton.mp mem]
    rfl
  · contradiction

/-- A node that names a tag is, or holds, the identifier that the name starts with. -/
theorem sighted_of_ofTag? {t : Tree} {reference : Reference}
    (h : ofTag? t = some reference) (chain : List Frame) :
    ∃ extra, (∀ frame ∈ extra, frame.declared = [])
      ∧ ⟨reference.root.name, reference.root.offset, extra ++ chain⟩ ∈ t.sightings chain := by
  rw [ofTag?.eq_def] at h
  split at h
  · cases h
    exact ⟨[], by simp, List.mem_cons_self⟩
  · rename_i span objectSpan name o d propertySpan property
    cases h
    refine ⟨[⟨.jsxMemberExpression span (.identifier objectSpan name o d)
      (.identifierName propertySpan property), 0⟩], ?_, List.mem_cons_self⟩
    rintro frame mem
    rw [List.mem_singleton.mp mem]
    rfl
  · contradiction

end Reference

namespace Pass

variable {pass : Pass} {r : Registry} {names : List String} {t u : Tree}

/-- What names a function after a run, named it before, but for a new name. -/
theorem Rewrites.ofCallee? {reference' : Reference} (h : pass.Rewrites r names t u)
    (found : Reference.ofCallee? u = some reference') :
    ∃ reference, Reference.ofCallee? t = some reference ∧ reference' = reference.rename names := by
  rw [Reference.ofCallee?.eq_def] at found
  split at found
  · cases found
    obtain ⟨name, o, d, rfl, rfl⟩ := h.eq_identifier
    exact ⟨_, rfl, rfl⟩
  · cases found
    cases h with | node _ fields =>
    obtain _ | ⟨object, _ | ⟨property, _ | _⟩⟩ := fields
    obtain rfl := property.eq_identifierName
    obtain ⟨name, o, d, rfl, rfl⟩ := object.eq_identifier
    exact ⟨_, rfl, rfl⟩
  · contradiction

/-- What names a tag after a run, named it before, but for a new name. -/
theorem Rewrites.ofTag? {reference' : Reference} (h : pass.Rewrites r names t u)
    (found : Reference.ofTag? u = some reference') :
    ∃ reference, Reference.ofTag? t = some reference ∧ reference' = reference.rename names := by
  rw [Reference.ofTag?.eq_def] at found
  split at found
  · cases found
    obtain ⟨name, o, d, rfl, rfl⟩ := h.eq_identifier
    exact ⟨_, rfl, rfl⟩
  · cases found
    cases h with | node _ fields =>
    obtain _ | ⟨object, _ | ⟨property, _ | _⟩⟩ := fields
    obtain rfl := property.eq_identifierName
    obtain ⟨name, o, d, rfl, rfl⟩ := object.eq_identifier
    exact ⟨_, rfl, rfl⟩
  · contradiction

end Pass

end MessageExtraction
