import Mathlib.Logic.Relation
import MessageExtraction.Proofs.Scope.Enclosing

/-!
# Variables of a function

Where the `var` declarations of a function stand, beside the names that are collected from its statements.

* `Holds`: which statements stand directly in which, a rule for each form of statement. Functions and classes
  hold none, so a way down by `Holds` stays in the function.
* `hoists_iff_exists`: a statement declares by `var` what a declaration does to which a way leads from it
  that does not pass through a `with`.
* `hoistedNamesOf_agrees_iff`: exactly unless a name is declared below a `with` only, it is collected if and
  only if it is declared. `not_mem_hoistedNamesOf_with`: such a name is not collected.
-/

namespace MessageExtraction.Syntax.Tree

open Relation (ReflTransGen)

/-! ## Statements in statements -/

/-- A statement stands directly in another one. The heads of loops count as statements, and so do the parts of
a `try` and the cases of a `switch`. -/
inductive Holds : Tree → Tree → Prop
  | block {span : Option Span} {stmts : List Tree} {t : Tree} (mem : t ∈ stmts) :
      Holds (.blockStatement span stmts) t
  | consequent {span : Option Span} {test consequent alternate : Tree} :
      Holds (.ifStatement span test consequent alternate) consequent
  | alternate {span : Option Span} {test consequent alternate : Tree} :
      Holds (.ifStatement span test consequent alternate) alternate
  | forHead {span : Option Span} {init test update body : Tree} :
      Holds (.forStatement span init test update body) init
  | forBody {span : Option Span} {init test update body : Tree} :
      Holds (.forStatement span init test update body) body
  | forInHead {span : Option Span} {left right body : Tree} :
      Holds (.forInStatement span left right body) left
  | forInBody {span : Option Span} {left right body : Tree} :
      Holds (.forInStatement span left right body) body
  | forOfHead {span : Option Span} {isAwait left right body : Tree} :
      Holds (.forOfStatement span isAwait left right body) left
  | forOfBody {span : Option Span} {isAwait left right body : Tree} :
      Holds (.forOfStatement span isAwait left right body) body
  | whileBody {span : Option Span} {test body : Tree} : Holds (.whileStatement span test body) body
  | doWhileBody {span : Option Span} {test body : Tree} : Holds (.doWhileStatement span test body) body
  | labeled {span : Option Span} {label body : Tree} : Holds (.labeledStatement span label body) body
  | withBody {span : Option Span} {object body : Tree} :
      Holds (.node .withStatement span [object, body]) body
  | tried {span : Option Span} {block handler finalizer : Tree} :
      Holds (.tryStatement span block handler finalizer) block
  | handler {span : Option Span} {block handler finalizer : Tree} :
      Holds (.tryStatement span block handler finalizer) handler
  | caught {span : Option Span} {param body : Tree} : Holds (.catchClause span param body) body
  | finalizer {span : Option Span} {block handler finalizer : Tree} :
      Holds (.tryStatement span block handler finalizer) finalizer
  | switchCase {span : Option Span} {discriminant : Tree} {cases : List Tree} {t : Tree} (mem : t ∈ cases) :
      Holds (.switchStatement span discriminant cases) t
  | inCase {span : Option Span} {test : Tree} {consequent : List Tree} {t : Tree} (mem : t ∈ consequent) :
      Holds (.switchCase span test consequent) t

/-- A statement stands directly in another one that is no `with`. -/
def HoldsPlainly (t u : Tree) : Prop := Holds t u ∧ t.kind? ≠ some .withStatement

/-- A declaration declares a name by `var`. -/
inductive DeclaresByVar : Tree → String → Prop
  | intro {span : Option Span} {isDeclared t : Tree} {declarations : List Tree} {name : String}
      (mem : t ∈ declarations) (binds : Binds t name) :
      DeclaresByVar (.variableDeclaration span "var" isDeclared declarations) name

/-- A `var` declaration of a name occurs in statements, at any depth within the function. -/
def VarOccurs (stmts : List Tree) (name : String) : Prop :=
  ∃ t ∈ stmts, ∃ declaration, ReflTransGen Holds t declaration ∧ DeclaresByVar declaration name

/-- A `var` declaration of a name occurs in statements, but below no `with`. -/
def VarOccursPlainly (stmts : List Tree) (name : String) : Prop :=
  ∃ t ∈ stmts, ∃ declaration, ReflTransGen HoldsPlainly t declaration ∧ DeclaresByVar declaration name

/-- A name is declared by `var` in statements, always below a `with`. -/
def VarOccursUnderWithOnly (stmts : List Tree) (name : String) : Prop :=
  VarOccurs stmts name ∧ ¬ VarOccursPlainly stmts name

/-! ## Names that are collected -/

variable {t u : Tree} {stmts : List Tree} {name : String}

theorem holds_of_mem_substatements (mem : u ∈ t.substatements) : Holds t u := by
  rw [substatements.eq_def] at mem
  split at mem
  · exact .block mem
  · rcases List.mem_pair.mp mem with rfl | rfl
    · exact .consequent
    · exact .alternate
  · rcases List.mem_pair.mp mem with rfl | rfl
    · exact .forHead
    · exact .forBody
  · rcases List.mem_pair.mp mem with rfl | rfl
    · exact .forInHead
    · exact .forInBody
  · rcases List.mem_pair.mp mem with rfl | rfl
    · exact .forOfHead
    · exact .forOfBody
  · exact List.mem_singleton.mp mem ▸ .whileBody
  · exact List.mem_singleton.mp mem ▸ .doWhileBody
  · exact List.mem_singleton.mp mem ▸ .labeled
  · rcases List.mem_cons.mp mem with rfl | mem
    · exact .tried
    rcases List.mem_pair.mp mem with rfl | rfl
    · exact .handler
    · exact .finalizer
  · exact List.mem_singleton.mp mem ▸ .caught
  · exact .switchCase mem
  · exact .inCase mem
  · contradiction

/-- The search goes on below a statement to all statements that stand in it, but for a `with`. -/
theorem mem_substatements_iff : u ∈ t.substatements ↔ HoldsPlainly t u := by
  constructor
  · intro mem
    refine ⟨holds_of_mem_substatements mem, fun isWith => ?_⟩
    cases t with
    | node =>
      cases isWith
      exact List.not_mem_nil mem
    | _ => contradiction
  · rintro ⟨holds, plain⟩
    cases holds with
    | withBody => exact absurd rfl plain
    | _ => simp [substatements, *]

/-- A statement declares by `var` what the declarations declare that stand in it below no `with`. -/
theorem hoists_iff_exists :
    Hoists t name
      ↔ ∃ declaration, ReflTransGen HoldsPlainly t declaration ∧ DeclaresByVar declaration name := by
  constructor
  · intro h
    induction h with
    | declaration mem binds => exact ⟨_, .refl, .intro mem binds⟩
    | inside mem _ ih =>
      obtain ⟨declaration, way, declares⟩ := ih
      exact ⟨declaration, .head (mem_substatements_iff.mp mem) way, declares⟩
  · rintro ⟨declaration, way, declares⟩
    induction way using ReflTransGen.head_induction_on with
    | refl =>
      cases declares with
      | intro mem binds => exact .declaration mem binds
    | head step _ ih => exact .inside (mem_substatements_iff.mpr step) ih

theorem mem_hoistedNamesOf_iff : name ∈ hoistedNamesOf stmts ↔ VarOccursPlainly stmts name := by
  rw [hoistedNamesOf_eq_flatMap, List.mem_flatMap, VarOccursPlainly]
  simp only [← hoists_iff, hoists_iff_exists]

theorem VarOccursPlainly.varOccurs (h : VarOccursPlainly stmts name) : VarOccurs stmts name := by
  obtain ⟨t, mem, declaration, way, declares⟩ := h
  exact ⟨t, mem, declaration, ReflTransGen.mono (fun _ _ => And.left) _ _ way, declares⟩

/-- The names that are collected from the statements of a function are those that a `var` declaration binds
which occurs in them below no `with`. These are all that a `var` declaration binds exactly unless the name is
declared below a `with` only. -/
theorem hoistedNamesOf_agrees_iff (stmts : List Tree) (name : String) :
    ((name ∈ hoistedNamesOf stmts ↔ VarOccurs stmts name) ↔ ¬ VarOccursUnderWithOnly stmts name)
      ∧ (name ∈ hoistedNamesOf stmts ↔ VarOccursPlainly stmts name) := by
  refine ⟨?_, mem_hoistedNamesOf_iff⟩
  rw [mem_hoistedNamesOf_iff, VarOccursUnderWithOnly, not_and_not_right]
  exact ⟨Iff.mpr, fun h => ⟨VarOccursPlainly.varOccurs, h⟩⟩

/-- The body of a function with a `with` that declares `t` by `var`. -/
def withStatements : List Tree :=
  [.node .withStatement (some ⟨42, 61⟩)
    [.identifier (some ⟨48, 49⟩) "x" .absent .absent,
      .blockStatement (some ⟨51, 61⟩)
        [.variableDeclaration (some ⟨53, 59⟩) "var" (.flag false)
          [.variableDeclarator (some ⟨57, 58⟩) (.identifier (some ⟨57, 58⟩) "t" .absent .absent) .absent
            (.flag false)]]]]

/-- The `t` that is declared by `var` below a `with` is not collected. -/
theorem not_mem_hoistedNamesOf_with :
    VarOccurs withStatements "t" ∧ "t" ∉ hoistedNamesOf withStatements :=
  ⟨⟨_, List.mem_cons_self, _,
    .head .withBody (.head (.block List.mem_cons_self) .refl),
    .intro List.mem_cons_self (.declarator .identifier)⟩, by decide⟩

end MessageExtraction.Syntax.Tree
