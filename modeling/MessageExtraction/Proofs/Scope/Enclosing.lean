import MessageExtraction.Proofs.Scope.Sighting

/-!
# Declarations around an identifier

What the nodes above an identifier declare, said by rules.

* `Binds`, `Hoists`, `DeclaresInBlock`: what a pattern binds, what a statement declares by `var` for the
  function around it, and what it declares for the block around it.
* `Declares`: what a node declares for one of its fields. A function that is written as one node with its
  name or key declares its parameters and variables only behind these.
* `declares_iff`: these are the names that the search for shadowed identifiers collects.
-/

namespace MessageExtraction.Syntax

namespace Tree

/-! ## Rules -/

/-- A pattern, a parameter or a variable of a declaration binds a name. -/
inductive Binds : Tree → String → Prop
  | identifier {span : Option Span} {name : String} {isOptional declaredType : Tree} :
      Binds (.identifier span name isOptional declaredType) name
  | element {span : Option Span} {elements : List Tree} {isOptional declaredType t : Tree}
      {name : String} (mem : t ∈ elements) (binds : Binds t name) :
      Binds (.arrayPattern span elements isOptional declaredType) name
  | property {span : Option Span} {properties : List Tree} {isOptional declaredType t : Tree}
      {name : String} (mem : t ∈ properties) (binds : Binds t name) :
      Binds (.objectPattern span properties isOptional declaredType) name
  | value {key value : Tree} {name : String} (binds : Binds value name) :
      Binds (.keyValuePatternProperty key value) name
  | shorthand {span : Option Span} {key value : Tree} {name : String} (binds : Binds key name) :
      Binds (.assignmentPatternProperty span key value) name
  | withDefault {span : Option Span} {left right : Tree} {name : String} (binds : Binds left name) :
      Binds (.assignmentPattern span left right) name
  | rest {span : Option Span} {rest argument declaredType : Tree} {name : String}
      (binds : Binds argument name) : Binds (.restElement span rest argument declaredType) name
  | parameter {span : Option Span} {decorators pattern : Tree} {name : String}
      (binds : Binds pattern name) : Binds (.parameter span decorators pattern) name
  | propertyParameter {span : Option Span}
      {decorators accessibility isOverridden readonly pattern : Tree} {name : String}
      (binds : Binds pattern name) :
      Binds (.tsParameterProperty span decorators accessibility isOverridden readonly pattern) name
  | declarator {span : Option Span} {pattern init definite : Tree} {name : String}
      (binds : Binds pattern name) : Binds (.variableDeclarator span pattern init definite) name

/-- The statements and heads of loops directly below a statement that belong to the same function. -/
def substatements : Tree → List Tree
  | .blockStatement _ stmts => stmts
  | .ifStatement _ _ consequent alternate => [consequent, alternate]
  | .forStatement _ init _ _ body => [init, body]
  | .forInStatement _ left _ body => [left, body]
  | .forOfStatement _ _ left _ body => [left, body]
  | .whileStatement _ _ body => [body]
  | .doWhileStatement _ _ body => [body]
  | .labeledStatement _ _ body => [body]
  | .tryStatement _ block handler finalizer => [block, handler, finalizer]
  | .catchClause _ _ body => [body]
  | .switchStatement _ _ cases => cases
  | .switchCase _ _ consequent => consequent
  | _ => []

/-- A statement declares a name by `var`, itself or in a statement below it. -/
inductive Hoists : Tree → String → Prop
  | declaration {span : Option Span} {isDeclared t : Tree} {declarations : List Tree} {name : String}
      (mem : t ∈ declarations) (binds : Binds t name) :
      Hoists (.variableDeclaration span "var" isDeclared declarations) name
  | inside {t u : Tree} {name : String} (mem : u ∈ t.substatements) (hoists : Hoists u name) :
      Hoists t name

/-- A declaration of variables, but by `var`, declares a name. -/
inductive DeclaresVariable : Tree → String → Prop
  | intro {span : Option Span} {kind : String} {isDeclared t : Tree} {declarations : List Tree}
      {name : String} (other : kind ≠ "var") (mem : t ∈ declarations) (binds : Binds t name) :
      DeclaresVariable (.variableDeclaration span kind isDeclared declarations) name

/-- A statement declares a name for the block that it stands in. -/
inductive DeclaresInBlock : Tree → String → Prop
  | functionName {span : Option Span}
      {identifier isDeclared params decorators body isGenerator isAsync typeParameters returnType : Tree}
      {name : String} (binds : Binds identifier name) :
      DeclaresInBlock (.functionDeclaration span identifier isDeclared params decorators body
        isGenerator isAsync typeParameters returnType) name
  | className {span : Option Span}
      {identifier isDeclared decorators body superClass isAbstract typeParams superTypeParams
        interfaces : Tree} {name : String} (binds : Binds identifier name) :
      DeclaresInBlock (.classDeclaration span identifier isDeclared decorators body superClass
        isAbstract typeParams superTypeParams interfaces) name
  | declared {t : Tree} {name : String} (declares : DeclaresVariable t name) :
      DeclaresInBlock t name

/-- The parameters and the body of a function, and the first field of it in the node that holds it. -/
structure FunctionParts where
  params : List Tree
  body : Tree
  start : Nat

/-- The function that a node is or holds. -/
def functionParts? : Tree → Option FunctionParts
  | .function _ params _ body _ _ _ _ => some ⟨params.items, body, 0⟩
  | .methodProperty _ _ params _ body _ _ _ _ => some ⟨params.items, body, 1⟩
  | .functionDeclaration _ _ _ params _ body _ _ _ _ => some ⟨params.items, body, 2⟩
  | .functionExpression _ _ params _ body _ _ _ _ => some ⟨params.items, body, 1⟩
  | .arrowFunctionExpression _ params body _ _ _ _ => some ⟨params, body, 0⟩
  | .constructor _ _ params body _ _ => some ⟨params, body, 0⟩
  | _ => none

/-- The head of a loop. -/
def loopHead? : Tree → Option Tree
  | .forStatement _ init _ _ _ => some init
  | .forInStatement _ left _ _ => some left
  | .forOfStatement _ _ left _ _ => some left
  | _ => none

/-- A node declares a name for its field number `i`. -/
inductive Declares (i : Nat) : Tree → String → Prop
  | parameter {t param : Tree} {f : FunctionParts} {name : String} (holds : t.functionParts? = some f)
      (inside : f.start ≤ i) (mem : param ∈ f.params) (binds : Binds param name) : Declares i t name
  | hoisted {t : Tree} {f : FunctionParts} {name : String} (holds : t.functionParts? = some f)
      (inside : f.start ≤ i) (hoists : Hoists f.body name) : Declares i t name
  | functionName {span : Option Span}
      {identifier params decorators body isGenerator isAsync typeParameters returnType : Tree}
      {name : String} (binds : Binds identifier name) :
      Declares i (.functionExpression span identifier params decorators body isGenerator isAsync
        typeParameters returnType) name
  | className {span : Option Span}
      {identifier decorators body superClass isAbstract typeParams superTypeParams interfaces : Tree}
      {name : String} (binds : Binds identifier name) :
      Declares i (.classExpression span identifier decorators body superClass isAbstract typeParams
        superTypeParams interfaces) name
  | block {span : Option Span} {stmts : List Tree} {t : Tree} {name : String} (mem : t ∈ stmts)
      (declares : DeclaresInBlock t name) : Declares i (.blockStatement span stmts) name
  | caught {span : Option Span} {param body : Tree} {name : String} (binds : Binds param name) :
      Declares i (.catchClause span param body) name
  | loop {t head : Tree} {name : String} (heads : t.loopHead? = some head)
      (declares : DeclaresVariable head name) : Declares i t name

/-! ## The names collected by the search -/

variable {t : Tree} {name : String} {i : Nat}

mutual
theorem binds_of_mem : (t : Tree) → {name : String} → name ∈ t.boundNames → Binds t name
  | t, name, h => by
    rw [boundNames.eq_def] at h
    split at h
    · obtain rfl := List.mem_singleton.mp h
      exact .identifier
    · obtain ⟨t, mem, binds⟩ := exists_binds_of_mem _ h
      exact .element mem binds
    · obtain ⟨t, mem, binds⟩ := exists_binds_of_mem _ h
      exact .property mem binds
    · exact .value (binds_of_mem _ h)
    · exact .shorthand (binds_of_mem _ h)
    · exact .withDefault (binds_of_mem _ h)
    · exact .rest (binds_of_mem _ h)
    · exact .parameter (binds_of_mem _ h)
    · exact .propertyParameter (binds_of_mem _ h)
    · exact .declarator (binds_of_mem _ h)
    · contradiction
termination_by t => sizeOf t

theorem exists_binds_of_mem : (ts : List Tree) → {name : String} → name ∈ boundNamesOf ts →
    ∃ t ∈ ts, Binds t name
  | t :: ts, name, h => by
    rcases List.mem_append.mp h with h | h
    · exact ⟨t, List.mem_cons_self, binds_of_mem t h⟩
    · obtain ⟨u, mem, binds⟩ := exists_binds_of_mem ts h
      exact ⟨u, List.mem_cons_of_mem t mem, binds⟩
termination_by ts => sizeOf ts
end

theorem mem_boundNamesOf {ts : List Tree} (mem : t ∈ ts) (h : name ∈ t.boundNames) :
    name ∈ boundNamesOf ts := by
  induction ts with
  | nil => contradiction
  | cons u us ih =>
    rcases List.mem_cons.mp mem with rfl | mem
    · exact List.mem_append_left _ h
    · exact List.mem_append_right _ (ih mem)

theorem binds_iff : Binds t name ↔ name ∈ t.boundNames := by
  refine ⟨fun h => ?_, binds_of_mem t⟩
  induction h with
  | identifier => exact List.mem_singleton_self _
  | element mem _ ih => exact mem_boundNamesOf mem ih
  | property mem _ ih => exact mem_boundNamesOf mem ih
  | value _ ih => exact ih
  | shorthand _ ih => exact ih
  | withDefault _ ih => exact ih
  | rest _ ih => exact ih
  | parameter _ ih => exact ih
  | propertyParameter _ ih => exact ih
  | declarator _ ih => exact ih

/-- The names that a declaration declares by `var`. -/
def varNamesHere : Tree → List String
  | .variableDeclaration _ kind _ declarations =>
      if kind = "var" then boundNamesOf declarations else []
  | _ => []

theorem hoistedNamesOf_eq_flatMap (ts : List Tree) :
    hoistedNamesOf ts = ts.flatMap hoistedNames := by
  induction ts with
  | nil => rfl
  | cons t ts ih => rw [hoistedNamesOf, ih, List.flatMap_cons]

theorem hoistedNames_eq (t : Tree) :
    t.hoistedNames = t.varNamesHere ++ t.substatements.flatMap hoistedNames := by
  rw [hoistedNames.eq_def]
  split <;> simp [varNamesHere, substatements, hoistedNamesOf_eq_flatMap]

theorem sizeOf_substatement {u : Tree} (mem : u ∈ t.substatements) : sizeOf u < sizeOf t := by
  rw [substatements.eq_def] at mem
  split at mem
  all_goals
    first
    | contradiction
    | have := List.sizeOf_lt_of_mem mem
      simp only [Syntax.Tree.node.sizeOf_spec, Syntax.Tree.list.sizeOf_spec,
        List.cons.sizeOf_spec] at this ⊢
      omega

theorem hoists_of_mem (t : Tree) (h : name ∈ t.hoistedNames) : Hoists t name := by
  rw [hoistedNames_eq, List.mem_append] at h
  rcases h with h | h
  · rw [varNamesHere.eq_def] at h
    split at h
    · split at h
      · rename_i var
        subst var
        obtain ⟨u, mem, binds⟩ := exists_binds_of_mem _ h
        exact .declaration mem binds
      · contradiction
    · contradiction
  · obtain ⟨u, mem, h⟩ := List.mem_flatMap.mp h
    have := sizeOf_substatement mem
    exact .inside mem (hoists_of_mem u h)
termination_by sizeOf t

theorem hoists_iff : Hoists t name ↔ name ∈ t.hoistedNames := by
  refine ⟨fun h => ?_, hoists_of_mem t⟩
  induction h with
  | declaration mem binds =>
    rw [hoistedNames, if_pos rfl]
    exact mem_boundNamesOf mem (binds_iff.mp binds)
  | inside mem _ ih =>
    rw [hoistedNames_eq]
    exact List.mem_append_right _ (List.mem_flatMap.mpr ⟨_, mem, ih⟩)

theorem declaresVariable_iff : DeclaresVariable t name ↔ name ∈ t.blockScopedNames := by
  constructor
  · rintro ⟨other, mem, binds⟩
    rw [blockScopedNames, if_neg other]
    exact mem_boundNamesOf mem (binds_iff.mp binds)
  · intro h
    rw [blockScopedNames.eq_def] at h
    split at h
    · split at h
      · contradiction
      · rename_i other
        obtain ⟨u, mem, binds⟩ := exists_binds_of_mem _ h
        exact .intro other mem binds
    · contradiction

theorem declaresInBlock_iff : DeclaresInBlock t name ↔ name ∈ t.lexicalNames := by
  constructor
  · intro h
    cases h with
    | functionName binds => exact binds_iff.mp binds
    | className binds => exact binds_iff.mp binds
    | declared declares =>
      have mem := declaresVariable_iff.mp declares
      cases declares
      exact mem
  · intro h
    rw [lexicalNames.eq_def] at h
    split at h
    · exact .functionName (binds_iff.mpr h)
    · exact .className (binds_iff.mpr h)
    · exact .declared (declaresVariable_iff.mpr h)

/-! ## The names collected for a field -/

/-- The names of a scope that a node opens for all of its fields. -/
def scope? : Tree → Option (List String)
  | .functionExpression _ name _ _ _ _ _ _ _ => some name.boundNames
  | .classExpression _ name _ _ _ _ _ _ _ => some name.boundNames
  | .blockStatement _ stmts => some (stmts.flatMap lexicalNames)
  | .catchClause _ param _ => some param.boundNames
  | t => t.loopHead?.map blockScopedNames

theorem scope?_of_loopHead? {head : Tree} (heads : t.loopHead? = some head) :
    t.scope? = some head.blockScopedNames := by
  rw [loopHead?.eq_def] at heads
  split at heads
  · cases heads
    rfl
  · cases heads
    rfl
  · cases heads
    rfl
  · contradiction

/-- The names of the scope that a function opens. -/
def FunctionParts.names (f : FunctionParts) : List String :=
  boundNamesOf f.params ++ f.body.hoistedNames

/-- A field is in the scope that its node opens and, behind the name or key of a function, in that of the
function. -/
theorem mem_declaredNames_iff :
    name ∈ t.declaredNames i
      ↔ (∃ names, t.scope? = some names ∧ name ∈ names)
        ∨ ∃ f, t.functionParts? = some f ∧ f.start ≤ i ∧ name ∈ f.names := by
  rw [declaredNames.eq_def]
  split
  all_goals
    simp only [scope?, loopHead?, functionParts?, functionNames, items, FunctionParts.names,
      Option.map_some, Option.map_none, Option.some.injEq, exists_eq_left', List.mem_append,
      reduceCtorEq, false_and, exists_false, false_or, or_false]
  all_goals grind

/-- A node declares for a field the names that are collected for it. -/
theorem declares_iff : Declares i t name ↔ name ∈ t.declaredNames i := by
  rw [mem_declaredNames_iff]
  constructor
  · intro h
    cases h with
    | parameter holds inside mem binds =>
      exact .inr ⟨_, holds, inside,
        List.mem_append_left _ (mem_boundNamesOf mem (binds_iff.mp binds))⟩
    | hoisted holds inside hoists =>
      exact .inr ⟨_, holds, inside, List.mem_append_right _ (hoists_iff.mp hoists)⟩
    | functionName binds => exact .inl ⟨_, rfl, binds_iff.mp binds⟩
    | className binds => exact .inl ⟨_, rfl, binds_iff.mp binds⟩
    | block mem declares =>
      exact .inl ⟨_, rfl, List.mem_flatMap.mpr ⟨_, mem, declaresInBlock_iff.mp declares⟩⟩
    | caught binds => exact .inl ⟨_, rfl, binds_iff.mp binds⟩
    | loop heads declares =>
      exact .inl ⟨_, scope?_of_loopHead? heads, declaresVariable_iff.mp declares⟩
  · rintro (⟨names, opened, mem⟩ | ⟨f, holds, inside, mem⟩)
    · rw [scope?.eq_def] at opened
      split at opened
      · cases opened
        exact .functionName (binds_iff.mpr mem)
      · cases opened
        exact .className (binds_iff.mpr mem)
      · cases opened
        obtain ⟨stmt, listed, mem⟩ := List.mem_flatMap.mp mem
        exact .block listed (declaresInBlock_iff.mpr mem)
      · cases opened
        exact .caught (binds_iff.mpr mem)
      · obtain ⟨head, heads, rfl⟩ := Option.map_eq_some_iff.mp opened
        exact .loop heads (declaresVariable_iff.mpr mem)
    · rcases List.mem_append.mp mem with mem | mem
      · obtain ⟨param, listed, binds⟩ := exists_binds_of_mem _ mem
        exact .parameter holds inside listed binds
      · exact .hoisted holds inside (hoists_iff.mpr mem)

end Tree

end MessageExtraction.Syntax
