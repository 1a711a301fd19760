import MessageExtraction.Proofs.Scope.Sighting

/-!
# Resolution of identifiers

Where the language declares names, beside where the scan for shadowed identifiers looks for declarations.

* `Tree.scopeNames` is the rule of the language: what is declared for each field of a node. Decorators
  stand outside of what they decorate (`visible`).
* `mem_scopeNames_iff`: the scan has the same names but for `missedNames` and `excessNames`. It looks into
  no `switch`, static block, accessor of an object literal, namespace or enumeration, passes over
  enumerations and `using` in blocks and over `var` below `with`, and lets the variables of a function
  count in its whole head.
* `binding?_agrees_iff`: exactly when these differences come to nothing is an identifier with the name of
  an import bound to the import where the language resolves it to the import.
* `binding?_of_switchModule`: in a `switch` they do not.

Names of nested namespaces and of aliases for their members are left out of the rule: whether they stand
for values depends on what they name.
-/

namespace MessageExtraction

namespace Syntax

namespace Tree

/-! ## What statements declare -/

mutual
/-- The names that a statement declares by `var` for the function, static block or namespace around
it. -/
def varNames : Tree → List String
  | .variableDeclaration _ kind _ declarations =>
      if kind = "var" then boundNamesOf declarations else []
  | .blockStatement _ stmts => varNamesOf stmts
  | .ifStatement _ _ consequent alternate => consequent.varNames ++ alternate.varNames
  | .forStatement _ init _ _ body => init.varNames ++ body.varNames
  | .forInStatement _ left _ body => left.varNames ++ body.varNames
  | .forOfStatement _ _ left _ body => left.varNames ++ body.varNames
  | .whileStatement _ _ body => body.varNames
  | .doWhileStatement _ _ body => body.varNames
  | .labeledStatement _ _ body => body.varNames
  | .tryStatement _ block handler finalizer =>
      block.varNames ++ handler.varNames ++ finalizer.varNames
  | .catchClause _ _ body => body.varNames
  | .switchStatement _ _ cases => varNamesOf cases
  | .switchCase _ _ consequent => varNamesOf consequent
  | .node .withStatement _ [_, body] => body.varNames
  | _ => []

/-- The names that any of the given statements declares by `var`. -/
def varNamesOf : List Tree → List String
  | [] => []
  | t :: ts => t.varNames ++ varNamesOf ts
end

/-- The names of a `using` declaration. -/
def usingNames : Tree → List String
  | .node .usingDeclaration _ [_, .list declarations] => boundNamesOf declarations
  | _ => []

/-- The name of an enumeration. -/
def enumNames : Tree → List String
  | .node .tsEnumDeclaration _ [_, _, name, _] => name.boundNames
  | _ => []

/-- The names that a statement declares for the block around it. -/
def scopedNames : Tree → List String
  | .functionDeclaration _ name _ _ _ _ _ _ _ _ => name.boundNames
  | .classDeclaration _ name _ _ _ _ _ _ _ _ => name.boundNames
  | .variableDeclaration _ kind _ declarations =>
      if kind = "var" then [] else boundNamesOf declarations
  | statement => statement.usingNames ++ statement.enumNames

/-- The names that the head of a loop declares for the loop. -/
def loopNames (head : Tree) : List String := head.blockScopedNames ++ head.usingNames

/-- The names that the statements of a case declare for the whole `switch`. -/
def caseNames : Tree → List String
  | .switchCase _ _ consequent => consequent.flatMap scopedNames
  | _ => []

/-- The statement that an item of a namespace is. -/
def unexported : Tree → Tree
  | .exportDeclaration _ declaration => declaration
  | t => t

/-- The names that an item of a namespace declares for the namespace. -/
def namespaceNames (item : Tree) : List String :=
  item.unexported.scopedNames ++ item.unexported.varNames

/-- The name of a member of an enumeration. -/
def memberNames : Tree → List String
  | .node .tsEnumMember _ [.stringLiteral _ (.text name) _, _] => [name]
  | .node .tsEnumMember _ [name, _] => name.boundNames
  | _ => []

/-! ## What nodes declare for their fields -/

/-- The parts of a function by the scope they stand in. -/
inductive Part where
  | params
  | body
  | outside
deriving DecidableEq, Repr

/-- The part that a field of a function belongs to, by the numbers of the fields that see the parameters
and of the body. -/
def partOf (head : List Nat) (body i : Nat) : Part :=
  if i = body then .body else if i ∈ head then .params else .outside

/-- The names that a function declares for its parts. -/
def partNames (params : List Tree) (body : Tree) : Part → List String
  | .params => boundNamesOf params
  | .body => boundNamesOf params ++ body.varNames
  | .outside => []

/-- The names that the language declares for field number `i` of a node. -/
def scopeNames (i : Nat) : Tree → List String
  | .function _ params _ body _ _ _ _ => partNames params.items body (partOf [0, 6] 2 i)
  | .methodProperty _ _ params _ body _ _ _ _ => partNames params.items body (partOf [1, 7] 3 i)
  | .node .getterProperty _ [_, _, body] => partNames [] body (partOf [] 2 i)
  | .node .setterProperty _ [_, _, param, body] => partNames [param] body (partOf [2] 3 i)
  | .functionDeclaration _ _ _ params _ body _ _ _ _ =>
      partNames params.items body (partOf [2, 8] 4 i)
  | .functionExpression _ name params _ body _ _ _ _ =>
      (if i = 2 then [] else name.boundNames) ++ partNames params.items body (partOf [1, 7] 3 i)
  | .arrowFunctionExpression _ params body _ _ _ _ => partNames params body (partOf [0, 5] 1 i)
  | .constructor _ _ params body _ _ => partNames params body (partOf [1] 2 i)
  | .classExpression _ name _ _ _ _ _ _ _ => if i = 1 then [] else name.boundNames
  | .node .staticBlock _ [body] => body.varNames
  | .blockStatement _ stmts => stmts.flatMap scopedNames
  | .catchClause _ param _ => param.boundNames
  | .forStatement _ init _ _ _ => init.loopNames
  | .forInStatement _ left _ _ => left.loopNames
  | .forOfStatement _ _ left _ _ => left.loopNames
  | .switchStatement _ _ cases => if i = 1 then cases.flatMap caseNames else []
  | .tsModuleBlock _ items => items.flatMap namespaceNames
  | .node .tsEnumDeclaration _ [_, _, _, .list members] =>
      if i = 3 then members.flatMap memberNames else []
  | _ => []

/-! ## What the scan has otherwise -/

mutual
/-- The names that are declared by `var` below a `with`. -/
def namesUnderWith : Tree → List String
  | .blockStatement _ stmts => namesUnderWithOf stmts
  | .ifStatement _ _ consequent alternate => consequent.namesUnderWith ++ alternate.namesUnderWith
  | .forStatement _ init _ _ body => init.namesUnderWith ++ body.namesUnderWith
  | .forInStatement _ left _ body => left.namesUnderWith ++ body.namesUnderWith
  | .forOfStatement _ _ left _ body => left.namesUnderWith ++ body.namesUnderWith
  | .whileStatement _ _ body => body.namesUnderWith
  | .doWhileStatement _ _ body => body.namesUnderWith
  | .labeledStatement _ _ body => body.namesUnderWith
  | .tryStatement _ block handler finalizer =>
      block.namesUnderWith ++ handler.namesUnderWith ++ finalizer.namesUnderWith
  | .catchClause _ _ body => body.namesUnderWith
  | .switchStatement _ _ cases => namesUnderWithOf cases
  | .switchCase _ _ consequent => namesUnderWithOf consequent
  | .node .withStatement _ [_, body] => body.varNames
  | _ => []

/-- The names that are declared by `var` below a `with` in any of the given statements. -/
def namesUnderWithOf : List Tree → List String
  | [] => []
  | t :: ts => t.namesUnderWith ++ namesUnderWithOf ts
end

/-- The names that the language declares for field number `i` of a node and the scan does not look for. -/
def missedNames (i : Nat) : Tree → List String
  | .function _ _ _ body _ _ _ _ => if i = 2 then body.namesUnderWith else []
  | .methodProperty _ _ _ _ body _ _ _ _ => if i = 3 then body.namesUnderWith else []
  | .node .getterProperty _ [_, _, body] => partNames [] body (partOf [] 2 i)
  | .node .setterProperty _ [_, _, param, body] => partNames [param] body (partOf [2] 3 i)
  | .functionDeclaration _ _ _ _ _ body _ _ _ _ => if i = 4 then body.namesUnderWith else []
  | .functionExpression _ _ _ _ body _ _ _ _ => if i = 3 then body.namesUnderWith else []
  | .arrowFunctionExpression _ _ body _ _ _ _ => if i = 1 then body.namesUnderWith else []
  | .constructor _ _ _ body _ _ => if i = 2 then body.namesUnderWith else []
  | .node .staticBlock _ [body] => body.varNames
  | .blockStatement _ stmts => stmts.flatMap fun t => t.usingNames ++ t.enumNames
  | .forStatement _ init _ _ _ => init.usingNames
  | .forInStatement _ left _ _ => left.usingNames
  | .forOfStatement _ _ left _ _ => left.usingNames
  | .switchStatement _ _ cases => if i = 1 then cases.flatMap caseNames else []
  | .tsModuleBlock _ items => items.flatMap namespaceNames
  | .node .tsEnumDeclaration _ [_, _, _, .list members] =>
      if i = 3 then members.flatMap memberNames else []
  | _ => []

/-- The names that the scan has declared for field number `i` of a node though the language has not. -/
def excessNames (i : Nat) (t : Tree) : List String :=
  (t.declaredNames i).filter (· ∉ t.scopeNames i)

mutual
theorem mem_varNames : (t : Tree) → {name : String} →
    (name ∈ t.varNames ↔ name ∈ t.hoistedNames ∨ name ∈ t.namesUnderWith)
  | t, name => by
    rw [varNames.eq_def]
    split
    · simp [hoistedNames, namesUnderWith]
    · rename_i stmts
      rw [hoistedNames, namesUnderWith, mem_varNamesOf stmts]
    · rename_i consequent alternate
      simp only [hoistedNames, namesUnderWith, List.mem_append, mem_varNames consequent,
        mem_varNames alternate]
      exact or_or_or_comm
    · rename_i init _ _ body
      simp only [hoistedNames, namesUnderWith, List.mem_append, mem_varNames init,
        mem_varNames body]
      exact or_or_or_comm
    · rename_i left _ body
      simp only [hoistedNames, namesUnderWith, List.mem_append, mem_varNames left,
        mem_varNames body]
      exact or_or_or_comm
    · rename_i left _ body
      simp only [hoistedNames, namesUnderWith, List.mem_append, mem_varNames left,
        mem_varNames body]
      exact or_or_or_comm
    · rename_i body
      rw [hoistedNames, namesUnderWith, mem_varNames body]
    · rename_i body
      rw [hoistedNames, namesUnderWith, mem_varNames body]
    · rename_i body
      rw [hoistedNames, namesUnderWith, mem_varNames body]
    · rename_i block handler finalizer
      simp only [hoistedNames, namesUnderWith, List.mem_append, mem_varNames block,
        mem_varNames handler, mem_varNames finalizer]
      grind
    · rename_i body
      rw [hoistedNames, namesUnderWith, mem_varNames body]
    · rename_i cases
      rw [hoistedNames, namesUnderWith, mem_varNamesOf cases]
    · rename_i consequent
      rw [hoistedNames, namesUnderWith, mem_varNamesOf consequent]
    · simp [hoistedNames, namesUnderWith]
    · rw [hoistedNames.eq_14, namesUnderWith.eq_14] <;> first | assumption | simp
termination_by t => sizeOf t

theorem mem_varNamesOf : (ts : List Tree) → {name : String} →
    (name ∈ varNamesOf ts ↔ name ∈ hoistedNamesOf ts ∨ name ∈ namesUnderWithOf ts)
  | [], _ => by simp [varNamesOf, hoistedNamesOf, namesUnderWithOf]
  | t :: ts, name => by
    rw [varNamesOf, hoistedNamesOf, namesUnderWithOf, List.mem_append, List.mem_append,
      List.mem_append, mem_varNames t, mem_varNamesOf ts]
    exact or_or_or_comm
termination_by ts => sizeOf ts
end

theorem mem_scopedNames (t : Tree) (name : String) :
    name ∈ t.scopedNames ↔ name ∈ t.lexicalNames ∨ name ∈ t.usingNames ++ t.enumNames := by
  rw [scopedNames.eq_def]
  split
  · simp [lexicalNames, usingNames, enumNames]
  · simp [lexicalNames, usingNames, enumNames]
  · simp [lexicalNames, blockScopedNames, usingNames, enumNames]
  · rename_i noFunction noClass noVariable
    rw [lexicalNames.eq_3 t noFunction noClass, blockScopedNames.eq_2 t noVariable]
    simp

/-- The scan sees in the head of a function all that the function declares, and in its body the same as the
language but for what stands below `with`. -/
theorem mem_partNames (params : List Tree) (body : Tree) (head : List Nat) (b i : Nat)
    (name : String) :
    name ∈ partNames params body (partOf head b i)
      → name ∈ boundNamesOf params ++ body.hoistedNames ∨ i = b ∧ name ∈ body.namesUnderWith := by
  rw [partOf]
  split
  · simp only [partNames, List.mem_append, mem_varNames body]
    grind
  · split <;> simp only [partNames, List.mem_append] <;> grind

theorem mem_partNames_of_missed {params : List Tree} {body : Tree} {head : List Nat} {b i : Nat}
    {name : String} (h : name ∈ if i = b then body.namesUnderWith else []) :
    name ∈ partNames params body (partOf head b i) := by
  split at h
  · simp [partOf, *, partNames, mem_varNames body]
  · contradiction

theorem declared_of_scope (i : Nat) (t : Tree) (name : String) (h : name ∈ t.scopeNames i) :
    name ∈ t.declaredNames i ∨ name ∈ t.missedNames i := by
  rw [scopeNames.eq_def] at h
  split at h
  · have := mem_partNames _ _ _ _ _ _ h
    simp only [declaredNames, functionNames, missedNames]
    grind
  · have := mem_partNames _ _ _ _ _ _ h
    simp only [declaredNames, functionNames, missedNames]
    by_cases i = 0
    · subst i; simp [partOf, partNames] at h
    grind
  · exact .inr h
  · exact .inr h
  · have := mem_partNames _ _ _ _ _ _ h
    simp only [declaredNames, functionNames, missedNames]
    by_cases i = 0
    · subst i; simp [partOf, partNames] at h
    by_cases i = 1
    · subst i; simp [partOf, partNames] at h
    grind
  · simp only [declaredNames, functionNames, missedNames]
    rcases List.mem_append.mp h with h | h
    · split at h <;> grind
    · have := mem_partNames _ _ _ _ _ _ h
      by_cases i = 0
      · subst i; simp [partOf, partNames] at h
      grind
  · have := mem_partNames _ _ _ _ _ _ h
    simp only [declaredNames, functionNames, missedNames, items]
    grind
  · have := mem_partNames _ _ _ _ _ _ h
    simp only [declaredNames, functionNames, missedNames, items]
    grind
  · left
    split at h <;> grind [declaredNames]
  · exact .inr h
  · rename_i stmts
    obtain ⟨t, mem, h⟩ := List.mem_flatMap.mp h
    rcases (mem_scopedNames t name).mp h with h | h
    · exact .inl (List.mem_flatMap.mpr ⟨t, mem, h⟩)
    · exact .inr (List.mem_flatMap.mpr ⟨t, mem, h⟩)
  · exact .inl h
  · exact List.mem_append.mp h
  · exact List.mem_append.mp h
  · exact List.mem_append.mp h
  · exact .inr h
  · exact .inr h
  · exact .inr h
  · contradiction

theorem scope_of_missed (i : Nat) (t : Tree) (name : String) (h : name ∈ t.missedNames i) :
    name ∈ t.scopeNames i := by
  rw [missedNames.eq_def] at h
  split at h
  · exact mem_partNames_of_missed h
  · exact mem_partNames_of_missed h
  · exact h
  · exact h
  · exact mem_partNames_of_missed h
  · exact List.mem_append_right _ (mem_partNames_of_missed h)
  · exact mem_partNames_of_missed h
  · exact mem_partNames_of_missed h
  · exact h
  · obtain ⟨t, mem, h⟩ := List.mem_flatMap.mp h
    exact List.mem_flatMap.mpr ⟨t, mem, (mem_scopedNames t name).mpr (.inr h)⟩
  · exact List.mem_append_right _ h
  · exact List.mem_append_right _ h
  · exact List.mem_append_right _ h
  · exact h
  · exact h
  · exact h
  · contradiction

/-- The language declares for a field what the scan has declared for it, without `excessNames` and with
`missedNames`. -/
theorem mem_scopeNames_iff (i : Nat) (t : Tree) (name : String) :
    name ∈ t.scopeNames i
      ↔ name ∈ t.declaredNames i ∧ name ∉ t.excessNames i ∨ name ∈ t.missedNames i := by
  have := declared_of_scope i t name
  have := scope_of_missed i t name
  rw [excessNames, List.mem_filter, decide_eq_true_eq]
  grind

end Tree

/-! ## Ways down -/

namespace Frame

/-- The names that the language declares for a field. -/
def scope (frame : Frame) : List String := frame.parent.scopeNames frame.index

/-- The names of `scope` that the scan does not look for. -/
def missed (frame : Frame) : List String := frame.parent.missedNames frame.index

/-- The names that the scan has in place of those of `scope`. -/
def excess (frame : Frame) : List String := frame.parent.excessNames frame.index

theorem mem_scope_iff (frame : Frame) (name : String) :
    name ∈ frame.scope ↔ name ∈ frame.declared ∧ name ∉ frame.excess ∨ name ∈ frame.missed :=
  Tree.mem_scopeNames_iff frame.index frame.parent name

/-- Whether a field holds the decorators of a parameter. -/
def decoratesParameter (frame : Frame) : Bool :=
  match frame.parent.kind? with
  | some .parameter | some .tsParameterProperty => frame.index == 0
  | _ => false

/-- Whether a field is one of a function. -/
def isOfFunction (frame : Frame) : Bool :=
  match frame.parent.kind? with
  | some .function | some .constructor | some .methodProperty | some .setterProperty
  | some .functionDeclaration | some .functionExpression | some .arrowFunctionExpression => true
  | _ => false

end Frame

/-- The fields whose declarations an identifier sees. The decorators of a parameter see nothing of the
function; `outside` says that the rest of a function is being left. -/
def visible (outside : Bool) : List Frame → List Frame
  | [] => []
  | frame :: chain =>
      if outside then visible (!frame.isOfFunction) chain
      else if frame.decoratesParameter then visible true chain
      else frame :: visible false chain

/-- The fields above an identifier whose declarations it does not see. -/
def hidden (outside : Bool) : List Frame → List Frame
  | [] => []
  | frame :: chain =>
      if outside then frame :: hidden (!frame.isOfFunction) chain
      else if frame.decoratesParameter then frame :: hidden true chain
      else hidden false chain

theorem mem_visible_or_hidden (chain : List Frame) (outside : Bool) (frame : Frame) :
    frame ∈ chain ↔ frame ∈ visible outside chain ∨ frame ∈ hidden outside chain := by
  induction chain generalizing outside with
  | nil => simp [visible, hidden]
  | cons head chain ih =>
    rw [visible, hidden]
    split
    · rw [List.mem_cons, List.mem_cons, ih (!head.isOfFunction)]
      exact or_left_comm
    split
    · rw [List.mem_cons, List.mem_cons, ih true]
      exact or_left_comm
    · rw [List.mem_cons, List.mem_cons, ih false]
      exact or_assoc.symm

namespace Sighting

/-- Whether the language resolves an identifier to a declaration further in than the module. -/
def ResolvesInside (s : Sighting) : Prop := ∃ frame ∈ visible false s.chain, s.name ∈ frame.scope

/-- Whether the scan meets a declaration that the identifier resolves to. -/
def Known (s : Sighting) : Prop :=
  ∃ frame ∈ visible false s.chain, s.name ∈ frame.declared ∧ s.name ∉ frame.excess

/-- Whether an identifier stands below a declaration of its name that the scan does not look for. -/
def Missed (s : Sighting) : Prop := ∃ frame ∈ visible false s.chain, s.name ∈ frame.missed

/-- Whether the scan takes an identifier for one that a declaration reaches, though it does not. -/
def Overreached (s : Sighting) : Prop :=
  (∃ frame ∈ visible false s.chain, s.name ∈ frame.declared ∧ s.name ∈ frame.excess)
    ∨ ∃ frame ∈ hidden false s.chain, s.name ∈ frame.declared

instance (s : Sighting) : Decidable s.ResolvesInside :=
  inferInstanceAs (Decidable (∃ frame ∈ visible false s.chain, s.name ∈ frame.scope))

instance (s : Sighting) : Decidable s.Known :=
  inferInstanceAs (Decidable
    (∃ frame ∈ visible false s.chain, s.name ∈ frame.declared ∧ s.name ∉ frame.excess))

theorem resolvesInside_iff (s : Sighting) : s.ResolvesInside ↔ s.Known ∨ s.Missed := by
  simp only [ResolvesInside, Known, Missed, Frame.mem_scope_iff, and_or_left, exists_or]

theorem declaredIn_iff (s : Sighting) :
    DeclaredIn s.chain s.name ↔ s.Known ∨ s.Overreached := by
  have split (frame : Frame) : s.name ∈ frame.declared
      ↔ s.name ∈ frame.declared ∧ s.name ∉ frame.excess
        ∨ s.name ∈ frame.declared ∧ s.name ∈ frame.excess := by
    by_cases s.name ∈ frame.excess <;> simp [*]
  rw [DeclaredIn, Known, Overreached, ← or_assoc, ← exists_or]
  simp only [← and_or_left, ← split, mem_visible_or_hidden s.chain false, or_and_right, exists_or]

end Sighting

end Syntax

open Syntax

/-- An identifier with the name of an import is taken for the import exactly where the language resolves it
to the import, unless its only declaration is one that the scan misses, or one that does not reach it. When
it is taken for an import, it has the name of that import. -/
theorem Imports.binding?_agrees_iff {span : Option Span} {items : List Tree} {interpreter : Tree}
    (placed : IsPlaced (.sourceModule span items interpreter)) {s : Sighting}
    (sighted : s ∈ (Tree.sourceModule span items interpreter).sightings [])
    (named : s.name ∈ (ofModule (.sourceModule span items interpreter)).bindings.map
      fun i => i.binding.name) :
    ((((ofModule (.sourceModule span items interpreter)).binding? s.name s.offset).isSome
        ↔ ¬ s.ResolvesInside) ↔ (s.Known ∨ (s.Missed ↔ s.Overreached)))
      ∧ ∀ i, (ofModule (.sourceModule span items interpreter)).binding? s.name s.offset = some i →
          i ∈ (ofModule (.sourceModule span items interpreter)).bindings
            ∧ i.binding.name = s.name := by
  constructor
  · rw [binding?_isSome_iff placed sighted named, s.declaredIn_iff, s.resolvesInside_iff]
    by_cases known : s.Known
    · simp [known]
    · simp only [known, false_or, not_iff_not]
      exact iff_comm
  · intro i found
    rw [binding?] at found
    split at found
    · contradiction
    · refine ⟨List.mem_reverse.mp (List.mem_of_find?_eq_some found), ?_⟩
      simpa using List.find?_some found

/-- An import of `t`. -/
def importOfT : Tree :=
  .importDeclaration (some ⟨1, 23⟩)
    [.importSpecifier (some ⟨10, 11⟩) (.identifier (some ⟨10, 11⟩) "t" .absent .absent) .absent
      (.flag false)]
    (.stringLiteral (some ⟨19, 22⟩) (.text "m") .absent) (.flag false) .absent (.text "evaluation")

/-- A module with a function that calls its parameter `t`. -/
def parameterModule : Tree :=
  .sourceModule (some ⟨1, 46⟩)
    [importOfT,
      .functionDeclaration (some ⟨24, 46⟩) (.identifier (some ⟨33, 34⟩) "f" .absent .absent)
        (.flag false)
        (.list [.parameter (some ⟨35, 36⟩) (.list [])
          (.identifier (some ⟨35, 36⟩) "t" .absent .absent)])
        (.list [])
        (.blockStatement (some ⟨38, 46⟩)
          [.expressionStatement (some ⟨40, 44⟩)
            (.callExpression (some ⟨40, 43⟩)
              (.identifier (some ⟨40, 41⟩) "t" .absent .absent) [] .absent)])
        (.flag false) (.flag false) .absent .absent]
    .absent

/-- The parameter of `parameterModule` hides the import in the call. -/
theorem binding?_of_parameterModule :
    IsPlaced parameterModule
      ∧ ∃ s ∈ parameterModule.sightings [], (s.name, s.offset) = ("t", 40) ∧ s.ResolvesInside
        ∧ (Imports.ofModule parameterModule).binding? s.name s.offset = none := by
  have placed : IsPlaced parameterModule := ⟨by decide, by decide⟩
  have sighted := List.getLast_mem
    (show parameterModule.sightings [] ≠ [] from List.cons_ne_nil _ _)
  refine ⟨placed, _, sighted, by decide, by decide, ?_⟩
  have agrees := (Imports.binding?_agrees_iff placed sighted (by decide)).1.mpr (.inl (by decide))
  exact Option.not_isSome_iff_eq_none.mp fun found => agrees.mp found (by decide)

/-- A module with a `switch` whose only case declares `t` and calls it. -/
def switchModule : Tree :=
  .sourceModule (some ⟨1, 58⟩)
    [importOfT,
      .switchStatement (some ⟨24, 58⟩) (.identifier (some ⟨32, 33⟩) "x" .absent .absent)
        [.switchCase (some ⟨37, 56⟩) (.numericLiteral (some ⟨42, 43⟩) 4607182418800017408)
          [.variableDeclaration (some ⟨45, 51⟩) "let" (.flag false)
              [.variableDeclarator (some ⟨49, 50⟩)
                (.identifier (some ⟨49, 50⟩) "t" .absent .absent) .absent (.flag false)],
            .expressionStatement (some ⟨52, 56⟩)
              (.callExpression (some ⟨52, 55⟩)
                (.identifier (some ⟨52, 53⟩) "t" .absent .absent) [] .absent)]]]
    .absent

/-- The `t` that a case of a `switch` declares is taken for the import. -/
theorem binding?_of_switchModule :
    IsPlaced switchModule
      ∧ ∃ s ∈ switchModule.sightings [], (s.name, s.offset) = ("t", 52) ∧ s.ResolvesInside
        ∧ ((Imports.ofModule switchModule).binding? s.name s.offset).isSome :=
  ⟨⟨by decide, by decide⟩, by decide⟩

end MessageExtraction
