import MessageExtraction.Scope.Names

/-!
# Shadowed positions

Where a name of the module level stands for something declared further in. A declaration counts for the
whole of its scope: a `var` for the function, any other declaration for the block.
-/

namespace MessageExtraction.Syntax.Tree

/-- The names that a node declares for its field number `i`. A function that is written with its name or
key has them outside its own scope. -/
def declaredNames (i : Nat) : Tree → List String
  | .function _ params _ body _ _ _ _ => functionNames params body
  | .methodProperty _ _ params _ body _ _ _ _ => if i = 0 then [] else functionNames params body
  | .functionDeclaration _ _ _ params _ body _ _ _ _ =>
      if i ≤ 1 then [] else functionNames params body
  | .functionExpression _ name params _ body _ _ _ _ =>
      name.boundNames ++ if i = 0 then [] else functionNames params body
  | .arrowFunctionExpression _ params body _ _ _ _ => functionNames (.list params) body
  | .constructor _ _ params body _ _ => functionNames (.list params) body
  | .classExpression _ name _ _ _ _ _ _ _ => name.boundNames
  | .blockStatement _ stmts => stmts.flatMap lexicalNames
  | .catchClause _ param _ => param.boundNames
  | .forStatement _ init _ _ _ => init.blockScopedNames
  | .forInStatement _ left _ _ => left.blockScopedNames
  | .forOfStatement _ _ left _ _ => left.blockScopedNames
  | _ => []

/-- The offset of an identifier with one of the given names. -/
def offsetIfNamed (names : List String) : Tree → List Nat
  | t@(.identifier _ name _ _) => if name ∈ names then [t.offset] else []
  | _ => []

mutual
/-- The offsets of the identifiers that have one of the names `outer` and stand below a declaration of
their name, or whose name is among `inner`. -/
def shadowedOffsets (outer inner : List String) : Tree → List Nat
  | .list items => shadowedOffsetsOf outer inner .absent 0 items
  | .node kind span fields =>
      offsetIfNamed inner (.node kind span fields)
        ++ shadowedOffsetsOf outer inner (.node kind span fields) 0 fields
  | _ => []

/-- The shadowed offsets below the fields of a node from number `i` on. -/
def shadowedOffsetsOf (outer inner : List String) (parent : Tree) (i : Nat) :
    List Tree → List Nat
  | [] => []
  | field :: fields =>
      field.shadowedOffsets outer ((parent.declaredNames i).filter (· ∈ outer) ++ inner)
        ++ shadowedOffsetsOf outer inner parent (i + 1) fields
end

end MessageExtraction.Syntax.Tree
