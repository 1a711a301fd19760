import MessageExtraction.Syntax.Node

/-!
# Declared names

Which names a piece of syntax declares: a pattern by its identifiers, a function for its whole body
through `var`, a block through its other declarations.
-/

namespace MessageExtraction.Syntax.Tree

mutual
/-- The names that a pattern, a parameter or a variable of a declaration binds. -/
def boundNames : Tree → List String
  | .identifier _ name _ _ => [name]
  | .arrayPattern _ elements _ _ => boundNamesOf elements
  | .objectPattern _ properties _ _ => boundNamesOf properties
  | .keyValuePatternProperty _ value => value.boundNames
  | .assignmentPatternProperty _ key _ => key.boundNames
  | .assignmentPattern _ left _ => left.boundNames
  | .restElement _ _ argument _ => argument.boundNames
  | .parameter _ _ pattern => pattern.boundNames
  | .tsParameterProperty _ _ _ _ _ pattern => pattern.boundNames
  | .variableDeclarator _ pattern _ _ => pattern.boundNames
  | _ => []

/-- The names that any of the given patterns binds. -/
def boundNamesOf : List Tree → List String
  | [] => []
  | t :: ts => t.boundNames ++ boundNamesOf ts
end

mutual
/-- The names that a statement declares by `var` for the function around it. Nested functions keep
their own. -/
def hoistedNames : Tree → List String
  | .variableDeclaration _ kind _ declarations =>
      if kind = "var" then boundNamesOf declarations else []
  | .blockStatement _ stmts => hoistedNamesOf stmts
  | .ifStatement _ _ consequent alternate => consequent.hoistedNames ++ alternate.hoistedNames
  | .forStatement _ init _ _ body => init.hoistedNames ++ body.hoistedNames
  | .forInStatement _ left _ body => left.hoistedNames ++ body.hoistedNames
  | .forOfStatement _ _ left _ body => left.hoistedNames ++ body.hoistedNames
  | .whileStatement _ _ body => body.hoistedNames
  | .doWhileStatement _ _ body => body.hoistedNames
  | .labeledStatement _ _ body => body.hoistedNames
  | .tryStatement _ block handler finalizer =>
      block.hoistedNames ++ handler.hoistedNames ++ finalizer.hoistedNames
  | .catchClause _ _ body => body.hoistedNames
  | .switchStatement _ _ cases => hoistedNamesOf cases
  | .switchCase _ _ consequent => hoistedNamesOf consequent
  | _ => []

/-- The names that any of the given statements declares by `var`. -/
def hoistedNamesOf : List Tree → List String
  | [] => []
  | t :: ts => t.hoistedNames ++ hoistedNamesOf ts
end

/-- The names that a declaration of variables declares for the block or loop around it. -/
def blockScopedNames : Tree → List String
  | .variableDeclaration _ kind _ declarations =>
      if kind = "var" then [] else boundNamesOf declarations
  | _ => []

/-- The names that a statement declares for the block around it. -/
def lexicalNames : Tree → List String
  | .functionDeclaration _ name _ _ _ _ _ _ _ _ => name.boundNames
  | .classDeclaration _ name _ _ _ _ _ _ _ _ => name.boundNames
  | statement => statement.blockScopedNames

/-- The names that a function declares for its parameters and its body. -/
def functionNames (params body : Tree) : List String :=
  boundNamesOf params.items ++ body.hoistedNames

end MessageExtraction.Syntax.Tree
