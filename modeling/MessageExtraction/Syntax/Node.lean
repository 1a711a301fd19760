import MessageExtraction.Syntax.Tree

/-!
# Nodes by name

The nodes that the library looks into or makes, each by its kind, its place and its fields. They serve as
patterns too.
-/

namespace MessageExtraction.Syntax

/-- A name and where it stands. -/
structure Identifier where
  name : String
  span : Option Span
deriving DecidableEq, Repr, Inhabited

namespace Tree

/-! ## Names and literals -/

/-- A name that binds or refers. -/
@[match_pattern] abbrev identifier (span : Option Span) (value : String)
    (isOptional declaredType : Tree) : Tree :=
  .node .identifier span [.text value, isOptional, declaredType]

/-- A name that is only a name, such as a property. -/
@[match_pattern] abbrev identifierName (span : Option Span) (value : String) : Tree :=
  .node .identifierName span [.text value]

/-- A string literal: its value, or its escaped spelling if it holds half a surrogate pair. -/
@[match_pattern] abbrev stringLiteral (span : Option Span) (value escaped : Tree) : Tree :=
  .node .stringLiteral span [value, escaped]

/-- A number literal, by the bits of the double. -/
@[match_pattern] abbrev numericLiteral (span : Option Span) (bits : Int) : Tree :=
  .node .numericLiteral span [.number bits]

/-- A truth value. -/
@[match_pattern] abbrev booleanLiteral (span : Option Span) (value : Bool) : Tree :=
  .node .booleanLiteral span [.flag value]

/-- The literal `null`. -/
@[match_pattern] abbrev nullLiteral (span : Option Span) : Tree :=
  .node .nullLiteral span []

/-- The expression `this`. -/
@[match_pattern] abbrev thisExpression (span : Option Span) : Tree :=
  .node .thisExpression span []

/-! ## Expressions -/

/-- A template: its chunks, and the expressions between them. -/
@[match_pattern] abbrev templateLiteral (span : Option Span) (expressions quasis : List Tree) : Tree :=
  .node .templateLiteral span [.list expressions, .list quasis]

/-- A chunk of a template. -/
@[match_pattern] abbrev templateElement (span : Option Span) (tail cooked escaped raw : Tree) : Tree :=
  .node .templateElement span [tail, cooked, escaped, raw]

/-- An expression in parentheses. -/
@[match_pattern] abbrev parenthesisExpression (span : Option Span) (expression : Tree) : Tree :=
  .node .parenthesisExpression span [expression]

/-- An expression with a type after `as`. -/
@[match_pattern] abbrev tsAsExpression (span : Option Span) (expression declaredType : Tree) : Tree :=
  .node .tsAsExpression span [expression, declaredType]

/-- An expression marked `as const`. -/
@[match_pattern] abbrev tsConstAssertion (span : Option Span) (expression : Tree) : Tree :=
  .node .tsConstAssertion span [expression]

/-- An expression with a type after `satisfies`. -/
@[match_pattern] abbrev tsSatisfiesExpression (span : Option Span)
    (expression declaredType : Tree) : Tree :=
  .node .tsSatisfiesExpression span [expression, declaredType]

/-- An operator before an operand. -/
@[match_pattern] abbrev unaryExpression (span : Option Span) (operator : String)
    (argument : Tree) : Tree :=
  .node .unaryExpression span [.text operator, argument]

/-- An operator between two operands. -/
@[match_pattern] abbrev binaryExpression (span : Option Span) (operator : String)
    (left right : Tree) : Tree :=
  .node .binaryExpression span [.text operator, left, right]

/-- An array literal. -/
@[match_pattern] abbrev arrayExpression (span : Option Span) (elements : List Tree) : Tree :=
  .node .arrayExpression span [.list elements]

/-- An item of an argument list or array literal, placed at its spread dots if it has them. -/
@[match_pattern] abbrev element (span : Option Span) (expression : Tree) : Tree :=
  .node .element span [expression]

/-- An object literal. -/
@[match_pattern] abbrev objectExpression (span : Option Span) (properties : List Tree) : Tree :=
  .node .objectExpression span [.list properties]

/-- A property with a key and a value. -/
@[match_pattern] abbrev keyValueProperty (key value : Tree) : Tree :=
  .node .keyValueProperty none [key, value]

/-- A method of an object literal. -/
@[match_pattern] abbrev methodProperty (span : Option Span)
    (key params decorators body isGenerator isAsync typeParameters returnType : Tree) : Tree :=
  .node .methodProperty span [key, params, decorators, body, isGenerator, isAsync,
    typeParameters, returnType]

/-- A property of an object. -/
@[match_pattern] abbrev memberExpression (span : Option Span) (object property : Tree) : Tree :=
  .node .memberExpression span [object, property]

/-- A call. -/
@[match_pattern] abbrev callExpression (span : Option Span) (callee : Tree) (args : List Tree)
    (typeArguments : Tree) : Tree :=
  .node .callExpression span [callee, .list args, typeArguments]

/-- An arrow function. -/
@[match_pattern] abbrev arrowFunctionExpression (span : Option Span) (params : List Tree)
    (body isAsync isGenerator typeParameters returnType : Tree) : Tree :=
  .node .arrowFunctionExpression span [.list params, body, isAsync, isGenerator, typeParameters,
    returnType]

/-- A function as an expression. -/
@[match_pattern] abbrev functionExpression (span : Option Span)
    (identifier params decorators body isGenerator isAsync typeParameters returnType : Tree) : Tree :=
  .node .functionExpression span [identifier, params, decorators, body, isGenerator, isAsync,
    typeParameters, returnType]

/-- A class as an expression. -/
@[match_pattern] abbrev classExpression (span : Option Span)
    (identifier decorators body superClass isAbstract typeParams superTypeParams interfaces : Tree) : Tree :=
  .node .classExpression span [identifier, decorators, body, superClass, isAbstract, typeParams,
    superTypeParams, interfaces]

/-! ## Markup -/

/-- An opening tag. -/
@[match_pattern] abbrev jsxOpeningElement (span : Option Span) (name : Tree)
    (attributes : List Tree) (selfClosing typeArguments : Tree) : Tree :=
  .node .jsxOpeningElement span [name, .list attributes, selfClosing, typeArguments]

/-- An attribute of a tag. -/
@[match_pattern] abbrev jsxAttribute (span : Option Span) (name value : Tree) : Tree :=
  .node .jsxAttribute span [name, value]

/-- An expression in braces inside markup. -/
@[match_pattern] abbrev jsxExpressionContainer (span : Option Span) (expression : Tree) : Tree :=
  .node .jsxExpressionContainer span [expression]

/-- A tag name with a dot. -/
@[match_pattern] abbrev jsxMemberExpression (span : Option Span) (object property : Tree) : Tree :=
  .node .jsxMemberExpression span [object, property]

/-! ## Patterns -/

/-- A pattern for arrays. -/
@[match_pattern] abbrev arrayPattern (span : Option Span) (elements : List Tree)
    (isOptional declaredType : Tree) : Tree :=
  .node .arrayPattern span [.list elements, isOptional, declaredType]

/-- A pattern for objects. -/
@[match_pattern] abbrev objectPattern (span : Option Span) (properties : List Tree)
    (isOptional declaredType : Tree) : Tree :=
  .node .objectPattern span [.list properties, isOptional, declaredType]

/-- A property of an object pattern with a pattern for its value. -/
@[match_pattern] abbrev keyValuePatternProperty (key value : Tree) : Tree :=
  .node .keyValuePatternProperty none [key, value]

/-- A property of an object pattern that is bound to its own name. -/
@[match_pattern] abbrev assignmentPatternProperty (span : Option Span) (key value : Tree) : Tree :=
  .node .assignmentPatternProperty span [key, value]

/-- A pattern with a default. -/
@[match_pattern] abbrev assignmentPattern (span : Option Span) (left right : Tree) : Tree :=
  .node .assignmentPattern span [left, right]

/-- A pattern for what is left. -/
@[match_pattern] abbrev restElement (span : Option Span) (rest argument declaredType : Tree) : Tree :=
  .node .restElement span [rest, argument, declaredType]

/-! ## Declarations -/

/-- The function of a method. -/
@[match_pattern] abbrev function (span : Option Span)
    (params decorators body isGenerator isAsync typeParameters returnType : Tree) : Tree :=
  .node .function span [params, decorators, body, isGenerator, isAsync, typeParameters, returnType]

/-- A constructor of a class. -/
@[match_pattern] abbrev constructor (span : Option Span) (key : Tree) (params : List Tree)
    (body accessibility isOptional : Tree) : Tree :=
  .node .constructor span [key, .list params, body, accessibility, isOptional]

/-- A parameter. -/
@[match_pattern] abbrev parameter (span : Option Span) (decorators pat : Tree) : Tree :=
  .node .parameter span [decorators, pat]

/-- A constructor parameter that is a property too. -/
@[match_pattern] abbrev tsParameterProperty (span : Option Span)
    (decorators accessibility isOverridden readonly param : Tree) : Tree :=
  .node .tsParameterProperty span [decorators, accessibility, isOverridden, readonly, param]

/-- A function declaration. -/
@[match_pattern] abbrev functionDeclaration (span : Option Span)
    (identifier isDeclared params decorators body isGenerator isAsync typeParameters returnType : Tree) :
    Tree :=
  .node .functionDeclaration span [identifier, isDeclared, params, decorators, body, isGenerator,
    isAsync, typeParameters, returnType]

/-- A class declaration. -/
@[match_pattern] abbrev classDeclaration (span : Option Span)
    (identifier isDeclared decorators body superClass isAbstract typeParams superTypeParams
      interfaces : Tree) : Tree :=
  .node .classDeclaration span [identifier, isDeclared, decorators, body, superClass, isAbstract,
    typeParams, superTypeParams, interfaces]

/-- A declaration of variables. -/
@[match_pattern] abbrev variableDeclaration (span : Option Span) (kind : String)
    (isDeclared : Tree) (declarations : List Tree) : Tree :=
  .node .variableDeclaration span [.text kind, isDeclared, .list declarations]

/-- One variable of a declaration. -/
@[match_pattern] abbrev variableDeclarator (span : Option Span) (id init definite : Tree) : Tree :=
  .node .variableDeclarator span [id, init, definite]

/-! ## Statements -/

/-- A block. -/
@[match_pattern] abbrev blockStatement (span : Option Span) (stmts : List Tree) : Tree :=
  .node .blockStatement span [.list stmts]

/-- An expression as a statement. -/
@[match_pattern] abbrev expressionStatement (span : Option Span) (expression : Tree) : Tree :=
  .node .expressionStatement span [expression]

/-- A return. -/
@[match_pattern] abbrev returnStatement (span : Option Span) (argument : Tree) : Tree :=
  .node .returnStatement span [argument]

/-- An `if`. -/
@[match_pattern] abbrev ifStatement (span : Option Span) (test consequent alternate : Tree) : Tree :=
  .node .ifStatement span [test, consequent, alternate]

/-- A statement with a label. -/
@[match_pattern] abbrev labeledStatement (span : Option Span) (label body : Tree) : Tree :=
  .node .labeledStatement span [label, body]

/-- A `while` loop. -/
@[match_pattern] abbrev whileStatement (span : Option Span) (test body : Tree) : Tree :=
  .node .whileStatement span [test, body]

/-- A `do` loop. -/
@[match_pattern] abbrev doWhileStatement (span : Option Span) (test body : Tree) : Tree :=
  .node .doWhileStatement span [test, body]

/-- A `for` loop. -/
@[match_pattern] abbrev forStatement (span : Option Span) (init test update body : Tree) : Tree :=
  .node .forStatement span [init, test, update, body]

/-- A `for … in` loop. -/
@[match_pattern] abbrev forInStatement (span : Option Span) (left right body : Tree) : Tree :=
  .node .forInStatement span [left, right, body]

/-- A `for … of` loop. -/
@[match_pattern] abbrev forOfStatement (span : Option Span) (isAwait left right body : Tree) : Tree :=
  .node .forOfStatement span [isAwait, left, right, body]

/-- A `switch`. -/
@[match_pattern] abbrev switchStatement (span : Option Span) (discriminant : Tree)
    (cases : List Tree) : Tree :=
  .node .switchStatement span [discriminant, .list cases]

/-- A case of a `switch`. -/
@[match_pattern] abbrev switchCase (span : Option Span) (test : Tree) (consequent : List Tree) : Tree :=
  .node .switchCase span [test, .list consequent]

/-- A `try`. -/
@[match_pattern] abbrev tryStatement (span : Option Span) (block handler finalizer : Tree) : Tree :=
  .node .tryStatement span [block, handler, finalizer]

/-- A `catch`. -/
@[match_pattern] abbrev catchClause (span : Option Span) (param body : Tree) : Tree :=
  .node .catchClause span [param, body]

/-! ## Modules -/

/-- A module. -/
@[match_pattern] abbrev sourceModule (span : Option Span) (body : List Tree)
    (interpreter : Tree) : Tree :=
  .node .sourceModule span [.list body, interpreter]

/-- The body of a namespace. -/
@[match_pattern] abbrev tsModuleBlock (span : Option Span) (body : List Tree) : Tree :=
  .node .tsModuleBlock span [.list body]

/-- An exported declaration. -/
@[match_pattern] abbrev exportDeclaration (span : Option Span) (declaration : Tree) : Tree :=
  .node .exportDeclaration span [declaration]

/-- An import. -/
@[match_pattern] abbrev importDeclaration (span : Option Span) (specifiers : List Tree)
    (source typeOnly withClause phase : Tree) : Tree :=
  .node .importDeclaration span [.list specifiers, source, typeOnly, withClause, phase]

/-- An import by name. -/
@[match_pattern] abbrev importSpecifier (span : Option Span)
    (binding imported isTypeOnly : Tree) : Tree :=
  .node .importSpecifier span [binding, imported, isTypeOnly]

/-- An import of the default export. -/
@[match_pattern] abbrev importDefaultSpecifier (span : Option Span) (binding : Tree) : Tree :=
  .node .importDefaultSpecifier span [binding]

/-- An import of a whole module. -/
@[match_pattern] abbrev importNamespaceSpecifier (span : Option Span) (binding : Tree) : Tree :=
  .node .importNamespaceSpecifier span [binding]

/-- The offset of a node, zero if it is not in the source. -/
def offset (t : Tree) : Nat := (t.span?.map Span.lo).getD 0

/-- The identifier that a tree is. -/
def identifier? : Tree → Option Identifier
  | .identifier span name _ _ => some ⟨name, span⟩
  | _ => none

theorem identifier?_eq_some_iff {t : Tree} {i : Identifier} :
    t.identifier? = some i
      ↔ ∃ isOptional declaredType, t = .identifier i.span i.name isOptional declaredType := by
  constructor
  · intro h
    rw [identifier?.eq_def] at h
    split at h
    · cases h
      exact ⟨_, _, rfl⟩
    · contradiction
  · rintro ⟨_, _, rfl⟩
    rfl

end Tree

/-- An identifier that is not in the source. -/
def Identifier.made (name : String) : Identifier := ⟨name, some .made⟩

/-- An identifier as a tree, without a type. -/
def Identifier.toTree (i : Identifier) : Tree := .identifier i.span i.name .absent .absent

/-- The offset of an identifier, zero if it is not in the source. -/
def Identifier.offset (i : Identifier) : Nat := (i.span.map Span.lo).getD 0

end MessageExtraction.Syntax
