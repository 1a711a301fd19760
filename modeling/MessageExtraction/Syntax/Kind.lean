/-!
# Kinds of syntax nodes

The kinds of nodes of a program with types and markup, and the shape of each: the name of its type and the
names of its fields in visiting order. An `element` is an item of an argument list or of an array literal, a
`function` what a method is; these two have no type name. The call inside an optional chain is a kind of its
own, though it has the type name of other calls, and so is a template in a type. Kinds that are not listed
here are carried along as they are.
-/

namespace MessageExtraction.Syntax

/-- The kinds of syntax nodes. -/
inductive Kind where
  | arrayExpression | arrayPattern | arrowFunctionExpression | assignmentExpression
  | assignmentPattern | assignmentPatternProperty | assignmentProperty | autoAccessor
  | awaitExpression | bigIntLiteral | binaryExpression | blockStatement | booleanLiteral
  | breakStatement | callExpression | catchClause | classDeclaration | classExpression
  | classMethod | classProperty | computed | conditionalExpression | constructor
  | continueStatement | debuggerStatement | decorator | doWhileStatement | dynamicImport
  | element | emptyStatement | exportAllDeclaration | exportDeclaration
  | exportDefaultDeclaration | exportDefaultExpression | exportDefaultSpecifier
  | exportNamedDeclaration | exportNamespaceSpecifier | exportSpecifier | expressionStatement
  | forInStatement | forOfStatement | forStatement | function | functionDeclaration
  | functionExpression | getterProperty | identifier | identifierName | ifStatement
  | importDeclaration | importDefaultSpecifier | importNamespaceSpecifier | importSpecifier
  | invalid | jsxAttribute | jsxClosingElement | jsxClosingFragment | jsxElement
  | jsxEmptyExpression | jsxExpressionContainer | jsxFragment | jsxMemberExpression
  | jsxNamespacedName | jsxOpeningElement | jsxOpeningFragment | jsxSpreadChild | jsxText
  | keyValuePatternProperty | keyValueProperty | labeledStatement | memberExpression
  | metaProperty | methodProperty | newExpression | nullLiteral | numericLiteral
  | objectExpression | objectPattern | optionalCall | optionalChainingExpression | parameter
  | parenthesisExpression | privateMethod | privateName | privateProperty | regExpLiteral
  | restElement | returnStatement | sequenceExpression | setterProperty | sourceModule
  | spreadElement | staticBlock | stringLiteral | super | superPropExpression | switchCase
  | switchStatement | taggedTemplateExpression | templateElement | templateLiteral
  | thisExpression | throwStatement | tryStatement | tsArrayType | tsAsExpression
  | tsCallSignatureDeclaration | tsConditionalType | tsConstAssertion | tsConstructorType
  | tsConstructSignatureDeclaration | tsDeclaredType | tsEnumDeclaration | tsEnumMember
  | tsExportAssignment | tsExpressionWithTypeArguments | tsExternalModuleReference
  | tsFunctionType | tsGetterSignature | tsImportCallOptions | tsImportEqualsDeclaration
  | tsImportType | tsIndexedAccessType | tsIndexSignature | tsInferType | tsInstantiation
  | tsInterfaceBody | tsInterfaceDeclaration | tsIntersectionType | tsKeywordType | tsLiteralType
  | tsMappedType | tsMethodSignature | tsModuleBlock | tsModuleDeclaration
  | tsNamespaceDeclaration | tsNamespaceExportDeclaration | tsNonNullExpression | tsOptionalType
  | tsParameterProperty | tsParenthesizedType | tsPropertySignature | tsQualifiedName
  | tsRestType | tsSatisfiesExpression | tsSetterSignature | tsTemplateLiteralType | tsThisType
  | tsTupleElement | tsTupleType | tsTypeAliasDeclaration | tsTypeAssertion | tsTypeLiteral
  | tsTypeOperator | tsTypeParameter | tsTypeParameterDeclaration | tsTypeParameterInstantiation
  | tsTypePredicate | tsTypeQuery | tsTypeReference | tsUnionType | unaryExpression
  | updateExpression | usingDeclaration | variableDeclaration | variableDeclarator
  | whileStatement | withStatement | yieldExpression
  /-- A kind that is only carried along, by its type name and the names of its fields. -/
  | unlisted (typeName : String) (fields : List String)
deriving DecidableEq, Repr, Inhabited

/-- Where a node keeps its place in the source. -/
inductive SpanField where
  /-- The node itself is placed. -/
  | span
  /-- Only the dots that spread the node are placed, if there are any. -/
  | spread
  /-- The node is not placed, only its parts are. -/
  | absent
deriving DecidableEq, Repr

/-- The shape of a kind of nodes: its type name, its fields in visiting order, and where its place is. -/
structure Shape where
  typeName : Option String
  fields : List String
  spanField : SpanField := .span
deriving DecidableEq, Repr

/-- The shape of each kind. -/
def Kind.shape : Kind → Shape
  | .arrayExpression => ⟨some "ArrayExpression", ["elements"], .span⟩
  | .arrayPattern => ⟨some "ArrayPattern", ["elements", "optional", "typeAnnotation"], .span⟩
  | .arrowFunctionExpression =>
      ⟨some "ArrowFunctionExpression",
        ["params", "body", "async", "generator", "typeParameters", "returnType"], .span⟩
  | .assignmentExpression => ⟨some "AssignmentExpression", ["operator", "left", "right"], .span⟩
  | .assignmentPattern => ⟨some "AssignmentPattern", ["left", "right"], .span⟩
  | .assignmentPatternProperty => ⟨some "AssignmentPatternProperty", ["key", "value"], .span⟩
  | .assignmentProperty => ⟨some "AssignmentProperty", ["key", "value"], .span⟩
  | .autoAccessor =>
      ⟨some "AutoAccessor",
        ["key", "value", "typeAnnotation", "isStatic", "decorators", "accessibility",
          "isAbstract", "isOverride", "definite"], .span⟩
  | .awaitExpression => ⟨some "AwaitExpression", ["argument"], .span⟩
  | .bigIntLiteral => ⟨some "BigIntLiteral", ["value"], .span⟩
  | .binaryExpression => ⟨some "BinaryExpression", ["operator", "left", "right"], .span⟩
  | .blockStatement => ⟨some "BlockStatement", ["stmts"], .span⟩
  | .booleanLiteral => ⟨some "BooleanLiteral", ["value"], .span⟩
  | .breakStatement => ⟨some "BreakStatement", ["label"], .span⟩
  | .callExpression => ⟨some "CallExpression", ["callee", "arguments", "typeArguments"], .span⟩
  | .catchClause => ⟨some "CatchClause", ["param", "body"], .span⟩
  | .classDeclaration =>
      ⟨some "ClassDeclaration",
        ["identifier", "declare", "decorators", "body", "superClass", "isAbstract",
          "typeParams", "superTypeParams", "implements"], .span⟩
  | .classExpression =>
      ⟨some "ClassExpression",
        ["identifier", "decorators", "body", "superClass", "isAbstract", "typeParams",
          "superTypeParams", "implements"], .span⟩
  | .classMethod =>
      ⟨some "ClassMethod",
        ["key", "function", "kind", "isStatic", "accessibility", "isAbstract", "isOptional",
          "isOverride"], .span⟩
  | .classProperty =>
      ⟨some "ClassProperty",
        ["key", "value", "typeAnnotation", "isStatic", "decorators", "accessibility",
          "isAbstract", "isOptional", "isOverride", "readonly", "declare", "definite"], .span⟩
  | .computed => ⟨some "Computed", ["expression"], .span⟩
  | .conditionalExpression =>
      ⟨some "ConditionalExpression", ["test", "consequent", "alternate"], .span⟩
  | .constructor =>
      ⟨some "Constructor", ["key", "params", "body", "accessibility", "isOptional"], .span⟩
  | .continueStatement => ⟨some "ContinueStatement", ["label"], .span⟩
  | .debuggerStatement => ⟨some "DebuggerStatement", [], .span⟩
  | .decorator => ⟨some "Decorator", ["expression"], .span⟩
  | .doWhileStatement => ⟨some "DoWhileStatement", ["test", "body"], .span⟩
  | .dynamicImport => ⟨some "Import", ["phase"], .span⟩
  | .element => ⟨none, ["expression"], .spread⟩
  | .emptyStatement => ⟨some "EmptyStatement", [], .span⟩
  | .exportAllDeclaration => ⟨some "ExportAllDeclaration", ["source", "typeOnly", "with"], .span⟩
  | .exportDeclaration => ⟨some "ExportDeclaration", ["declaration"], .span⟩
  | .exportDefaultDeclaration => ⟨some "ExportDefaultDeclaration", ["decl"], .span⟩
  | .exportDefaultExpression => ⟨some "ExportDefaultExpression", ["expression"], .span⟩
  | .exportDefaultSpecifier => ⟨some "ExportDefaultSpecifier", ["exported"], .span⟩
  | .exportNamedDeclaration =>
      ⟨some "ExportNamedDeclaration", ["specifiers", "source", "typeOnly", "with"], .span⟩
  | .exportNamespaceSpecifier => ⟨some "ExportNamespaceSpecifier", ["name"], .span⟩
  | .exportSpecifier => ⟨some "ExportSpecifier", ["orig", "exported", "isTypeOnly"], .span⟩
  | .expressionStatement => ⟨some "ExpressionStatement", ["expression"], .span⟩
  | .forInStatement => ⟨some "ForInStatement", ["left", "right", "body"], .span⟩
  | .forOfStatement => ⟨some "ForOfStatement", ["await", "left", "right", "body"], .span⟩
  | .forStatement => ⟨some "ForStatement", ["init", "test", "update", "body"], .span⟩
  | .function =>
      ⟨none,
        ["params", "decorators", "body", "generator", "async", "typeParameters", "returnType"], .span⟩
  | .functionDeclaration =>
      ⟨some "FunctionDeclaration",
        ["identifier", "declare", "params", "decorators", "body", "generator", "async",
          "typeParameters", "returnType"], .span⟩
  | .functionExpression =>
      ⟨some "FunctionExpression",
        ["identifier", "params", "decorators", "body", "generator", "async", "typeParameters",
          "returnType"], .span⟩
  | .getterProperty => ⟨some "GetterProperty", ["key", "typeAnnotation", "body"], .span⟩
  | .identifier => ⟨some "Identifier", ["value", "optional", "typeAnnotation"], .span⟩
  | .identifierName => ⟨some "IdentifierName", ["value"], .span⟩
  | .ifStatement => ⟨some "IfStatement", ["test", "consequent", "alternate"], .span⟩
  | .importDeclaration =>
      ⟨some "ImportDeclaration", ["specifiers", "source", "typeOnly", "with", "phase"], .span⟩
  | .importDefaultSpecifier => ⟨some "ImportDefaultSpecifier", ["local"], .span⟩
  | .importNamespaceSpecifier => ⟨some "ImportNamespaceSpecifier", ["local"], .span⟩
  | .importSpecifier => ⟨some "ImportSpecifier", ["local", "imported", "isTypeOnly"], .span⟩
  | .invalid => ⟨some "Invalid", [], .span⟩
  | .jsxAttribute => ⟨some "JSXAttribute", ["name", "value"], .span⟩
  | .jsxClosingElement => ⟨some "JSXClosingElement", ["name"], .span⟩
  | .jsxClosingFragment => ⟨some "JSXClosingFragment", [], .span⟩
  | .jsxElement => ⟨some "JSXElement", ["opening", "children", "closing"], .span⟩
  | .jsxEmptyExpression => ⟨some "JSXEmptyExpression", [], .span⟩
  | .jsxExpressionContainer => ⟨some "JSXExpressionContainer", ["expression"], .span⟩
  | .jsxFragment => ⟨some "JSXFragment", ["opening", "children", "closing"], .span⟩
  | .jsxMemberExpression => ⟨some "JSXMemberExpression", ["object", "property"], .span⟩
  | .jsxNamespacedName => ⟨some "JSXNamespacedName", ["namespace", "name"], .span⟩
  | .jsxOpeningElement =>
      ⟨some "JSXOpeningElement", ["name", "attributes", "selfClosing", "typeArguments"], .span⟩
  | .jsxOpeningFragment => ⟨some "JSXOpeningFragment", [], .span⟩
  | .jsxSpreadChild => ⟨some "JSXSpreadChild", ["expression"], .span⟩
  | .jsxText => ⟨some "JSXText", ["value"], .span⟩
  | .keyValuePatternProperty => ⟨some "KeyValuePatternProperty", ["key", "value"], .absent⟩
  | .keyValueProperty => ⟨some "KeyValueProperty", ["key", "value"], .absent⟩
  | .labeledStatement => ⟨some "LabeledStatement", ["label", "body"], .span⟩
  | .memberExpression => ⟨some "MemberExpression", ["object", "property"], .span⟩
  | .metaProperty => ⟨some "MetaProperty", ["kind"], .span⟩
  | .methodProperty =>
      ⟨some "MethodProperty",
        ["key", "params", "decorators", "body", "generator", "async", "typeParameters",
          "returnType"], .span⟩
  | .newExpression => ⟨some "NewExpression", ["callee", "arguments", "typeArguments"], .span⟩
  | .nullLiteral => ⟨some "NullLiteral", [], .span⟩
  | .numericLiteral => ⟨some "NumericLiteral", ["bits"], .span⟩
  | .objectExpression => ⟨some "ObjectExpression", ["properties"], .span⟩
  | .objectPattern => ⟨some "ObjectPattern", ["properties", "optional", "typeAnnotation"], .span⟩
  | .optionalCall => ⟨some "CallExpression", ["callee", "arguments", "typeArguments"], .span⟩
  | .optionalChainingExpression =>
      ⟨some "OptionalChainingExpression", ["optional", "base"], .span⟩
  | .parameter => ⟨some "Parameter", ["decorators", "pat"], .span⟩
  | .parenthesisExpression => ⟨some "ParenthesisExpression", ["expression"], .span⟩
  | .privateMethod =>
      ⟨some "PrivateMethod",
        ["key", "function", "kind", "isStatic", "accessibility", "isAbstract", "isOptional",
          "isOverride"], .span⟩
  | .privateName => ⟨some "PrivateName", ["value"], .span⟩
  | .privateProperty =>
      ⟨some "PrivateProperty",
        ["key", "value", "typeAnnotation", "isStatic", "decorators", "accessibility",
          "isOptional", "isOverride", "readonly", "definite"], .span⟩
  | .regExpLiteral => ⟨some "RegExpLiteral", ["pattern", "flags"], .span⟩
  | .restElement => ⟨some "RestElement", ["rest", "argument", "typeAnnotation"], .span⟩
  | .returnStatement => ⟨some "ReturnStatement", ["argument"], .span⟩
  | .sequenceExpression => ⟨some "SequenceExpression", ["expressions"], .span⟩
  | .setterProperty => ⟨some "SetterProperty", ["key", "thisParam", "param", "body"], .span⟩
  | .sourceModule => ⟨some "Module", ["body", "interpreter"], .span⟩
  | .spreadElement => ⟨some "SpreadElement", ["arguments"], .spread⟩
  | .staticBlock => ⟨some "StaticBlock", ["body"], .span⟩
  | .stringLiteral => ⟨some "StringLiteral", ["value", "wtf8"], .span⟩
  | .super => ⟨some "Super", [], .span⟩
  | .superPropExpression => ⟨some "SuperPropExpression", ["obj", "property"], .span⟩
  | .switchCase => ⟨some "SwitchCase", ["test", "consequent"], .span⟩
  | .switchStatement => ⟨some "SwitchStatement", ["discriminant", "cases"], .span⟩
  | .taggedTemplateExpression =>
      ⟨some "TaggedTemplateExpression", ["tag", "typeParameters", "template"], .span⟩
  | .templateElement => ⟨some "TemplateElement", ["tail", "cooked", "wtf8", "raw"], .span⟩
  | .templateLiteral => ⟨some "TemplateLiteral", ["expressions", "quasis"], .span⟩
  | .thisExpression => ⟨some "ThisExpression", [], .span⟩
  | .throwStatement => ⟨some "ThrowStatement", ["argument"], .span⟩
  | .tryStatement => ⟨some "TryStatement", ["block", "handler", "finalizer"], .span⟩
  | .tsArrayType => ⟨some "TsArrayType", ["elemType"], .span⟩
  | .tsAsExpression => ⟨some "TsAsExpression", ["expression", "typeAnnotation"], .span⟩
  | .tsCallSignatureDeclaration =>
      ⟨some "TsCallSignatureDeclaration", ["params", "typeAnnotation", "typeParams"], .span⟩
  | .tsConditionalType =>
      ⟨some "TsConditionalType", ["checkType", "extendsType", "trueType", "falseType"], .span⟩
  | .tsConstAssertion => ⟨some "TsConstAssertion", ["expression"], .span⟩
  | .tsConstructorType =>
      ⟨some "TsConstructorType", ["params", "typeParams", "typeAnnotation", "isAbstract"], .span⟩
  | .tsConstructSignatureDeclaration =>
      ⟨some "TsConstructSignatureDeclaration", ["params", "typeAnnotation", "typeParams"], .span⟩
  | .tsDeclaredType => ⟨some "TsTypeAnnotation", ["typeAnnotation"], .span⟩
  | .tsEnumDeclaration =>
      ⟨some "TsEnumDeclaration", ["declare", "isConst", "id", "members"], .span⟩
  | .tsEnumMember => ⟨some "TsEnumMember", ["id", "init"], .span⟩
  | .tsExportAssignment => ⟨some "TsExportAssignment", ["expression"], .span⟩
  | .tsExpressionWithTypeArguments =>
      ⟨some "TsExpressionWithTypeArguments", ["expression", "typeArguments"], .span⟩
  | .tsExternalModuleReference => ⟨some "TsExternalModuleReference", ["expression"], .span⟩
  | .tsFunctionType => ⟨some "TsFunctionType", ["params", "typeParams", "typeAnnotation"], .span⟩
  | .tsGetterSignature => ⟨some "TsGetterSignature", ["key", "computed", "typeAnnotation"], .span⟩
  | .tsImportCallOptions => ⟨some "TsImportCallOptions", ["with"], .span⟩
  | .tsImportEqualsDeclaration =>
      ⟨some "TsImportEqualsDeclaration", ["isExport", "isTypeOnly", "id", "moduleRef"], .span⟩
  | .tsImportType =>
      ⟨some "TsImportType", ["argument", "qualifier", "typeArguments", "attributes"], .span⟩
  | .tsIndexedAccessType =>
      ⟨some "TsIndexedAccessType", ["readonly", "objectType", "indexType"], .span⟩
  | .tsIndexSignature =>
      ⟨some "TsIndexSignature",
        ["params", "typeAnnotation", "readonly", "static"], .span⟩
  | .tsInferType => ⟨some "TsInferType", ["typeParam"], .span⟩
  | .tsInstantiation => ⟨some "TsInstantiation", ["expression", "typeArguments"], .span⟩
  | .tsInterfaceBody => ⟨some "TsInterfaceBody", ["body"], .span⟩
  | .tsInterfaceDeclaration =>
      ⟨some "TsInterfaceDeclaration", ["id", "declare", "typeParams", "extends", "body"], .span⟩
  | .tsIntersectionType => ⟨some "TsIntersectionType", ["types"], .span⟩
  | .tsKeywordType => ⟨some "TsKeywordType", ["kind"], .span⟩
  | .tsLiteralType => ⟨some "TsLiteralType", ["literal"], .span⟩
  | .tsMappedType =>
      ⟨some "TsMappedType",
        ["readonly", "typeParam", "nameType", "optional", "typeAnnotation"], .span⟩
  | .tsMethodSignature =>
      ⟨some "TsMethodSignature",
        ["key", "computed", "optional", "params", "typeAnn", "typeParams"], .span⟩
  | .tsModuleBlock => ⟨some "TsModuleBlock", ["body"], .span⟩
  | .tsModuleDeclaration =>
      ⟨some "TsModuleDeclaration", ["declare", "global", "namespace", "id", "body"], .span⟩
  | .tsNamespaceDeclaration =>
      ⟨some "TsNamespaceDeclaration", ["declare", "global", "id", "body"], .span⟩
  | .tsNamespaceExportDeclaration => ⟨some "TsNamespaceExportDeclaration", ["id"], .span⟩
  | .tsNonNullExpression => ⟨some "TsNonNullExpression", ["expression"], .span⟩
  | .tsOptionalType => ⟨some "TsOptionalType", ["typeAnnotation"], .span⟩
  | .tsParameterProperty =>
      ⟨some "TsParameterProperty",
        ["decorators", "accessibility", "override", "readonly", "param"], .span⟩
  | .tsParenthesizedType => ⟨some "TsParenthesizedType", ["typeAnnotation"], .span⟩
  | .tsPropertySignature =>
      ⟨some "TsPropertySignature",
        ["readonly", "key", "computed", "optional", "typeAnnotation"], .span⟩
  | .tsQualifiedName => ⟨some "TsQualifiedName", ["left", "right"], .span⟩
  | .tsRestType => ⟨some "TsRestType", ["typeAnnotation"], .span⟩
  | .tsSatisfiesExpression =>
      ⟨some "TsSatisfiesExpression", ["expression", "typeAnnotation"], .span⟩
  | .tsSetterSignature => ⟨some "TsSetterSignature", ["key", "computed", "param"], .span⟩
  | .tsTemplateLiteralType => ⟨some "TemplateLiteral", ["types", "quasis"], .span⟩
  | .tsThisType => ⟨some "TsThisType", [], .span⟩
  | .tsTupleElement => ⟨some "TsTupleElement", ["label", "ty"], .span⟩
  | .tsTupleType => ⟨some "TsTupleType", ["elemTypes"], .span⟩
  | .tsTypeAliasDeclaration =>
      ⟨some "TsTypeAliasDeclaration", ["declare", "id", "typeParams", "typeAnnotation"], .span⟩
  | .tsTypeAssertion => ⟨some "TsTypeAssertion", ["expression", "typeAnnotation"], .span⟩
  | .tsTypeLiteral => ⟨some "TsTypeLiteral", ["members"], .span⟩
  | .tsTypeOperator => ⟨some "TsTypeOperator", ["op", "typeAnnotation"], .span⟩
  | .tsTypeParameter =>
      ⟨some "TsTypeParameter", ["name", "in", "out", "const", "constraint", "default"], .span⟩
  | .tsTypeParameterDeclaration => ⟨some "TsTypeParameterDeclaration", ["parameters"], .span⟩
  | .tsTypeParameterInstantiation => ⟨some "TsTypeParameterInstantiation", ["params"], .span⟩
  | .tsTypePredicate =>
      ⟨some "TsTypePredicate", ["asserts", "paramName", "typeAnnotation"], .span⟩
  | .tsTypeQuery => ⟨some "TsTypeQuery", ["exprName", "typeArguments"], .span⟩
  | .tsTypeReference => ⟨some "TsTypeReference", ["typeName", "typeParams"], .span⟩
  | .tsUnionType => ⟨some "TsUnionType", ["types"], .span⟩
  | .unaryExpression => ⟨some "UnaryExpression", ["operator", "argument"], .span⟩
  | .updateExpression => ⟨some "UpdateExpression", ["operator", "prefix", "argument"], .span⟩
  | .usingDeclaration => ⟨some "UsingDeclaration", ["isAwait", "decls"], .span⟩
  | .variableDeclaration =>
      ⟨some "VariableDeclaration", ["kind", "declare", "declarations"], .span⟩
  | .variableDeclarator => ⟨some "VariableDeclarator", ["id", "init", "definite"], .span⟩
  | .whileStatement => ⟨some "WhileStatement", ["test", "body"], .span⟩
  | .withStatement => ⟨some "WithStatement", ["object", "body"], .span⟩
  | .yieldExpression => ⟨some "YieldExpression", ["argument", "delegate"], .span⟩
  | .unlisted typeName fields => ⟨some typeName, fields, .span⟩

/-- The kinds that the library lists. -/
def Kind.all : List Kind := [
  .arrayExpression, .arrayPattern, .arrowFunctionExpression, .assignmentExpression,
  .assignmentPattern, .assignmentPatternProperty, .assignmentProperty, .autoAccessor,
  .awaitExpression, .bigIntLiteral, .binaryExpression, .blockStatement, .booleanLiteral,
  .breakStatement, .callExpression, .catchClause, .classDeclaration, .classExpression,
  .classMethod, .classProperty, .computed, .conditionalExpression, .constructor,
  .continueStatement, .debuggerStatement, .decorator, .doWhileStatement, .dynamicImport,
  .element, .emptyStatement, .exportAllDeclaration, .exportDeclaration,
  .exportDefaultDeclaration, .exportDefaultExpression, .exportDefaultSpecifier,
  .exportNamedDeclaration, .exportNamespaceSpecifier, .exportSpecifier, .expressionStatement,
  .forInStatement, .forOfStatement, .forStatement, .function, .functionDeclaration,
  .functionExpression, .getterProperty, .identifier, .identifierName, .ifStatement,
  .importDeclaration, .importDefaultSpecifier, .importNamespaceSpecifier, .importSpecifier,
  .invalid, .jsxAttribute, .jsxClosingElement, .jsxClosingFragment, .jsxElement,
  .jsxEmptyExpression, .jsxExpressionContainer, .jsxFragment, .jsxMemberExpression,
  .jsxNamespacedName, .jsxOpeningElement, .jsxOpeningFragment, .jsxSpreadChild, .jsxText,
  .keyValuePatternProperty, .keyValueProperty, .labeledStatement, .memberExpression,
  .metaProperty, .methodProperty, .newExpression, .nullLiteral, .numericLiteral,
  .objectExpression, .objectPattern, .optionalCall, .optionalChainingExpression, .parameter,
  .parenthesisExpression, .privateMethod, .privateName, .privateProperty, .regExpLiteral,
  .restElement, .returnStatement, .sequenceExpression, .setterProperty, .sourceModule,
  .spreadElement, .staticBlock, .stringLiteral, .super, .superPropExpression, .switchCase,
  .switchStatement, .taggedTemplateExpression, .templateElement, .templateLiteral,
  .thisExpression, .throwStatement, .tryStatement, .tsArrayType, .tsAsExpression,
  .tsCallSignatureDeclaration, .tsConditionalType, .tsConstAssertion, .tsConstructorType,
  .tsConstructSignatureDeclaration, .tsDeclaredType, .tsEnumDeclaration, .tsEnumMember,
  .tsExportAssignment, .tsExpressionWithTypeArguments, .tsExternalModuleReference,
  .tsFunctionType, .tsGetterSignature, .tsImportCallOptions, .tsImportEqualsDeclaration,
  .tsImportType, .tsIndexedAccessType, .tsIndexSignature, .tsInferType, .tsInstantiation,
  .tsInterfaceBody, .tsInterfaceDeclaration, .tsIntersectionType, .tsKeywordType, .tsLiteralType,
  .tsMappedType, .tsMethodSignature, .tsModuleBlock, .tsModuleDeclaration,
  .tsNamespaceDeclaration, .tsNamespaceExportDeclaration, .tsNonNullExpression, .tsOptionalType,
  .tsParameterProperty, .tsParenthesizedType, .tsPropertySignature, .tsQualifiedName,
  .tsRestType, .tsSatisfiesExpression, .tsSetterSignature, .tsTemplateLiteralType, .tsThisType,
  .tsTupleElement, .tsTupleType, .tsTypeAliasDeclaration, .tsTypeAssertion, .tsTypeLiteral,
  .tsTypeOperator, .tsTypeParameter, .tsTypeParameterDeclaration, .tsTypeParameterInstantiation,
  .tsTypePredicate, .tsTypeQuery, .tsTypeReference, .tsUnionType, .unaryExpression,
  .updateExpression, .usingDeclaration, .variableDeclaration, .variableDeclarator,
  .whileStatement, .withStatement, .yieldExpression]

end MessageExtraction.Syntax
