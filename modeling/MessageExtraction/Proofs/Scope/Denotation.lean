import MessageExtraction.Proofs.Scope.Declaring
import MessageExtraction.Proofs.Scope.Resolution

/-!
# What identifiers denote

An identifier with the name of a component need not stand for the component.

* `meaning?`: as what an identifier is looked up, by the place it stands at. Labels, keys, the names that
  a foreign module gives and the names that imports, type parameters and members are given are not looked
  up at all.
* `Tree.namesAs`: the names that the language declares for the field of a node, apart for values, types
  and namespaces. Types of the same name do not hide a value, nor values a type.
* `Sighting.Denotes`: whether an identifier stands for the component of its name that the module declares.
  A class is a type as well, and it is the namespace of its name if there is one; a variable is neither.
-/

namespace MessageExtraction

namespace Syntax

/-- As what a name is looked up. -/
inductive Meaning where
  | value
  | type
  /-- A namespace, or something else that holds types: what a name before a dot in a type is. -/
  | space
  /-- Any of these, for a name that is exported or given another name as a whole. -/
  | any
deriving DecidableEq, Repr

/-- Whether a tag with a name is one of the markup itself, and not a component. -/
def isIntrinsicTag (name : String) : Bool :=
  name.toList.head?.any Char.isLower || name.toList.contains '-'

namespace Tree

/-- Whether the key of a member of a type is written in brackets. -/
def hasComputedKey : Tree → Bool
  | .node .tsPropertySignature _ [_, _, .flag computed, _, _] => computed
  | .node .tsMethodSignature _ [_, .flag computed, _, _, _, _] => computed
  | .node .tsGetterSignature _ [_, .flag computed, _] => computed
  | .node .tsSetterSignature _ [_, .flag computed, _] => computed
  | _ => false

/-- Whether a namespace is the global one. -/
def isGlobal : Tree → Bool
  | .node .tsModuleDeclaration _ [_, .flag isGlobal, _, _, _] => isGlobal
  | _ => false

end Tree

/-- As what an identifier is looked up, by the fields above it; nothing for one that is not. -/
def meaning? (name : String) : List Frame → Option Meaning
  | [] => some .value
  | ⟨parent, index⟩ :: chain =>
      match parent.kind?, index with
      | none, _ => meaning? name chain
      | some .restElement, 1 => meaning? name chain
      | some .labeledStatement, 0 | some .breakStatement, 0 | some .continueStatement, 0 => none
      | some .importSpecifier, _ | some .importDefaultSpecifier, _
      | some .importNamespaceSpecifier, _ | some .tsImportEqualsDeclaration, 2 => none
      | some .exportSpecifier, _ | some .exportDefaultSpecifier, _
      | some .exportNamespaceSpecifier, _ | some .tsNamespaceExportDeclaration, _ => none
      | some .tsEnumMember, 0 | some .tsTupleElement, 0 | some .tsTypeParameter, 0
      | some .tsImportType, 1 | some .tsNamespaceDeclaration, 2 => none
      | some .tsPropertySignature, 1 | some .tsMethodSignature, 0 | some .tsGetterSignature, 0
      | some .tsSetterSignature, 0 => if parent.hasComputedKey then some .value else none
      | some .jsxOpeningElement, 0 | some .jsxClosingElement, 0 =>
          if isIntrinsicTag name then none else some .value
      | some .tsTypeReference, 0 | some .tsExpressionWithTypeArguments, 0
      | some .tsInterfaceDeclaration, 0 | some .tsTypeAliasDeclaration, 1 => some .type
      | some .tsModuleDeclaration, 3 => if parent.isGlobal then none else some .space
      | some .exportDefaultExpression, _ | some .tsExportAssignment, _
      | some .tsImportEqualsDeclaration, 3 => some .any
      | some .tsQualifiedName, 0 =>
          (meaning? name chain).map fun m => if m = .value then .value else .space
      | some .memberExpression, 0 =>
          (meaning? name chain).map fun m => if m = .type then .space else m
      | _, _ => some .value

namespace Tree

/-! ## Declared values -/

/-- The names of the parameters that the type of a function declares for field number `i`. -/
def signatureNames (i : Nat) : Tree → List String
  | .node .tsFunctionType _ [params, _, _] => boundNamesOf params.items
  | .node .tsConstructorType _ [params, _, _, _] => boundNamesOf params.items
  | .node .tsCallSignatureDeclaration _ [params, _, _] => boundNamesOf params.items
  | .node .tsConstructSignatureDeclaration _ [params, _, _] => boundNamesOf params.items
  | .node .tsMethodSignature _ [_, _, _, params, _, _] =>
      if i = 0 then [] else boundNamesOf params.items
  | .node .tsSetterSignature _ [_, _, param] => if i = 0 then [] else param.boundNames
  | .node .tsIndexSignature _ [params, _, _, _] => boundNamesOf params.items
  | _ => []

mutual
/-- Whether an item of a namespace is more than a type, so that a namespace with it is a value. -/
def holdsValue : Tree → Bool
  | .node .tsInterfaceDeclaration _ _ => false
  | .node .tsTypeAliasDeclaration _ _ => false
  | .node .importDeclaration _ _ => false
  | .node .tsImportEqualsDeclaration _ (.absent :: _) => false
  | .node .tsModuleDeclaration _ [_, _, _, _, body] => body.holdsValue
  | .node .tsNamespaceDeclaration _ [_, _, _, body] => body.holdsValue
  | .tsModuleBlock _ items => holdsValueOf items
  | .exportDeclaration _ declaration => declaration.holdsValue
  | _ => true

/-- Whether one of the items of a namespace is more than a type. -/
def holdsValueOf : List Tree → Bool
  | [] => false
  | t :: ts => t.holdsValue || holdsValueOf ts
end

/-- The name of a namespace. -/
def spaceNames : Tree → List String
  | .node .tsModuleDeclaration _ [_, _, _, name, _] => name.boundNames
  | .node .tsNamespaceDeclaration _ [_, _, name, _] => name.boundNames
  | _ => []

/-- The name of a namespace that is a value. -/
def valueSpaceNames (t : Tree) : List String := if t.holdsValue then t.spaceNames else []

/-- The names that an item of a namespace has from elsewhere. -/
def foreignNames : Tree → List String
  | .importDeclaration _ specifiers _ _ _ _ => specifiers.flatMap localNames
  | .node .tsImportEqualsDeclaration _ [_, _, name, _] => name.boundNames
  | _ => []

/-- The names that the language declares as values for field number `i` of a node. -/
def valueNames (i : Nat) : Tree → List String
  | t@(.tsModuleBlock _ items) =>
      t.scopeNames i ++ items.flatMap fun item =>
        item.unexported.valueSpaceNames ++ item.foreignNames
  | .node .tsModuleDeclaration _ [_, _, _, _, body] => if i = 4 then body.valueSpaceNames else []
  | .node .tsNamespaceDeclaration _ [_, _, _, body] => if i = 3 then body.valueSpaceNames else []
  | t => t.scopeNames i ++ t.signatureNames i

/-! ## Declared types and namespaces -/

/-- The name of a type parameter. -/
def parameterName : Tree → List String
  | .node .tsTypeParameter _ (name :: _) => name.boundNames
  | _ => []

/-- The names of the type parameters that a list of them declares. -/
def parameterNames : Tree → List String
  | .node .tsTypeParameterDeclaration _ [parameters] => parameters.items.flatMap parameterName
  | _ => []

mutual
/-- The names that a type has inferred where another type has its shape. -/
def inferredNames : Tree → List String
  | .node .tsInferType _ [typeParam] => typeParam.parameterName
  | .node .tsConditionalType _ [checked, _, whenTrue, whenFalse] =>
      checked.inferredNames ++ whenTrue.inferredNames ++ whenFalse.inferredNames
  | .node _ _ fields => inferredNamesOf fields
  | .list items => inferredNamesOf items
  | _ => []

/-- The names that any of the given types has inferred. -/
def inferredNamesOf : List Tree → List String
  | [] => []
  | t :: ts => t.inferredNames ++ inferredNamesOf ts
end

/-- The name of a declaration that is a type. -/
def typeNames : Tree → List String
  | .classDeclaration _ name _ _ _ _ _ _ _ _ => name.boundNames
  | .node .tsInterfaceDeclaration _ (name :: _) => name.boundNames
  | .node .tsTypeAliasDeclaration _ (_ :: name :: _) => name.boundNames
  | t => t.enumNames

/-- The statements of a case of a `switch`. -/
def caseStatements : Tree → List Tree
  | .switchCase _ _ consequent => consequent
  | _ => []

/-- The names that the language declares as types for field number `i` of a node. Decorators see nothing of
what they decorate. -/
def declaredTypeNames (i : Nat) : Tree → List String
  | .function _ _ _ _ _ _ typeParams _ => if i = 1 then [] else typeParams.parameterNames
  | .methodProperty _ _ _ _ _ _ _ typeParams _ => if i = 0 then [] else typeParams.parameterNames
  | .functionDeclaration _ _ _ _ _ _ _ _ typeParams _ => typeParams.parameterNames
  | .functionExpression _ _ _ _ _ _ _ typeParams _ => typeParams.parameterNames
  | .arrowFunctionExpression _ _ _ _ _ typeParams _ => typeParams.parameterNames
  | .classDeclaration _ _ _ _ _ _ _ typeParams _ _ => if i = 2 then [] else typeParams.parameterNames
  | .classExpression _ name _ _ _ _ typeParams _ _ =>
      if i = 1 then [] else name.boundNames ++ typeParams.parameterNames
  | .node .tsInterfaceDeclaration _ [_, _, typeParams, _, _] => typeParams.parameterNames
  | .node .tsTypeAliasDeclaration _ [_, _, typeParams, _] => typeParams.parameterNames
  | .node .tsFunctionType _ [_, typeParams, _] => typeParams.parameterNames
  | .node .tsConstructorType _ [_, typeParams, _, _] => typeParams.parameterNames
  | .node .tsCallSignatureDeclaration _ [_, _, typeParams] => typeParams.parameterNames
  | .node .tsConstructSignatureDeclaration _ [_, _, typeParams] => typeParams.parameterNames
  | .node .tsMethodSignature _ [_, _, _, _, _, typeParams] =>
      if i = 0 then [] else typeParams.parameterNames
  | .node .tsMappedType _ [_, typeParam, _, _, _] => typeParam.parameterName
  | .node .tsConditionalType _ [_, extended, _, _] => if i = 2 then extended.inferredNames else []
  | .blockStatement _ stmts => stmts.flatMap typeNames
  | .switchStatement _ _ cases => if i = 1 then (cases.flatMap caseStatements).flatMap typeNames else []
  | .tsModuleBlock _ items => items.flatMap fun item => item.unexported.typeNames ++ item.foreignNames
  | _ => []

/-- The names that the language declares as namespaces for field number `i` of a node. -/
def declaredSpaceNames (i : Nat) : Tree → List String
  | .blockStatement _ stmts => stmts.flatMap enumNames
  | .switchStatement _ _ cases => if i = 1 then (cases.flatMap caseStatements).flatMap enumNames else []
  | .tsModuleBlock _ items => items.flatMap fun item =>
      item.unexported.enumNames ++ item.unexported.spaceNames ++ item.foreignNames
  | .node .tsModuleDeclaration _ [_, _, _, _, body] => if i = 4 then body.spaceNames else []
  | .node .tsNamespaceDeclaration _ [_, _, _, body] => if i = 3 then body.spaceNames else []
  | _ => []

/-- The names that the language declares with a meaning for field number `i` of a node. -/
def namesAs (meaning : Meaning) (i : Nat) (t : Tree) : List String :=
  match meaning with
  | .value => t.valueNames i
  | .type => t.declaredTypeNames i
  | .space => t.declaredSpaceNames i
  | .any => t.valueNames i ++ t.declaredTypeNames i ++ t.declaredSpaceNames i

/-- The name of a class. -/
def className : Tree → List String
  | .classDeclaration _ name _ _ _ _ _ _ _ _ => name.boundNames
  | _ => []

end Tree

/-- Whether the component of a name has a meaning in a module with the given items. -/
def Meaning.IsHad (items : List Tree) (name : String) : Meaning → Prop
  | .value | .any => True
  | .type => name ∈ items.flatMap fun item => item.unexported.className
  | .space =>
      (name ∈ items.flatMap fun item => item.unexported.className)
        ∧ name ∈ items.flatMap fun item => item.unexported.spaceNames

instance (items : List Tree) (name : String) :
    (meaning : Meaning) → Decidable (meaning.IsHad items name)
  | .value | .any => inferInstanceAs (Decidable True)
  | .type => inferInstanceAs (Decidable (_ ∈ _))
  | .space => inferInstanceAs (Decidable (_ ∈ _ ∧ _ ∈ _))

namespace Sighting

/-- Whether the language resolves an identifier, looked up as a meaning, further in than the module. -/
def StandsInside (s : Sighting) (meaning : Meaning) : Prop :=
  ∃ frame ∈ visible false s.chain, s.name ∈ frame.parent.namesAs meaning frame.index

/-- Whether an identifier refers to, or declares, the component of its name in a module with the given
items. -/
def Denotes (items : List Tree) (s : Sighting) : Prop :=
  ∃ meaning ∈ meaning? s.name s.chain, ¬ s.StandsInside meaning ∧ meaning.IsHad items s.name

instance (s : Sighting) (meaning : Meaning) : Decidable (s.StandsInside meaning) :=
  inferInstanceAs (Decidable (∃ frame ∈ visible false s.chain, _ ∈ _))

instance (items : List Tree) (s : Sighting) : Decidable (s.Denotes items) :=
  inferInstanceAs (Decidable (∃ meaning ∈ meaning? s.name s.chain, _ ∧ _))

end Sighting

end Syntax

end MessageExtraction
