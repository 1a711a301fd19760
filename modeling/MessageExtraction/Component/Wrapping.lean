import MessageExtraction.Component.Classify
import MessageExtraction.Import.Basic
import MessageExtraction.Static.Value

/-!
# Wrapped components

An exported component `X` that is wrapped goes on as `_X`, and a new export `X` is the wrapping function
applied to it. Every identifier of that name is renamed in the whole module, but for the names that an
export list gives.
-/

namespace MessageExtraction.Component

open Syntax (Tree Identifier Span)

/-! ## Renaming -/

/-- The name that an identifier has after the components of the given names went internal. -/
def renamed (names : List String) (name : String) : String :=
  if name ∈ names then internalName name else name

/-- A shorthand property in which the key keeps its name and the value is renamed. -/
def renamedShorthand (names : List String) (span : Option Span) (name : String)
    (isOptional declaredType : Tree) : Tree :=
  if name ∈ names then
    .keyValueProperty (.identifierName span name)
      (.identifier span (internalName name) isOptional declaredType)
  else .identifier span name isOptional declaredType

mutual
/-- A tree in which the components of the given names have their internal names. -/
def rename (names : List String) : Tree → Tree
  | .identifier span name isOptional declaredType =>
      .identifier span (renamed names name) isOptional (rename names declaredType)
  | .objectExpression span properties =>
      .objectExpression span (renameProperties names properties)
  | .node kind span fields =>
      if kind = .exportSpecifier then .node kind span fields
      else .node kind span (renameAll names fields)
  | .list items => .list (renameAll names items)
  | t => t

/-- Renames in several trees. -/
def renameAll (names : List String) : List Tree → List Tree
  | [] => []
  | t :: ts => rename names t :: renameAll names ts

/-- Renames in the properties of an object literal. -/
def renameProperties (names : List String) : List Tree → List Tree
  | [] => []
  | .identifier span name isOptional declaredType :: ts =>
      renamedShorthand names span name isOptional declaredType :: renameProperties names ts
  | t :: ts => rename names t :: renameProperties names ts
end

/-! ## Made declarations -/

/-- The export of a component under its public name. -/
def wrappedExport (wrapper : Identifier) (name : String) : Tree :=
  let value := .callExpression (some .made) wrapper.toTree
    [.element none (Identifier.made (internalName name)).toTree] .absent
  .exportDeclaration (some .made)
    (.variableDeclaration (some .made) "const" .absent
      [.variableDeclarator (some .made) (Identifier.made name).toTree value .absent])

/-- The import of the wrapping function. -/
def wrapperImport (wrapper : Identifier) (path : String) : Tree :=
  .importDeclaration (some .made)
    [.importSpecifier (some .made) wrapper.toTree .absent .absent]
    (StaticValue.stringNode path) .absent .absent (.text "evaluation")

/-- The items of a module, an item with a component in `names` followed by the export that wraps it. The
items are paired with the components that they export. -/
def insertExports (wrapper : Identifier) : List (Tree × Option String) → List Tree
  | [] => []
  | (item, none) :: items => item :: insertExports wrapper items
  | (item, some name) :: items => item :: wrappedExport wrapper name :: insertExports wrapper items

end MessageExtraction.Component
