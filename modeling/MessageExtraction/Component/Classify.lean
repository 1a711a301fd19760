import MessageExtraction.Config.Basic
import MessageExtraction.Static.Evaluate
import MessageExtraction.Text.Case

/-!
# Components

Which exported declarations are components, by their shape alone: a class that extends one of the configured
base classes, or a single variable with an upper-case name and a function whose last statement returns
markup. Names that start with `_` are internal and never name a component.
-/

namespace MessageExtraction

open Syntax (Tree Identifier)

/-- The kinds of components. -/
inductive ComponentKind where
  /-- A class. -/
  | classBased
  /-- A variable that holds a function. -/
  | functional
deriving DecidableEq, Repr, Inhabited

/-- An exported component. -/
structure Component where
  kind : ComponentKind
  identifier : Identifier
deriving DecidableEq, Repr, Inhabited

namespace Component

/-- Whether a name belongs to a component that has been wrapped. -/
def isInternal (name : String) : Bool :=
  match name.toList with
  | '_' :: _ => true
  | _ => false

/-- The internal name of a component that is wrapped. -/
def internalName (name : String) : String := "_" ++ name

/-- Whether a name starts with an upper-case character. -/
def startsUppercase (name : String) : Bool :=
  match name.toList with
  | c :: _ => Text.isUppercase c
  | [] => false

/-- The name of a base class, without what qualifies it. -/
def baseName? (superClass : Tree) : Option String :=
  match superClass.unwrap with
  | .identifier _ name _ _ => some name
  | .memberExpression _ _ (.identifierName _ name) => some name
  | _ => none

/-- Whether a class with a name and a base class is a component. -/
def isComponentClass (config : Config) (name : String) (superClass : Tree) : Bool :=
  match baseName? superClass with
  | some base =>
      !isInternal name && name != config.excludedBaseClass && base != config.excludedBaseClass
        && config.baseComponentNames.contains base
  | none => false

/-- The statements of a function, none of a function that is only an expression. -/
def statements (function : Tree) : List Tree :=
  match function.unwrap with
  | .arrowFunctionExpression _ _ (.blockStatement _ stmts) _ _ _ _ => stmts
  | .functionExpression _ _ _ _ (.blockStatement _ stmts) _ _ _ _ => stmts
  | _ => []

/-- Whether the last of the statements returns markup. -/
def endWithMarkup (stmts : List Tree) : Bool :=
  match stmts.getLast? with
  | some (.returnStatement _ value) =>
      match value.unwrap.kind? with
      | some .jsxElement | some .jsxFragment => true
      | _ => false
  | _ => false

/-- The component that an item of a module exports. -/
def ofItem? (config : Config) : Tree → Option Component
  | .exportDeclaration _
      (.classDeclaration _ (.identifier span name _ _) _ _ _ superClass _ _ _ _) =>
      if isComponentClass config name superClass then some ⟨.classBased, ⟨name, span⟩⟩ else none
  | .exportDeclaration _
      (.variableDeclaration _ _ _ [.variableDeclarator _ (.identifier span name _ _) init _]) =>
      if startsUppercase name && !isInternal name && endWithMarkup (statements init) then
        some ⟨.functional, ⟨name, span⟩⟩
      else none
  | _ => none

end Component

end MessageExtraction
