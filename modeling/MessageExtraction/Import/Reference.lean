import MessageExtraction.Import.Basic
import MessageExtraction.Import.ModulePath

/-!
# References to imports

Whether an identifier refers to an import from a given module. Paths are compared up to what stands before
a marker, so that it does not matter how deep the importing file lies.
-/

namespace MessageExtraction

open Syntax (Tree Identifier)

namespace Imports

/-- Whether an identifier refers to an import from a module that is accepted. -/
def references (imports : Imports) (markers : List String) (identifier : Identifier)
    (path : String) (accepts : ImportedName → Bool) : Bool :=
  match imports.binding? identifier.name identifier.offset with
  | some binding => ModulePath.same markers binding.modulePath path && accepts binding.imported
  | none => false

/-- Whether an identifier is an import of a whole module, and the member one of the given names. -/
def referencesMember (imports : Imports) (markers : List String) (object : Identifier)
    (member path : String) (names : List String) : Bool :=
  imports.references markers object path (· == .namespace) && names.contains member

end Imports

/-- What names a function or a component: an identifier, or a member of one. -/
inductive Reference where
  | plain (identifier : Identifier)
  | member (object : Identifier) (name : String)
deriving DecidableEq, Repr

namespace Reference

/-- The reference that is called, in a call. -/
def ofCallee? : Tree → Option Reference
  | .identifier span name _ _ => some (.plain ⟨name, span⟩)
  | .memberExpression _ (.identifier span name _ _) (.identifierName _ property) =>
      some (.member ⟨name, span⟩ property)
  | _ => none

/-- The reference that names a tag. -/
def ofTag? : Tree → Option Reference
  | .identifier span name _ _ => some (.plain ⟨name, span⟩)
  | .jsxMemberExpression _ (.identifier span name _ _) (.identifierName _ property) =>
      some (.member ⟨name, span⟩ property)
  | _ => none

/-- A reference as it is written. -/
def text : Reference → String
  | .plain identifier => identifier.name
  | .member object name => object.name ++ "." ++ name

/-- Whether a reference is to one of the given exports of a module. -/
def isImported (reference : Reference) (imports : Imports) (markers : List String)
    (path : String) (names : List String) : Bool :=
  match reference with
  | .plain identifier =>
      imports.references markers identifier path fun imported => names.contains imported.text
  | .member object name => imports.referencesMember markers object name path names

end Reference

end MessageExtraction
