import MessageExtraction.Scope.Shadowing

/-!
# Imports

What a module imports from other modules, and which import an identifier of it refers to. Imports of types
bind nothing here. An identifier that no import binds, or that stands for something declared further in,
refers to none.
-/

namespace MessageExtraction

open Syntax (Tree Identifier)

/-- What an import takes from its module. -/
inductive ImportedName where
  | default
  | namespace
  | named (name : String)
deriving DecidableEq, Repr

/-- The text that stands for what is imported in a list of accepted names. -/
def ImportedName.text : ImportedName → String
  | .default => "default"
  | .namespace => "*"
  | .named name => name

/-- A name bound by an import. -/
structure Import where
  /-- The name in this module. -/
  binding : Identifier
  /-- The path of the other module as it is written. -/
  modulePath : String
  imported : ImportedName
deriving DecidableEq, Repr

namespace Import

/-- The name of an export: an identifier, or a string without half a surrogate pair. -/
def exportName? : Tree → Option String
  | .identifier _ name _ _ => some name
  | .stringLiteral _ (.text value) _ => some value
  | _ => none

/-- The import of a specifier; none for types. -/
def ofSpecifier? (path : String) : Tree → Option Import
  | .importSpecifier _ binding imported typeOnly => do
      let binding ← binding.identifier?
      if typeOnly = .flag true then none
      else if imported = .absent then some ⟨binding, path, .named binding.name⟩
      else (exportName? imported).map fun imported => ⟨binding, path, .named imported⟩
  | .importDefaultSpecifier _ binding =>
      binding.identifier?.map fun binding => ⟨binding, path, .default⟩
  | .importNamespaceSpecifier _ binding =>
      binding.identifier?.map fun binding => ⟨binding, path, .namespace⟩
  | _ => none

/-- The imports of an item of a module. -/
def ofItem : Tree → List Import
  | .importDeclaration _ specifiers (.stringLiteral _ (.text path) _) typeOnly _ _ =>
      if typeOnly = .flag true then [] else specifiers.filterMap (ofSpecifier? path)
  | _ => []

end Import

/-- The imports of a module and the places that they do not reach. -/
structure Imports where
  bindings : List Import := []
  /-- Offsets of identifiers that have the name of an import and stand for something further in. -/
  shadowed : List Nat := []
deriving DecidableEq, Repr

namespace Imports

/-- The imports of a module. -/
def ofModule : Tree → Imports
  | tree@(.sourceModule _ items _) =>
      let bindings := items.flatMap Import.ofItem
      ⟨bindings, tree.shadowedOffsets (bindings.map fun i => i.binding.name) []⟩
  | _ => {}

/-- The import that a name at an offset refers to: of two with that name, the later. -/
def binding? (imports : Imports) (name : String) (offset : Nat) : Option Import :=
  if offset ∈ imports.shadowed then none
  else imports.bindings.reverse.find? fun i => i.binding.name = name

/-- The first import of something from a module whose path is written in this way. -/
def find? (imports : Imports) (path : String) (imported : ImportedName) : Option Import :=
  imports.bindings.find? fun i => i.modulePath = path ∧ i.imported = imported

end Imports

end MessageExtraction
