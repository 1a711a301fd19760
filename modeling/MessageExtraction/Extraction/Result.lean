import MessageExtraction.Catalog.Emission
import MessageExtraction.Extraction.Walk

/-!
# The result of a file

What the extraction of a file ends in: its messages and warnings, with its catalog written; or its first
fault, and nothing written.
-/

namespace MessageExtraction

open Syntax (Tree)

/-- What was extracted from a file. -/
structure FileResult where
  /-- The messages in the order of their registration. -/
  messages : List Descriptor
  warnings : List Warning
  /-- The catalog that was written. -/
  catalog : Option Path
deriving DecidableEq, Repr, Inhabited

/-- Why there is no result of a file. -/
inductive Stop where
  /-- A fault in the file. -/
  | fault (fault : Fault)
  /-- The catalog cannot be written. -/
  | failure (failure : Failure)
deriving DecidableEq, Repr, Inhabited

/-- Ends a session: writes the catalog, unless there was a fault. -/
def Session.finish (session : Session) (config : Config) (fs : FileSystem) (source root : Path) :
    FileSystem × Except Stop FileResult :=
  match session.fault with
  | some fault => (fs, .error (.fault fault))
  | none =>
      match Catalog.emit fs config.messagesDir source root session.registry.entries with
      | (fs, .error failure) => (fs, .error (.failure failure))
      | (fs, .ok catalog) => (fs, .ok ⟨session.registry.entries, session.warnings, catalog⟩)

/-- A session ends well if nothing failed in it and its catalog can be written. -/
theorem Session.finish_ok_iff {session : Session} {config : Config} {fs fs' : FileSystem}
    {source root : Path} {result : FileResult} :
    session.finish config fs source root = (fs', .ok result)
      ↔ session.failed = false ∧ ∃ catalog,
        Catalog.emit fs config.messagesDir source root session.registry.entries = (fs', .ok catalog)
          ∧ result = ⟨session.registry.entries, session.warnings, catalog⟩ := by
  rw [finish, failed]
  cases session.fault with
  | some fault => simp
  | none =>
    dsimp only
    generalize Catalog.emit fs config.messagesDir source root session.registry.entries = emitted
    obtain ⟨fs₁, _ | catalog⟩ := emitted
    · simp
    · constructor
      · rintro ⟨⟩
        exact ⟨rfl, catalog, rfl, rfl⟩
      · rintro ⟨-, _, ⟨⟩, rfl⟩
        rfl

namespace Pass

/-- The pass over a module with the imports that it has. -/
def ofModule (config : Config) (file : SourceFile) (tree : Tree) : Pass :=
  ⟨config, file, Imports.ofModule tree⟩

/-- Extracts the messages of a module in a new session. -/
def extract (pass : Pass) (tree : Tree) : Tree × Session := pass.walk {} tree

end Pass

/-- Extracts the messages of a source file and writes its catalog. -/
def extractFile (config : Config) (fs : FileSystem) (root : Path) (file : SourceFile) (tree : Tree) :
    Tree × FileSystem × Except Stop FileResult :=
  let (tree, session) := (Pass.ofModule config file tree).extract tree
  (tree, session.finish config fs ⟨file.path⟩ root)

end MessageExtraction
