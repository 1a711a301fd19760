import MessageExtraction.Descriptor.Canonical
import MessageExtraction.Fault
import MessageExtraction.Import.Reference
import MessageExtraction.SourceFile

/-!
# Findings

What looking at one node of a file can bring to light: messages, warnings and faults, each with the piece
of the source that it is reported at. A finding depends on the node, the configuration and the imports, and
on nothing found before.
-/

namespace MessageExtraction

open Syntax (Tree Span)

/-- What does not change while the messages of a file are extracted. -/
structure Pass where
  config : Config
  file : SourceFile
  imports : Imports
deriving Repr

/-- What can be found at a node. -/
inductive Event where
  /-- A message and what its registration must have. -/
  | message (descriptor : Descriptor) (policy : Policy)
  /-- A remark that stops nothing. -/
  | warning (text : String)
  /-- What stops the extraction. -/
  | fault (cause : FaultCause)
deriving DecidableEq, Repr

/-- Something found, and where it is reported. -/
structure Finding where
  event : Event
  span : Option Span
deriving DecidableEq, Repr

namespace Pass

/-- Whether a reference is to one of the given exports of the module that marks messages. -/
def isHelper (pass : Pass) (names : List String) (reference : Reference) : Bool :=
  reference.isImported pass.imports pass.config.internalPathMarkers pass.config.moduleSource names

/-- What a registration must have. -/
def policy (pass : Pass) (requireDefaultMessage : Bool) : Policy :=
  ⟨pass.config.enforceDescriptions, requireDefaultMessage⟩

/-- The finding of the fields of one descriptor: its message if it has a text, or what is wrong with the
text. -/
def fieldsFindings (pass : Pass) (fields : Descriptor.Fields) (requireDefaultMessage : Bool)
    (span : Option Span) : List Finding :=
  match fields.canonical pass.config.messageField with
  | .error e => [⟨.fault (.syntaxError e), span⟩]
  | .ok none => []
  | .ok (some d) => [⟨.message d (pass.policy requireDefaultMessage), span⟩]

end Pass

end MessageExtraction
