import MessageExtraction.Component.Classify
import MessageExtraction.Extraction.Finding

/-!
# Sessions

What an extraction has gathered from a file so far. After the first fault a session gathers nothing more.
-/

namespace MessageExtraction

open Syntax (Identifier)

/-- A remark on a place of a file. -/
structure Warning where
  location : Location
  text : String
deriving DecidableEq, Repr, Inhabited

/-- What has been gathered from a file. -/
structure Session where
  registry : Registry := {}
  /-- The components that have been wrapped, by their public and their internal names. -/
  converted : List String := []
  /-- What the wrapping function is called in the file, once that is settled. -/
  wrapper : Option Identifier := none
  /-- The kind of the component whose declaration is being visited. -/
  component : Option ComponentKind := none
  warnings : List Warning := []
  /-- The first fault. -/
  fault : Option Fault := none
deriving Repr, Inhabited

namespace Session

/-- Whether there was a fault. -/
def failed (session : Session) : Bool := session.fault.isSome

/-- Takes a finding in. -/
def record (file : SourceFile) (session : Session) (finding : Finding) : Session :=
  if session.failed then session
  else
    match finding.event with
    | .warning text =>
        { session with warnings := session.warnings ++ [⟨file.locate finding.span, text⟩] }
    | .fault cause => { session with fault := some ⟨cause, file.locate finding.span⟩ }
    | .message d policy =>
        match session.registry.register policy d with
        | .ok registry => { session with registry }
        | .error rejection =>
            { session with fault := some ⟨.rejected rejection, file.locate finding.span⟩ }

/-- Takes findings in, one after the other. -/
def recordAll (file : SourceFile) (session : Session) (findings : List Finding) : Session :=
  findings.foldl (record file) session

end Session

end MessageExtraction
