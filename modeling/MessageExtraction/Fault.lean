import MessageExtraction.Descriptor.Registry
import MessageExtraction.Location

/-!
# Faults

What makes the messages of a file unusable. The first fault ends the work on its file.
-/

namespace MessageExtraction

/-- The kinds of faults. -/
inductive FaultCause where
  /-- The registry refused a descriptor. -/
  | rejected (rejection : Rejection)
  /-- The value called `name` is not known before the program runs. -/
  | notStatic (name : String)
  /-- A message text is not well formed. -/
  | syntaxError (error : Message.SyntaxError)
  /-- A helper's first argument has the wrong form. -/
  | argumentShape (callee : String)
  /-- A helper is given too many arguments, or a spread one. -/
  | argumentCount (callee : String) (max : Nat)
deriving DecidableEq, Repr, Inhabited

/-- A fault with its place. -/
structure Fault where
  cause : FaultCause
  location : Location
deriving DecidableEq, Repr, Inhabited

/-- The wording of a fault without its place. -/
def FaultCause.text : FaultCause → String
  | .rejected rejection => rejection.text
  | .notStatic name => "`" ++ name ++ "` must be statically evaluable"
  | .syntaxError error => "message failed to parse: " ++ error.text
  | .argumentShape callee => "`" ++ callee ++ "` expects an object, an array or a string literal"
  | .argumentCount callee max =>
      "`" ++ callee ++ "` takes at most " ++ toString max ++
        " arguments and none may be spread"

/-- Advice on how to mend a fault, if there is any. -/
def FaultCause.hint? : FaultCause → Option String
  | .syntaxError error => error.hint?
  | .rejected (.descriptionRequired _) =>
      some "add a `description` or disable `enforceDescriptions`"
  | _ => none

/-- The wording of a fault with its place. -/
def Fault.text (f : Fault) : String := f.location.text ++ ": " ++ f.cause.text

end MessageExtraction
