/-!
# Syntax errors of messages

Why a text is not a message, and where: the byte offset of the place at which reading stopped.
-/

namespace MessageExtraction.Message

/-- Why a text is not a message. -/
inductive Cause where
  | emptyArgument
  | malformedArgument
  | unclosedArgument
  | unmatchedClosingBrace
  | expectedArgumentType
  | invalidArgumentType (type : String)
  | expectedArgumentStyle
  | invalidOffset
  | expectedSelector
  | invalidPluralSelector (selector : String)
  | duplicateSelector (selector : String)
  | expectedBranchBody
  | missingOtherBranch
deriving DecidableEq, Repr, Inhabited

/-- The wording of a cause. -/
def Cause.text : Cause → String
  | .emptyArgument => "empty argument"
  | .malformedArgument => "malformed argument"
  | .unclosedArgument => "expected a closing `\x7d`"
  | .unmatchedClosingBrace => "unmatched `\x7d`"
  | .expectedArgumentType => "expected an argument type"
  | .invalidArgumentType type => "invalid argument type `" ++ type ++ "`"
  | .expectedArgumentStyle => "expected an argument style"
  | .invalidOffset => "invalid plural offset"
  | .expectedSelector => "expected an option selector"
  | .invalidPluralSelector selector => "invalid plural selector `" ++ selector ++ "`"
  | .duplicateSelector selector => "duplicate selector `" ++ selector ++ "`"
  | .expectedBranchBody => "expected `\x7b` after a selector"
  | .missingOtherBranch => "missing `other` option"

/-- A syntax error: its cause, the byte offset into the message, and whether the text shows a backslash
in a place where backslashes escape nothing. -/
structure SyntaxError where
  cause : Cause
  offset : Nat
  escaped : Bool := false
deriving DecidableEq, Repr, Inhabited

/-- The wording of a syntax error, with its place. -/
def SyntaxError.text (e : SyntaxError) : String :=
  e.cause.text ++ " at offset " ++ toString e.offset

/-- Advice for a message whose author tried to escape with backslashes in a markup attribute. -/
def escapeHint : String :=
  "it looks like `\\` was used for escaping, which does not work in JSX string attributes; " ++
  "wrap the message in `\x7b\x7d` instead"

/-- Advice on how to mend the message, if there is any. -/
def SyntaxError.hint? (e : SyntaxError) : Option String :=
  if e.escaped then some escapeHint else none

end MessageExtraction.Message
