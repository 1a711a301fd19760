import MessageExtraction.Extraction.Session

/-!
# Issues

What is reported about the files of a project: remarks, faults, and files that could not be read as modules.
Each has a rule that it falls under. Issues are ordered by place, then by rule, then by their wording.
-/

namespace MessageExtraction

/-- How grave an issue is. -/
inductive Severity where
  | error
  | warning
deriving DecidableEq, Repr, Inhabited

/-- The name of a severity. -/
def Severity.text : Severity → String
  | .error => "error"
  | .warning => "warning"

/-- The rules that issues fall under, in their order. -/
inductive Rule where
  | deprecatedComponent
  | missingId
  | missingDefaultMessage
  | descriptionRequired
  | duplicateId
  | notStatic
  | messageSyntax
  | invalidArgument
  | unparsed
deriving DecidableEq, Repr, Inhabited

namespace Rule

/-- The name of a rule. -/
def text : Rule → String
  | .deprecatedComponent => "deprecated-component"
  | .missingId => "missing-id"
  | .missingDefaultMessage => "missing-default-message"
  | .descriptionRequired => "description-required"
  | .duplicateId => "duplicate-id"
  | .notStatic => "static-evaluation"
  | .messageSyntax => "message-syntax"
  | .invalidArgument => "invalid-argument"
  | .unparsed => "parse-error"

/-- The place of a rule in the order of rules. -/
def rank : Rule → Nat
  | .deprecatedComponent => 0
  | .missingId => 1
  | .missingDefaultMessage => 2
  | .descriptionRequired => 3
  | .duplicateId => 4
  | .notStatic => 5
  | .messageSyntax => 6
  | .invalidArgument => 7
  | .unparsed => 8

/-- The rule of a fault. -/
def ofCause : FaultCause → Rule
  | .rejected .missingId => .missingId
  | .rejected (.missingDefaultMessage _) => .missingDefaultMessage
  | .rejected (.descriptionRequired _) => .descriptionRequired
  | .rejected (.duplicateId _) => .duplicateId
  | .notStatic _ => .notStatic
  | .syntaxError _ => .messageSyntax
  | .argumentShape _ | .argumentCount _ _ => .invalidArgument

end Rule

/-- Where an issue is shown. -/
inductive Place where
  /-- At a location, with the line of the source. -/
  | source (location : Location) (line : String)
  /-- At a file as a whole. -/
  | file (path : String)
deriving DecidableEq, Repr, Inhabited

/-- Something to report; a remark or fault comes with the source line it points into. -/
inductive Issue where
  | remark (warning : Warning) (line : String)
  | fault (found : Fault) (line : String)
  | unparsed (path : String) (text : String)
deriving DecidableEq, Repr, Inhabited

namespace Issue

/-- A remark on a source. -/
def ofWarning (source : String) (warning : Warning) : Issue :=
  .remark warning (warning.location.sourceLine source)

/-- A fault of a source. -/
def ofFault (source : String) (found : Fault) : Issue :=
  .fault found (found.location.sourceLine source)

/-- The place of a location: the file as a whole for what is not in the source. -/
def placeAt (location : Location) (line : String) : Place :=
  if location.line = 0 then .file location.file else .source location line

/-- Where an issue is shown. -/
def place : Issue → Place
  | .remark warning line => placeAt warning.location line
  | .fault found line => placeAt found.location line
  | .unparsed path _ => .file path

/-- The wording of an issue. -/
def text : Issue → String
  | .remark warning _ => warning.text
  | .fault found _ => found.cause.text
  | .unparsed _ text => text

/-- How grave an issue is. -/
def severity : Issue → Severity
  | .remark _ _ => .warning
  | .fault _ _ | .unparsed _ _ => .error

/-- The rule that an issue falls under. -/
def rule : Issue → Rule
  | .remark _ _ => .deprecatedComponent
  | .fault found _ => .ofCause found.cause
  | .unparsed _ _ => .unparsed

/-- Advice on an issue, if there is any. -/
def hint? : Issue → Option String
  | .fault found _ => found.cause.hint?
  | .remark _ _ | .unparsed _ _ => none

/-- Whether an issue is an error. -/
def isError (issue : Issue) : Bool := issue.severity == .error

/-! ## Order -/

/-- The file, line and column of a place; a file as a whole comes before its lines. -/
def placeKey : Place → String × Nat × Nat
  | .source location _ => (location.file, location.line, location.column)
  | .file path => (path, 0, 0)

/-- How two issues are ordered. -/
def order (a b : Issue) : Ordering :=
  let (file, line, column) := placeKey a.place
  let (file', line', column') := placeKey b.place
  (compare file file').then <| (compare line line').then <| (compare column column').then <|
    (compare a.rule.rank b.rule.rank).then (compare a.text b.text)

/-- Issues in order; those that are equal in it stay as they are. -/
def sort (issues : List Issue) : List Issue := issues.mergeSort fun a b => (order a b).isLE

end Issue

end MessageExtraction
