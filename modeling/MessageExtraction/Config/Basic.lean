/-!
# Configuration

How a project names the components and functions that mark its messages, where its sources are and where
its catalogs go.
-/

namespace MessageExtraction

/-- How markup gives the fields of a descriptor. -/
inductive MarkupMode where
  /-- Literal attributes; a missing default text is added to the markup as a copy of the id. -/
  | attribute
  /-- Attributes with values that are known before the program runs. -/
  | descriptor
deriving DecidableEq, Repr, Inhabited

/-- Which field of a descriptor is message text. -/
inductive MessageField where
  | id
  | defaultMessage
deriving DecidableEq, Repr, Inhabited

/-- A configuration; the defaults are those of a project without one. -/
structure Config where
  /-- Patterns of paths that are not scanned. -/
  ignores : List String := []
  /-- Paths or patterns that are scanned. -/
  includes : List String := ["src"]
  /-- The root of the scanned paths. -/
  sourceRoot : String := "./"
  ignoreTestFiles : Bool := true
  /-- The module that exports the marking components and functions. -/
  moduleSourceName : Option String := none
  /-- The directory of the catalogs; without one none is written. -/
  messagesDir : Option String := none
  /-- Whether each message needs a description. -/
  enforceDescriptions : Bool := false
  markupMode : MarkupMode := .descriptor
  messageField : MessageField := .defaultMessage
  /-- Components that mark a message. -/
  componentNames : List String := ["FormattedMessage"]
  /-- Components that once marked a message. -/
  deprecatedComponentNames : List String := ["FormattedHTMLMessage"]
  /-- Functions that take the id of one message. -/
  translateFunctions : List String := ["translate"]
  /-- Functions that take many descriptors. -/
  defineMessagesFunctions : List String := ["defineMessages"]
  /-- Directory names at which module paths are cut. -/
  internalPathMarkers : List String := ["i18n"]
  /-- The function that exported components are wrapped in. -/
  wrapperFunction : String := "injectIntl"
  /-- The module that exports the wrapping function. -/
  wrapperModule : String := "react-intl"
  /-- Base classes that make a class a component. -/
  baseComponentNames : List String := ["Component", "PureComponent"]
  /-- The base class that does not. -/
  excludedBaseClass : String := "BaseComponent"
  /-- The name of the properties inside a function component. -/
  propsIdentifier : String := "props"
deriving DecidableEq, Repr, Inhabited

/-- The module that exports the marking components and functions. -/
def Config.moduleSource (config : Config) : String :=
  config.moduleSourceName.getD <|
    match config.markupMode with
    | .descriptor => "react-intl"
    | .attribute => "i18n"

end MessageExtraction
