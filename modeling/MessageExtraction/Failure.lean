import MessageExtraction.FileSystem.Basic
import MessageExtraction.Glob.Pattern
import MessageExtraction.Text.Quote

/-!
# Failures

What ends a whole run, in contrast to a fault of one file.
-/

namespace MessageExtraction

/-- What ends a run. -/
inductive Failure where
  | readConfig (path : Path) (error : FileError)
  /-- The text of a file is no configuration. -/
  | parseConfig (path : Path)
  | writeConfig (path : Path) (error : FileError)
  | ignoredPattern (pattern : String) (error : Glob.PatternError)
  | includedPattern (pattern : String) (error : Glob.PatternError)
  | emptyWrapper
  | readFile (path : Path) (error : FileError)
  | createDirectory (path : Path) (error : FileError)
  | writeCatalog (path : Path) (error : FileError)
deriving DecidableEq, Repr, Inhabited

namespace Failure

/-- What was to be done, or what is wrong. -/
def text : Failure → String
  | .readConfig path _ => "Failed to read config file: " ++ Text.quoted path.text
  | .parseConfig path => "Failed to parse config file: " ++ Text.quoted path.text
  | .writeConfig path _ => "Failed to write " ++ path.text
  | .ignoredPattern pattern _ =>
      "Invalid glob pattern in 'ignores': \"" ++ pattern ++ "\""
  | .includedPattern pattern _ =>
      "Invalid glob pattern in 'includes': \"" ++ pattern ++ "\""
  | .emptyWrapper => "'wrapperFunction' must not be empty"
  | .readFile path _ => "Failed to read file: " ++ path.text
  | .createDirectory path _ => "Failed to create directory: " ++ path.text
  | .writeCatalog path _ => "Failed to write catalog: " ++ path.text

/-- What stood against it. -/
def reason? : Failure → Option String
  | .readConfig _ e | .writeConfig _ e | .readFile _ e | .createDirectory _ e
  | .writeCatalog _ e => some e.text
  | .parseConfig _ => some "not a configuration"
  | .ignoredPattern _ e | .includedPattern _ e => some e.text
  | .emptyWrapper => none

end Failure

end MessageExtraction
