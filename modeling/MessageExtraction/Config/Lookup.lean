import MessageExtraction.Config.Setting
import MessageExtraction.Failure
import MessageExtraction.Text.Blank

/-!
# The configuration of a project

The configuration file is looked for in the root of the project and in the directories that hold it, up to
one that holds a repository. A project without one has the default configuration. What is read is checked
before it is used.
-/

namespace MessageExtraction.Config

/-- The name of configuration files. -/
def fileName : Path := ⟨".intlxrc.json"⟩

/-- The entry that marks the directory of a repository. -/
def repositoryMark : Path := ⟨".git"⟩

/-! ## Checking -/

/-- The first of the patterns to ignore that is refused. -/
def checkIgnores : List String → Except Failure Unit
  | [] => .ok ()
  | pattern :: patterns =>
      match Glob.parse pattern with
      | .error e => .error (.ignoredPattern pattern e)
      | .ok _ => checkIgnores patterns

/-- The first of the patterns to include that is refused. A text without wildcards is a path. -/
def checkIncludes : List String → Except Failure Unit
  | [] => .ok ()
  | pattern :: patterns =>
      if Glob.isPattern pattern then
        match Glob.parse pattern with
        | .error e => .error (.includedPattern pattern e)
        | .ok _ => checkIncludes patterns
      else checkIncludes patterns

/-- Whether a configuration can be used, or what is wrong with it. -/
def check (config : Config) : Except Failure Unit := do
  checkIgnores config.ignores
  checkIncludes config.includes
  if Text.trim config.wrapperFunction = "" then .error .emptyWrapper else .ok ()

/-! ## Finding and loading -/

/-- The configuration file in the first of the given directories that has one, unless a repository comes
before it. -/
def findIn (fs : FileSystem) : List Path → Option Path
  | [] => none
  | directory :: directories =>
      if fs.exists? (directory.join fileName) then some (directory.join fileName)
      else if fs.exists? (directory.join repositoryMark) then none
      else findIn fs directories

/-- The configuration file of a project. -/
def find? (fs : FileSystem) (root : Path) : Option Path := findIn fs root.ancestors

/-- The configuration of a project, and whether it comes from a file. -/
def load (fs : FileSystem) (root : Path) : Except Failure (Config × Bool) :=
  match find? fs root with
  | none => .ok ({}, false)
  | some path =>
      match fs.read path with
      | .error e => .error (.readConfig path e)
      | .ok text =>
          match parse? text with
          | none => .error (.parseConfig path)
          | some config => do
              config.check
              .ok (config, true)

end MessageExtraction.Config
