import MessageExtraction.Config.Lookup
import MessageExtraction.Extraction.Result
import MessageExtraction.Report.Issue
import MessageExtraction.Scan

/-!
# Projects

A project is loaded once: its configuration is read and its source files are listed. Then the files are
extracted one after the other, in order. They could as well be extracted at the same time, see
`Project.run_schedule`. A file that cannot be used is noted and the others go on; if the file system refuses
something, the run ends.
-/

namespace MessageExtraction

open Syntax (Tree)

/-- Reads the text of a file at a path as a module, or says why it is none. -/
abbrev Parser := String → String → Except String Tree

/-- A project with its configuration and its source files. -/
structure Project where
  config : Config
  root : Path
  /-- The paths of the source files, in order. -/
  files : List String
  /-- How many paths could not be looked at. -/
  skipped : Nat
deriving DecidableEq, Repr

namespace Project

/-! ## Loading -/

/-- The path that a text stands for in a project. It is kept as it is where the root is the current
directory. -/
def resolve (root : Path) (text : String) : Path :=
  let path : Path := ⟨text⟩
  if path.isAbsolute then path
  else if root.components.all (· == .current) then path
  else root.join ((path.relativeTo? ⟨"."⟩).getD path)

/-- The configuration with the output directory given by the user, if one is, seen from the root. -/
def withOutput (root : Path) (messagesDir : Option String) (config : Config) : Config :=
  { config with
    messagesDir := (messagesDir.orElse fun _ => config.messagesDir).map fun directory =>
      (resolve root directory).text }

/-- The remark that a project has no configuration file. -/
def defaultRemark : String :=
  "Note: No " ++ Config.fileName.text ++ " found, using default configuration"

/-- The remark on what is scanned. -/
def scanRemark (files : Nat) (scanned : Path) : String :=
  "Note: scanning " ++ toString files ++ " source file(s) under " ++ scanned.text

/-- Loads the project at a root, with remarks on what is done. -/
def load (fs : FileSystem) (root : Path) (messagesDir : Option String) :
    Except Failure (Project × List String) := do
  let (config, fromFile) ← Config.load fs root
  let config := withOutput root messagesDir config
  let scanned := resolve root config.sourceRoot
  let scan := Scan.run fs scanned (.ofConfig config)
  .ok (⟨config, root, scan.files, scan.skipped⟩,
    (if fromFile then [] else [defaultRemark]) ++ scan.remarks
      ++ [scanRemark scan.files.length scanned])

end Project

/-! ## Running -/

/-- Why there is nothing extracted from a file. -/
inductive Unusable where
  /-- It is no module. -/
  | unparsed (text : String)
  /-- It has a fault. -/
  | faulty (fault : Fault)
deriving DecidableEq, Repr, Inhabited

/-- What became of a file. -/
structure Outcome where
  path : String
  source : String
  result : Except Unusable FileResult
deriving Repr

namespace Outcome

/-- Whether nothing was extracted. -/
def isFailure (outcome : Outcome) : Bool :=
  match outcome.result with
  | .ok _ => false
  | .error _ => true

/-- Whether the file is no module. -/
def isUnparsed (outcome : Outcome) : Bool :=
  match outcome.result with
  | .error (.unparsed _) => true
  | _ => false

/-- How many messages were extracted. -/
def messageCount (outcome : Outcome) : Nat :=
  match outcome.result with
  | .ok result => result.messages.length
  | .error _ => 0

/-- What there is to report about a file. -/
def issues (outcome : Outcome) : List Issue :=
  match outcome.result with
  | .ok result => result.warnings.map (.ofWarning outcome.source)
  | .error (.faulty fault) => [.ofFault outcome.source fault]
  | .error (.unparsed text) => [.unparsed outcome.path text]

end Outcome

/-- How far a run has come: the file system, the remarks, and the outcomes or what ended it. -/
structure Run where
  files : FileSystem
  remarks : List String
  outcomes : Except Failure (List Outcome)

namespace Project

/-- What is said of a file that is no module. -/
def parseText (path reason : String) : String := "Failed to parse " ++ path ++ ": " ++ reason

/-- Extracts one file, with remarks on what is done. -/
def runFile (project : Project) (parse : Parser) (fs : FileSystem) (path : String) :
    FileSystem × List String × Except Failure Outcome :=
  match fs.read ⟨path⟩ with
  | .error e => (fs, [], .error (.readFile ⟨path⟩ e))
  | .ok source =>
      match parse path source with
      | .error reason =>
          let text := parseText path reason
          (fs, ["Warning: " ++ path ++ " - " ++ text], .ok ⟨path, source, .error (.unparsed text)⟩)
      | .ok tree =>
          let (_, fs, result) := extractFile project.config fs project.root ⟨path, source⟩ tree
          match result with
          | .error (.failure failure) => (fs, [], .error failure)
          | .error (.fault fault) => (fs, [], .ok ⟨path, source, .error (.faulty fault)⟩)
          | .ok result =>
              (fs, (result.catalog.map fun catalog => "Note: wrote " ++ catalog.text).toList,
                .ok ⟨path, source, .ok result⟩)

/-- Extracts files one after the other, up to the first failure. -/
def runFiles (project : Project) (parse : Parser) (fs : FileSystem) : List String → Run
  | [] => ⟨fs, [], .ok []⟩
  | path :: paths =>
      match project.runFile parse fs path with
      | (fs, remarks, .error failure) => ⟨fs, remarks, .error failure⟩
      | (fs, remarks, .ok outcome) =>
          let rest := project.runFiles parse fs paths
          { rest with
            remarks := remarks ++ rest.remarks
            outcomes := rest.outcomes.map (outcome :: ·) }

/-- Extracts all files of a project. -/
def run (project : Project) (parse : Parser) (fs : FileSystem) : Run :=
  project.runFiles parse fs project.files

end Project

end MessageExtraction
