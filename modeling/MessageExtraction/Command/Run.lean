import MessageExtraction.Command.Arguments
import MessageExtraction.Project.Basic
import MessageExtraction.Report.Text

/-!
# Carrying out commands

What the commands do and say. The report goes to the output, remarks on the way to the error output.
-/

namespace MessageExtraction.Command

/-- How a command ended. -/
inductive Status where
  | success
  /-- A file had a fault or was no module, or there was nothing to do. -/
  | failure
  /-- The command itself could not be carried out. -/
  | error
deriving DecidableEq, Repr, Inhabited

/-- The exit code of a status. -/
def Status.code : Status → Nat
  | .success => 0
  | .failure => 1
  | .error => 2

/-- What a command did. -/
structure Result where
  files : FileSystem
  status : Status
  /-- Why the command could not be carried out. -/
  failure : Option Failure := none
  /-- The lines of the output. -/
  output : List String := []
  /-- The lines of the error output. -/
  errors : List String := []

/-- The root of the project that options name. -/
def Options.root (options : Options) : Path := ⟨options.sourceRoot.getD "."⟩

/-- The status after some files failed. -/
def statusAfter (failed : Nat) : Status := if failed = 0 then .success else .failure

/-- How many messages were extracted from all files. -/
def totalMessages (outcomes : List Outcome) : Nat :=
  outcomes.foldr (fun outcome n => outcome.messageCount + n) 0

/-- What is said to the output after a run. -/
def reportLines (outcomes : List Outcome) : List String :=
  Report.lines (outcomes.flatMap Outcome.issues)
    ++ if outcomes.any Outcome.isFailure then []
      else [Report.extracted (totalMessages outcomes) outcomes.length]

/-- What is said to the error output after a run without remarks. -/
def hiddenLines (outcomes : List Outcome) : List String :=
  let unparsed := outcomes.countP Outcome.isUnparsed
  if unparsed = 0 then [] else [Report.unparsed unparsed]

/-- Extracts the messages of a project. -/
def extract (options : Options) (parse : Parser) (fs : FileSystem) : Result :=
  match Project.load fs options.root options.messagesDir with
  | .error failure => { files := fs, status := .error, failure := some failure }
  | .ok (project, remarks) =>
      let run := project.run parse fs
      let remarks := if options.verbose then remarks ++ run.remarks else []
      match run.outcomes with
      | .error failure =>
          { files := run.files, status := .error, failure := some failure, errors := remarks }
      | .ok outcomes =>
          { files := run.files
            status := statusAfter (outcomes.countP Outcome.isFailure)
            output := reportLines outcomes
            errors := remarks ++ if options.verbose then [] else hiddenLines outcomes }

/-- Writes a configuration file for a new project. -/
def init (options : Options) (fs : FileSystem) : Result :=
  let path := options.root.join Config.fileName
  if fs.exists? path then
    { files := fs, status := .failure, errors := ["Error: " ++ path.text ++ " already exists"] }
  else
    match fs.write path (.text (Config.text { messagesDir := options.messagesDir })) with
    | .error e => { files := fs, status := .error, failure := some (.writeConfig path e) }
    | .ok fs =>
        { files := fs
          status := .success
          output := [Report.successMark ++ " Created " ++ Config.fileName.text] }

/-- The help that is shown when no command is given. -/
def help : List String :=
  ["Extract message descriptors and write a catalog for each source file",
    "",
    "Usage: [COMMAND]",
    "",
    "Commands:",
    "  extract  Extract message descriptors and write per-file catalogs",
    "             --source-root <DIR>   Project root",
    "             --messages-dir <DIR>  Catalog output directory",
    "             -v, --verbose         Remarks on what is done",
    "  init     Write a configuration file",
    "             --source-root <DIR>   Directory of the file",
    "             --messages-dir <DIR>  Catalog output directory to enter into it",
    "",
    "The syntax tree of a source file FILE is read from FILE.tree.json."]

/-- Carries out what a command line asks for. -/
def execute (invocation : Invocation) (parse : Parser) (fs : FileSystem) : Result :=
  match invocation with
  | .help => { files := fs, status := .success, output := help }
  | .extract options => extract options parse fs
  | .init options => init options fs

end MessageExtraction.Command
