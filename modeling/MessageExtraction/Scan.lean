import MessageExtraction.Config.Basic
import MessageExtraction.Glob.Walk

/-!
# Scanning a project

The source files of a project: those with a name of a source file in and below the included directories,
but for what the rules ignore. What is in an ignored directory is not looked at.
-/

namespace MessageExtraction.Scan

/-- Names of files that hold tests. -/
def testPatterns : List String :=
  ["**/*.test.tsx", "**/*.test.ts", "**/*.test.jsx", "**/*.test.js", "**/*.spec.tsx",
    "**/*.spec.ts", "**/*.spec.jsx", "**/*.spec.js", "**/__tests__/**"]

/-- What is to be scanned. -/
structure Options where
  includes : List String := []
  ignores : List String := []
  ignoreTestFiles : Bool := false
deriving DecidableEq, Repr, Inhabited

/-- The scan that a configuration asks for. -/
def Options.ofConfig (config : Config) : Options :=
  ⟨config.includes, config.ignores, config.ignoreTestFiles⟩

/-- What is found by a scan. -/
structure Result where
  /-- The paths of the source files in order, each once. -/
  files : List String
  /-- How many paths could not be looked at. -/
  skipped : Nat
  /-- Remarks for the user, in order. -/
  remarks : List String
deriving DecidableEq, Repr, Inhabited

/-! ## Rules -/

/-- What is ignored: paths with all that is below them, and what fits a pattern. -/
structure Rules where
  paths : List Path := []
  patterns : List Glob.Pattern := []
deriving DecidableEq, Repr

/-- A remark for the user. -/
def remark (text : String) : String := "warning: " ++ text

/-- The rules of texts to ignore, with a remark on each pattern that is refused. -/
def Rules.ofIgnores (base : Path) : List String → Rules × List String
  | [] => ({}, [])
  | ignore :: ignores =>
      let (rules, remarks) := ofIgnores base ignores
      if Glob.isPattern ignore then
        match Glob.parse ignore with
        | .ok pattern => ({ rules with patterns := pattern :: rules.patterns }, remarks)
        | .error e =>
            (rules, remark ("Invalid ignore pattern '" ++ ignore ++ "': " ++ e.text) :: remarks)
      else ({ rules with paths := base.join ⟨ignore⟩ :: rules.paths }, remarks)

/-- Patterns that are not refused. -/
def readPatterns (texts : List String) : List Glob.Pattern :=
  texts.filterMap fun text => (Glob.parse text).toOption

/-- The rules of a scan, with its remarks on them. -/
def Rules.ofOptions (base : Path) (options : Options) : Rules × List String :=
  let (rules, remarks) := ofIgnores base options.ignores
  let tests := if options.ignoreTestFiles then readPatterns testPatterns else []
  ({ rules with patterns := rules.patterns ++ tests }, remarks)

/-- Whether a path is ignored. -/
def Rules.ignores (rules : Rules) (path : Path) : Bool :=
  rules.paths.any path.startsWith
    || rules.patterns.any fun pattern => Glob.covers pattern path.text.toList

/-! ## Files -/

/-- Whether a path has the name of a source file. Files of declarations only are none. -/
def isSourcePath (path : Path) : Bool :=
  match path.fileName? with
  | none => false
  | some name =>
      !(".d.ts".toList.isSuffixOf name.toList)
        && ["tsx", "ts", "jsx", "js"].any fun extension => path.extension? == some extension

mutual
/-- The source files in and below an entry, but for what is ignored. -/
def sources (rules : Rules) (path : Path) : Entry → List Path
  | .file _ => if !rules.ignores path && isSourcePath path then [path] else []
  | .directory entries => if rules.ignores path then [] else sourcesOf rules path entries

/-- The source files in and below named entries of a directory. -/
def sourcesOf (rules : Rules) (path : Path) : List (String × Entry) → List Path
  | [] => []
  | (name, entry) :: entries =>
      sources rules (path.join ⟨name⟩) entry ++ sourcesOf rules path entries
end

/-! ## Scanning -/

/-- The paths that an included text stands for, with a remark if there are none for a reason. -/
def rootsOf (fs : FileSystem) (base : Path) (text : String) : List Path × List String :=
  let path := base.join ⟨text⟩
  if Glob.isPattern text then
    match Glob.expandAll fs path.text with
    | .ok paths => (paths.filter fs.isDirectory, [])
    | .error e => ([], [remark ("Invalid glob pattern '" ++ text ++ "': " ++ e.text)])
  else if fs.exists? path then ([path], [])
  else ([], [remark ("Include path does not exist: " ++ path.text)])

/-- The paths at which a scan starts, with its remarks on them. -/
def roots (fs : FileSystem) (base : Path) (options : Options) : List Path × List String :=
  if options.includes.isEmpty then ([base], [])
  else
    let found := options.includes.map (rootsOf fs base)
    (found.flatMap Prod.fst, found.flatMap Prod.snd)

/-- The texts in order, each once. -/
def sorted (texts : List String) : List String :=
  (texts.mergeSort fun s t => decide (s ≤ t)).eraseReps

/-- The remark on a path that cannot be looked at. -/
def inaccessible (path : Path) (e : FileError) : String :=
  remark ("Cannot access path: IO error for operation on " ++ path.text ++ ": " ++ e.text)

/-- The source files at and below a path, or why it cannot be looked at. -/
def sourcesAt (fs : FileSystem) (rules : Rules) (path : Path) : Except FileError (List Path) := do
  match fs.get? (← fs.locate path) with
  | some entry => .ok (sources rules path entry)
  | none => .error .notFound

/-- Scans from a base directory. -/
def run (fs : FileSystem) (base : Path) (options : Options) : Result :=
  let (rules, ruleRemarks) := Rules.ofOptions base options
  let (roots, rootRemarks) := roots fs base options
  let found := roots.map fun root => (root, sourcesAt fs rules root)
  let errors := found.filterMap fun
    | (root, .error e) => some (inaccessible root e)
    | _ => none
  let files := found.flatMap fun
    | (_, .ok paths) => paths.map Path.text
    | _ => []
  ⟨sorted files, errors.length, ruleRemarks ++ rootRemarks ++ errors⟩

end MessageExtraction.Scan
