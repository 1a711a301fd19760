import MessageExtraction.Path.Basic

/-!
# File systems

A file system is a tree of directories and files, without links, with a working directory in it. Names of
entries are followed segment by segment: an empty segment and `.` stay, `..` goes up, and each asks for a
directory to stand in.
-/

namespace MessageExtraction

/-- What is in a file: a text, or bytes that are none. -/
inductive Content where
  | text (text : String)
  | bytes (bytes : List UInt8)
deriving DecidableEq, Repr, Inhabited

/-- An entry of a directory. -/
inductive Entry where
  | file (content : Content)
  | directory (entries : List (String × Entry))
deriving Repr, Inhabited

/-- Why the file system refuses an operation. -/
inductive FileError where
  | notFound
  | exists
  | notDirectory
  | isDirectory
  /-- The content is no text. -/
  | invalidText
deriving DecidableEq, Repr, Inhabited

/-- The wording of a refusal. -/
def FileError.text : FileError → String
  | .notFound => "No such file or directory (os error 2)"
  | .exists => "File exists (os error 17)"
  | .notDirectory => "Not a directory (os error 20)"
  | .isDirectory => "Is a directory (os error 21)"
  | .invalidText => "stream did not contain valid UTF-8"

/-- A position in a file system: names from the root on. -/
abbrev Position := List String

namespace Entry

/-- The entry of that name in a directory. -/
def child? (name : String) : Entry → Option Entry
  | .directory entries => entries.lookup name
  | .file _ => none

/-- The entry at a position. -/
def get? (entry : Entry) : Position → Option Entry
  | [] => some entry
  | name :: names => entry.child? name >>= fun child => child.get? names

/-- A list of named entries with an entry for a name: in the place of the old one, or at the end. -/
def putNamed (name : String) (new : Entry) : List (String × Entry) → List (String × Entry)
  | [] => [(name, new)]
  | (n, e) :: entries => if n = name then (n, new) :: entries else (n, e) :: putNamed name new entries

/-- Puts an entry at a position whose directory exists. -/
def put (new : Entry) : Position → Entry → Entry
  | [], _ => new
  | _ :: _, .file content => .file content
  | [name], .directory entries => .directory (putNamed name new entries)
  | name :: names, .directory entries =>
      match entries.lookup name with
      | some child => .directory (putNamed name (put new names child) entries)
      | none => .directory entries

/-- Whether an entry is a directory. -/
def isDirectory : Entry → Bool
  | .directory _ => true
  | .file _ => false

mutual
/-- The files below an entry, with their positions from it. -/
def files : Entry → List (Position × Content)
  | .file content => [([], content)]
  | .directory entries => filesOf entries

/-- The files in and below named entries. -/
def filesOf : List (String × Entry) → List (Position × Content)
  | [] => []
  | (name, entry) :: entries =>
      (entry.files.map fun (position, content) => (name :: position, content)) ++ filesOf entries
end

end Entry

/-- A file system and its working directory. -/
structure FileSystem where
  root : Entry
  working : Position := []
deriving Repr, Inhabited

namespace FileSystem

/-- The entry at a position. -/
def get? (fs : FileSystem) (position : Position) : Option Entry := fs.root.get? position

/-! ## Following paths -/

/-- The position that segments lead to. -/
def follow (fs : FileSystem) (position : Position) : List String → Except FileError Position
  | [] => .ok position
  | segment :: segments =>
      match fs.get? position with
      | some (.directory entries) =>
          if segment = "" ∨ segment = "." then fs.follow position segments
          else if segment = ".." then fs.follow position.dropLast segments
          else if (entries.lookup segment).isSome then fs.follow (position ++ [segment]) segments
          else .error .notFound
      | some (.file _) => .error .notDirectory
      | none => .error .notFound

/-- Where following a path starts. -/
def start (fs : FileSystem) (path : Path) : Position :=
  if path.isAbsolute then [] else fs.working

/-- The segments of a path. -/
def segments (path : Path) : List String := (Text.splitOn '/' path.text.toList).map String.ofList

/-- The position of the entry that a path names. -/
def locate (fs : FileSystem) (path : Path) : Except FileError Position :=
  if path.text = "" then .error .notFound else fs.follow (fs.start path) (segments path)

/-- The entry that a path names. -/
def entry? (fs : FileSystem) (path : Path) : Option Entry :=
  match fs.locate path with
  | .ok position => fs.get? position
  | .error _ => none

/-- Whether a path names an entry. -/
def exists? (fs : FileSystem) (path : Path) : Bool := (fs.entry? path).isSome

/-- Whether a path names a directory. -/
def isDirectory (fs : FileSystem) (path : Path) : Bool :=
  match fs.entry? path with
  | some entry => entry.isDirectory
  | none => false

/-- The text of the file that a path names. -/
def read (fs : FileSystem) (path : Path) : Except FileError String := do
  match fs.get? (← fs.locate path) with
  | some (.file (.text text)) => .ok text
  | some (.file (.bytes _)) => .error .invalidText
  | some (.directory _) => .error .isDirectory
  | none => .error .notFound

/-! ## Changes -/

/-- Puts an entry at a position. -/
def put (fs : FileSystem) (position : Position) (entry : Entry) : FileSystem :=
  { fs with root := Entry.put entry position fs.root }

/-- Whether a segment names an entry of the directory before it. -/
def isName (segment : String) : Bool := segment != "" && segment != "." && segment != ".."

/-- Writes to the file that a path names, made anew if there is none. -/
def write (fs : FileSystem) (path : Path) (content : Content) : Except FileError FileSystem := do
  if path.text = "" then .error .notFound
  else
    let directory ← fs.follow (fs.start path) (segments path).dropLast
    let name := (segments path).getLast?.getD ""
    if isName name then
      match fs.get? directory with
      | some (.directory entries) =>
          match entries.lookup name with
          | some (.directory _) => .error .isDirectory
          | _ => .ok (fs.put (directory ++ [name]) (.file content))
      | some (.file _) => .error .notDirectory
      | none => .error .notFound
    else .error .isDirectory

/-- Makes the directory that a path names; the directory that it is to lie in must exist. -/
def makeDirectory (fs : FileSystem) (path : Path) : Except FileError FileSystem := do
  match ((segments path).reverse.dropWhile (· = "")) with
  | [] => if path.text = "" then .error .notFound else .error .exists
  | name :: before =>
      let directory ← fs.follow (fs.start path) before.reverse
      match fs.get? directory with
      | some (.directory entries) =>
          if !isName name || (entries.lookup name).isSome then .error .exists
          else .ok (fs.put (directory ++ [name]) (.directory []))
      | some (.file _) => .error .notDirectory
      | none => .error .notFound

/-- Makes the directory that a path names unless it exists. -/
def ensureDirectory (fs : FileSystem) (path : Path) : FileSystem × Option FileError :=
  match fs.makeDirectory path with
  | .ok fs => (fs, none)
  | .error e => (fs, if e = .exists ∧ fs.isDirectory path then none else some e)

/-- Makes the first of the given directories, each of which lies in the next, and those of the others that
are missing. An error comes with what has been made before it. -/
def makeAll (fs : FileSystem) : List Path → FileSystem × Option FileError
  | [] => (fs, none)
  | path :: paths =>
      if path.parent?.isNone then (fs, none)
      else
        match fs.ensureDirectory path with
        | (_, some .notFound) =>
            match fs.makeAll paths with
            | (fs, none) => fs.ensureDirectory path
            | failed => failed
        | result => result

/-- Makes the directory that a path names, with the directories that it lies in. -/
def makeDirectories (fs : FileSystem) (path : Path) : FileSystem × Option FileError :=
  fs.makeAll path.ancestors

end FileSystem

end MessageExtraction
