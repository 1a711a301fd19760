import MessageExtraction.FileSystem.Basic
import MessageExtraction.Glob.Pattern

/-!
# Files that fit a pattern

The entries of a file system whose paths fit a pattern, component by component. Here a wildcard stays within
its component, and only `**` goes through any number of directories. A component without wildcards is
followed as it stands.
-/

namespace MessageExtraction.Glob

/-- The component that a pattern without wildcards stands for. -/
def literal? : Pattern → Option (List Char)
  | [] => some []
  | .char c :: tokens => (literal? tokens).map (c :: ·)
  | _ :: _ => none

/-- Whether a pattern goes through any number of directories. -/
def isRecursive (pattern : Pattern) : Bool := pattern.contains .anyComponents

/-- The path of an entry of a directory; entries of the current directory go without it. -/
def childPath (path : Path) (name : String) : Path :=
  if path.components = [.current] then ⟨name⟩ else path.join ⟨name⟩

mutual
/-- What `visit` finds at the entries below an entry, at any depth. -/
def below (visit : Path → String → Entry → List Path) (path : Path) : Entry → List Path
  | .file _ => []
  | .directory entries => belowAll visit path entries

/-- What `visit` finds at named entries of a directory and below them. -/
def belowAll (visit : Path → String → Entry → List Path) (path : Path) :
    List (String × Entry) → List Path
  | [] => []
  | (name, entry) :: entries =>
      visit (childPath path name) name entry
        ++ below visit (childPath path name) entry
        ++ belowAll visit path entries
end

/-- The special entries of each directory that a component with wildcards may stand for: those that lead
back, if the component starts with a point. -/
def specialNames : Pattern → List String
  | .char '.' :: tokens =>
      [".", ".."].filter fun name => covers (.char '.' :: tokens) name.toList
  | _ => []

mutual
/-- The paths from a path on that fit the components of a pattern. With `directories` only directories
fit. -/
def expand (fs : FileSystem) (directories : Bool) : List Pattern → Path → Entry → List Path
  | [], path, entry => if directories && !entry.isDirectory then [] else [path]
  | pattern :: patterns, path, entry =>
      match literal? pattern with
      | some name =>
          let name := String.ofList name
          let next := childPath path name
          let special := name = "." ∨ name = ".."
          if special ∧ !entry.isDirectory then []
          else
            match fs.entry? next with
            | some entry => expand fs directories patterns next entry
            | none => []
      | none =>
          match entry with
          | .file _ => []
          | .directory entries =>
              if isRecursive pattern then
                below (expandBelow fs directories patterns) path (.directory entries)
              else
                (entries.flatMap fun (name, entry) =>
                  if covers pattern name.toList then
                    expand fs directories patterns (childPath path name) entry
                  else [])
                ++ (specialNames pattern).flatMap fun name =>
                  match fs.entry? (path.join ⟨name⟩) with
                  | some entry => expand fs directories patterns (path.join ⟨name⟩) entry
                  | none => []

/-- The paths from an entry on that fit the components behind one that goes through directories. -/
def expandBelow (fs : FileSystem) (directories : Bool) :
    List Pattern → Path → String → Entry → List Path
  | [], path, _, entry => if entry.isDirectory then [path] else []
  | pattern :: patterns, path, name, entry =>
      if covers pattern name.toList then expand fs directories patterns path entry else []
end

/-- Components without those that go through directories right behind another such. -/
def collapse : List Pattern → List Pattern
  | p :: q :: patterns =>
      if isRecursive p && isRecursive q then collapse (q :: patterns) else p :: collapse (q :: patterns)
  | patterns => patterns

/-- The pieces between slashes, without an empty one at the end. -/
def pieces (text : List Char) : List (List Char) :=
  let pieces := Text.splitOn '/' text
  if pieces.getLast? = some [] then pieces.dropLast else pieces

/-- The paths that fit a pattern. -/
def expandAll (fs : FileSystem) (text : String) : Except PatternError (List Path) := do
  let _ ← parse text
  let start : Path := if (Path.mk text).isAbsolute then ⟨"/"⟩ else ⟨"."⟩
  let relative := if (Path.mk text).isAbsolute then text.toList.drop 1 else text.toList
  let patterns ← (pieces relative).mapM fun piece => parse (String.ofList piece)
  match fs.entry? start with
  | some entry =>
      .ok (expand fs (text.toList.getLast? = some '/') (collapse patterns) start entry)
  | none => .ok []

end MessageExtraction.Glob
