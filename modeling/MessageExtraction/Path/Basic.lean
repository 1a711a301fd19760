import MessageExtraction.Text.Lines

/-!
# Paths

A path is a text whose slashes separate segments. What it means are its components: repeated and trailing
slashes and inner `.` segments do not count, `..` is kept. Operations that give a part of a path keep the
text of that part as it was written, without insignificant segments at its cut ends.
-/

namespace MessageExtraction

/-- A path as it is written. -/
structure Path where
  text : String
deriving DecidableEq, Repr, Inhabited

namespace Path

/-- A component of a path. -/
inductive Component where
  /-- The root at the front of an absolute path. -/
  | root
  /-- The current directory, only at the front. -/
  | current
  /-- The parent directory. -/
  | parent
  /-- A name. -/
  | name (text : String)
deriving DecidableEq, Repr, Inhabited

/-- The front of a path. -/
inductive Front where
  | root
  | current
  | none
deriving DecidableEq, Repr

/-- A segment that counts for nothing behind the front of a path. -/
def isInsignificant (segment : List Char) : Bool := segment.isEmpty || segment == ['.']

/-- The front of a path and the segments behind it. -/
def split (p : Path) : Front × List (List Char) :=
  match p.text.toList with
  | '/' :: r => (.root, Text.splitOn '/' r)
  | ['.'] => (.current, [])
  | '.' :: '/' :: r => (.current, Text.splitOn '/' r)
  | s => (.none, Text.splitOn '/' s)

/-- The path with that front and those segments. -/
def unsplit : Front → List (List Char) → Path
  | .root, segments => ⟨String.ofList ('/' :: Text.joinWith '/' segments)⟩
  | .current, [] => ⟨"."⟩
  | .current, segment :: segments =>
      ⟨String.ofList ('.' :: '/' :: Text.joinWith '/' (segment :: segments))⟩
  | .none, segments => ⟨String.ofList (Text.joinWith '/' segments)⟩

/-- The segments without the insignificant ones at their end. -/
def trimEnd (segments : List (List Char)) : List (List Char) :=
  (segments.reverse.dropWhile isInsignificant).reverse

/-- The component of a front. -/
def Front.component? : Front → Option Component
  | .root => some .root
  | .current => some .current
  | .none => Option.none

/-- The component of a segment. -/
def component? (segment : List Char) : Option Component :=
  if isInsignificant segment then none
  else if segment = ['.', '.'] then some .parent
  else some (.name (String.ofList segment))

/-- The components of a path. -/
def components (p : Path) : List Component :=
  let (front, segments) := p.split
  front.component?.toList ++ segments.filterMap component?

/-- Whether a path starts at the root. -/
def isAbsolute (p : Path) : Bool := p.text.toList.head? == some '/'

/-- The path of `q` seen from `p`: `q` itself if it is absolute, else the two texts with one slash between
them where `p` is not empty and does not end in one. -/
def join (p q : Path) : Path :=
  if q.isAbsolute then q
  else if p.text = "" ∨ p.text.toList.getLast? = some '/' then ⟨p.text ++ q.text⟩
  else ⟨p.text ++ "/" ++ q.text⟩

/-- The path of the directory that holds `p`; none for the root and for the empty path. -/
def parent? (p : Path) : Option Path :=
  let (front, segments) := p.split
  match front, trimEnd segments with
  | .root, [] => none
  | .none, [] => none
  | .current, [] => some ⟨""⟩
  | front, segments => some (unsplit front (trimEnd segments.dropLast))

/-- A path and at most `n` directories that hold it, from the nearest on. -/
def ancestorsWithin : Nat → Path → List Path
  | 0, path => [path]
  | n + 1, path =>
      match path.parent? with
      | some parent => path :: ancestorsWithin n parent
      | none => [path]

/-- A path and the directories that hold it, from the nearest on. -/
def ancestors (path : Path) : List Path := ancestorsWithin path.components.length path

/-- Whether the components of `p` start with those of `base`. -/
def startsWith (p base : Path) : Bool := base.components.isPrefixOf p.components

/-- The segments behind the first `n` significant ones. -/
def dropSegments : Nat → List (List Char) → List (List Char)
  | 0, segments => segments.dropWhile isInsignificant
  | _ + 1, [] => []
  | n + 1, segment :: segments =>
      dropSegments (if isInsignificant segment then n + 1 else n) segments

/-- The path of `p` seen from `base`, if the components of `p` start with those of `base`. -/
def relativeTo? (p base : Path) : Option Path :=
  if p.startsWith base then
    let (front, segments) := p.split
    match front.component?, base.components.length with
    | _, 0 => some (unsplit front (trimEnd segments))
    | some _, n + 1 => some (unsplit .none (trimEnd (dropSegments n segments)))
    | none, n => some (unsplit .none (trimEnd (dropSegments n segments)))
  else none

/-- The name at the end of a path, if it ends in one. -/
def fileName? (p : Path) : Option String :=
  match p.components.getLast? with
  | some (.name text) => some text
  | _ => none

/-- The part of a file name before its last point, and the part behind it. A name without a point, or with
its only point in front, has no second part. -/
def splitName (name : String) : String × Option String :=
  let (behind, before) := name.toList.reverse.span (· != '.')
  match before with
  | [] => (name, none)
  | ['.'] => (name, none)
  | _ :: stem => (String.ofList stem.reverse, some (String.ofList behind.reverse))

/-- The file name without its extension. -/
def fileStem? (p : Path) : Option String := p.fileName?.map fun name => (splitName name).1

/-- The extension of the file name. -/
def extension? (p : Path) : Option String := p.fileName?.bind fun name => (splitName name).2

end Path

end MessageExtraction
