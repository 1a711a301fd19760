import MessageExtraction.Command.Run
import MessageExtraction.Project.StoredTree

/-!
# The program

Takes a picture of the files that a command line is about, carries the command line out on it, and then
brings the disk and the user up to date.
-/

namespace MessageExtraction

/-- Whether what is in a file can matter: it can in sources and in JSON files. -/
def isRead (path : Path) : Bool := Scan.isSourcePath path || path.extension? == some "json"

/-- What is in a file of the disk, as far as it can matter. -/
def contentAt (path : String) : IO Content := do
  if isRead ⟨path⟩ then
    let bytes ← IO.FS.readBinFile path
    match String.fromUTF8? bytes with
    | some text => return .text text
    | none => return .bytes bytes.toList
  else return .text ""

/-- A file system with what is at a path of the disk. -/
def withDisk (fs : FileSystem) (path : String) : IO FileSystem := do
  let location ← IO.FS.realPath path
  let mut fs := (fs.makeDirectories ⟨location.toString⟩).1
  for entry in ← location.walkDir do
    if ← entry.isDir then
      fs := (fs.makeDirectories ⟨entry.toString⟩).1
    else
      let content ← contentAt entry.toString
      match fs.write ⟨entry.toString⟩ content with
      | .ok changed => fs := changed
      | .error _ => pure ()
  return fs

/-- The files of the disk below the working directory and below a root. -/
def diskAround (root : Path) : IO FileSystem := do
  let here ← IO.FS.realPath "."
  let working := (FileSystem.segments ⟨here.toString⟩).filter (· ≠ "")
  let fs ← withDisk ⟨.directory [], working⟩ "."
  if fs.exists? root then return fs
  else
    try withDisk fs root.text
    catch _ => return fs

/-- Brings the disk to the state of a file system that has come from another. -/
def writeChanges (before after : FileSystem) : IO Unit := do
  let old := before.root.files
  for (position, content) in after.root.files do
    match content with
    | .text text =>
        unless old.lookup position = some content do
          let directory := "/" ++ String.intercalate "/" position.dropLast
          IO.FS.createDirAll directory
          IO.FS.writeFile ("/" ++ String.intercalate "/" position) text
    | .bytes _ => pure ()

/-- The root of the project that an invocation is about. -/
def Command.Invocation.root : Command.Invocation → Path
  | .help => ⟨"."⟩
  | .extract options | .init options => options.root

/-- Carries a command line out on the disk. -/
def perform (invocation : Command.Invocation) : IO UInt32 := do
  let before ← diskAround invocation.root
  let result := Command.execute invocation (Project.storedTree before) before
  writeChanges before result.files
  for line in result.output do IO.println line
  for line in result.errors do IO.eprintln line
  match result.failure with
  | some failure =>
      IO.eprintln ("Error: " ++ String.intercalate ": " (failure.text :: failure.reason?.toList))
  | none => pure ()
  return UInt32.ofNat result.status.code

/-- Carries out the command line of the program. Help is given on request; a line that is refused is an
error. -/
def carryOut (words : List String) : IO UInt32 := do
  match Command.read words with
  | .ok invocation => perform invocation
  | .error .displayHelp | .error .displayVersion =>
      for line in Command.help do IO.println line
      return 0
  | .error _ =>
      for line in Command.help do IO.eprintln line
      return UInt32.ofNat Command.Status.error.code

end MessageExtraction

/-- The entry of the program. -/
def main (words : List String) : IO UInt32 := MessageExtraction.carryOut words
