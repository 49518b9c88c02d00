import Telemetry.Store.Roster
import Telemetry.Text.Bytes

/-!
# Disks

A disk maps paths to files and directories. Paths are told apart by their text. A path leads through the
directories above it; a file in the place of one of them, or nothing at all, makes every use of the path
fail. The current directory, above a path without a slash, always exists.

`replace` writes a file by way of a sibling: whatever reads the path meanwhile finds the old content or
the new one, and a replacement that fails leaves the old one.
-/

namespace Telemetry

/-- Why the use of a file or of a connection failed. -/
inductive IoError
  | notFound
  | notADirectory
  | isADirectory
  | invalidText
  | connectionAborted
  | connectionReset
  | connectionRefused
  | tooManyOpenFiles
  | other (message : String)
  deriving DecidableEq, Repr

/-- The wording of a failure. -/
def IoError.message : IoError → String
  | notFound => "No such file or directory (os error 2)"
  | notADirectory => "Not a directory (os error 20)"
  | isADirectory => "Is a directory (os error 21)"
  | invalidText => "stream did not contain valid UTF-8"
  | connectionAborted => "Software caused connection abort (os error 103)"
  | connectionReset => "Connection reset by peer (os error 104)"
  | connectionRefused => "Connection refused (os error 111)"
  | tooManyOpenFiles => "Too many open files (os error 24)"
  | other message => message

/-- The failures of accepting a connection by their names. -/
def IoError.ofName? (name : String) : Option IoError :=
  [("ECONNABORTED", connectionAborted), ("ECONNRESET", connectionReset),
    ("ECONNREFUSED", connectionRefused), ("EMFILE", tooManyOpenFiles)].lookup name

/-- The failure with the given number, which the operating system words in lower case. -/
def IoError.ofNumber (number : Nat) (wording : String) : IoError :=
  match number with
  | 2 => notFound
  | 20 => notADirectory
  | 21 => isADirectory
  | 24 => tooManyOpenFiles
  | 103 => connectionAborted
  | 104 => connectionReset
  | 111 => connectionRefused
  | _ => other (wording.capitalize ++ " (os error " ++ toString number ++ ")")

/-- What is found at a path. -/
inductive Node
  | file (content : Bytes)
  | directory
  deriving DecidableEq, Repr

/-- Files and directories by path. -/
structure Disk where
  nodes : Roster Node
  deriving Inhabited

namespace Disk

/-- The disk with nothing on it. -/
def empty : Disk := ⟨Roster.empty⟩

/-- The directories that a path leads through, outermost first. -/
def ancestorsOnto (read : List Char) : List Char → List String
  | [] => []
  | character :: rest =>
    if character = '/' ∧ read ≠ [] then
      String.ofList read.reverse :: ancestorsOnto (character :: read) rest
    else
      ancestorsOnto (character :: read) rest

/-- The directories that a path leads through, outermost first. -/
def ancestors (path : String) : List String :=
  ancestorsOnto [] path.toList

/-- Checks that all of `directories` are directories. -/
def checkDirectories (disk : Disk) : List String → Except IoError Unit
  | [] => .ok ()
  | directory :: rest =>
    match disk.nodes.get? directory with
    | some .directory => disk.checkDirectories rest
    | some (.file _) => .error .notADirectory
    | none => .error .notFound

/-- Checks that something may be at a path. -/
def checkPath (disk : Disk) (path : String) : Except IoError Unit :=
  if path = "" then .error .notFound else disk.checkDirectories (ancestors path)

/-- The content of the file at a path. -/
def read (disk : Disk) (path : String) : Except IoError Bytes :=
  match disk.checkPath path, disk.nodes.get? path with
  | .error cause, _ => .error cause
  | .ok _, some (.file content) => .ok content
  | .ok _, some .directory => .error .isADirectory
  | .ok _, none => .error .notFound

/-- The text of the file at a path. -/
def readText (disk : Disk) (path : String) : Except IoError String :=
  match disk.read path with
  | .error cause => .error cause
  | .ok content =>
    match Text.text? content with
    | some text => .ok text
    | none => .error .invalidText

/-- The disk with something at a path, in place of what was there. -/
def put (disk : Disk) (path : String) (node : Node) : Disk :=
  ⟨disk.nodes.insert path node⟩

/-- The disk without what was at a path. -/
def remove (disk : Disk) (path : String) : Disk :=
  ⟨disk.nodes.erase path⟩

/-- Makes a file with the given content, in place of the file that was there. -/
def write (disk : Disk) (path : String) (content : Bytes) : Except IoError Disk :=
  match disk.checkPath path, disk.nodes.get? path with
  | .error cause, _ => .error cause
  | .ok _, some .directory => .error .isADirectory
  | .ok _, _ => .ok (disk.put path (.file content))

/-- Gives a file another path, in place of the file that was there. -/
def rename (disk : Disk) (source target : String) : Except IoError Disk :=
  match disk.read source, disk.checkPath target, disk.nodes.get? target with
  | .error cause, _, _ => .error cause
  | _, .error cause, _ => .error cause
  | .ok _, .ok _, some .directory => .error .isADirectory
  | .ok content, .ok _, _ => .ok ((disk.remove source).put target (.file content))

/-- The sibling that takes a new content before it gets its path. -/
def sibling (path : String) : String :=
  path ++ ".tmp"

/-- Gives a file a new content by writing a sibling and renaming it. The disk that is left holds the
sibling when only the renaming failed. -/
def replace (disk : Disk) (path : String) (content : Bytes) : Except IoError Unit × Disk :=
  match disk.write (sibling path) content with
  | .error cause => (.error cause, disk)
  | .ok written =>
    match written.rename (sibling path) path with
    | .error cause => (.error cause, written)
    | .ok renamed => (.ok (), renamed)

end Disk

end Telemetry
