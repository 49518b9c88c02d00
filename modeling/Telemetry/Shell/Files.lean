import Telemetry.Disk
import Telemetry.Setting.Layer
import Std.Async.System

/-!
# Files and variables

What the programs see of the machine's files is a `Disk` with what is found at the paths that concern
them. What they change on it is carried over to the machine: a file that is replaced is written beside its
place and then renamed.
-/

namespace Telemetry.Shell

/-- The variables of the environment. -/
def environment : IO Environment := do
  let env ← Std.Async.System.getEnv
  return env.get?

/-- The number and the wording of a failure, if it has any. -/
def reasonOf : IO.Error → Option (UInt32 × String)
  | .alreadyExists _ number wording | .otherError number wording | .resourceBusy number wording
  | .resourceVanished number wording | .unsupportedOperation number wording
  | .hardwareFault number wording | .unsatisfiedConstraints number wording
  | .illegalOperation number wording | .protocolError number wording | .timeExpired number wording
  | .interrupted _ number wording | .noFileOrDirectory _ number wording
  | .invalidArgument _ number wording | .permissionDenied _ number wording
  | .resourceExhausted _ number wording | .inappropriateType _ number wording
  | .noSuchThing _ number wording => some (number, wording)
  | .unexpectedEof | .userError _ => none

/-- A failure of the machine. Its number may be negated. -/
def failureOf (cause : IO.Error) : IoError :=
  match reasonOf cause with
  | some (number, wording) => IoError.ofNumber (min number (0 - number)).toNat wording
  | none => .other (toString cause)

/-- The text of a file, or nothing at all if it cannot be read. -/
def textAt (path : String) : IO String := do
  try IO.FS.readFile path
  catch _ => return ""

/-- What is found at a path. -/
def nodeAt (path : String) : IO (Option Node) := do
  try
    return some (.file (← IO.FS.readBinFile path).toList)
  catch cause =>
    match failureOf cause with
    | .notFound | .notADirectory => return none
    | .isADirectory => return some .directory
    | _ => throw cause

/-- A disk with what is found at the given paths, and at those that lead to them. -/
def diskOf (paths : List String) : IO Disk :=
  (paths.flatMap fun path => Disk.ancestors path ++ [path]).foldlM
    (fun disk path => do
      match ← nodeAt path with
      | some node => return disk.put path node
      | none => return disk)
    Disk.empty

/-- Carries a file over to the machine, if it has changed. -/
def carryOver (before after : Disk) (path : String) : IO Unit := do
  match after.nodes.get? path with
  | some (.file content) =>
    if before.nodes.get? path != some (.file content) then
      IO.FS.writeBinFile (Disk.sibling path) content.toByteArray
      IO.FS.rename (Disk.sibling path) path
  | _ => return

end Telemetry.Shell
