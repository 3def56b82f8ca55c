import BuildDescriptor.CommandLine.Run

/-!
# The program

The files that the arguments name are read first, and the command runs on what was found. This is
the only module that reads files or prints; all decisions are those of `CommandLine.run`.
-/

namespace BuildDescriptor

/-- Why the system does not look a path up. It refuses a path as an argument only if it is too
long. -/
def problemOf : IO.Error → FileProblem
  | .permissionDenied _ _ _ => .denied
  | .inappropriateType _ _ _ => .notDirectory
  | .invalidArgument _ _ _ => .nameTooLong
  | _ => .missing

/-- What is at a path that may not be read. There is nothing to be seen unless the path can be
followed to its end, and only from a directory it leads on. -/
def lookLocked (path : Path) : IO (Except FileProblem Entry) := do
  match ← (IO.FS.realPath path.toString).toBaseIO with
  | .error _ => return .error .denied
  | .ok _ =>
    match ← (IO.FS.readBinFile (path.toString ++ "/.")).toBaseIO with
    | .error (.permissionDenied _ _ _) => return .ok .lockedDirectory
    | _ => return .ok .lockedFile

/-- What is at a path. What can be read counts as a file. -/
def look (path : Path) : IO (Except FileProblem Entry) := do
  match ← (IO.FS.readBinFile path.toString).toBaseIO with
  | .ok content => return .ok (.file content)
  | .error (.inappropriateType _ 21 _) => return .ok .directory
  | .error (.permissionDenied _ _ _) => lookLocked path
  | .error e => return .error (problemOf e)

/-- The files that a request reads. -/
def CommandLine.Request.paths : CommandLine.Request → List Path
  | .help => []
  | .import descriptor _ target =>
    Path.ofString descriptor :: (target.platformFile.map Path.ofString).toList
  | .platforms target => (target.platformFile.map Path.ofString).toList

/-- The file system as far as the arguments reach into it. -/
def reach (arguments : List String) : IO FileSystem := do
  let paths := match CommandLine.request arguments with
    | .ok r => r.paths
    | .error _ => []
  let found ← paths.mapM fun p => do return (p, ← look p)
  return ⟨fun p => (found.lookup p).getD (.error .missing)⟩

end BuildDescriptor

open BuildDescriptor in
/-- Run the command that the arguments name. A fault that it does not deal with ends the program. -/
def main (arguments : List String) : IO UInt32 := do
  match CommandLine.run (← reach arguments) arguments with
  | .ok o =>
    IO.print o.stdout
    IO.eprint o.stderr
    return (o.exitCode.getD 0).toUInt32
  | .error fault =>
    IO.eprintln (fault.kind ++ ": " ++ fault.message)
    return 1
