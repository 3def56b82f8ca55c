import BuildDescriptor.CommandLine.Usage
import BuildDescriptor.Report
import BuildDescriptor.Session

/-!
# Running a command

Both commands start a session with the default platform, select the platform that is asked for and
load the platform file. `import` prints the units of the descriptor, which has to be a file: that is
looked at before anything else. `platforms` prints the built-in profiles, and the active one besides
if it is none of them.

A fault ends `import` with an error message, unless it arises from the look at the descriptor.
Such a fault, and every fault in `platforms`, is left to whoever runs the command.

Three things are taken as they come: the machine, how deeply a text may be nested, and the console.

## Main definitions

* `CommandLine.targetSession` — the session that the switches ask for
* `CommandLine.runImport`, `CommandLine.runPlatforms` — the commands
* `CommandLine.run` — the program
-/

namespace BuildDescriptor

namespace CommandLine

/-- The default profile. -/
def defaultProfile [Platform.Machine] : Platform.Profile :=
  (Platform.builtin? Platform.defaultKind).getD
    (Platform.Machine.host.profile Platform.defaultKind .unspecified)

/-- The session before any switch takes effect. -/
def initialSession [Platform.Machine] : Session := { profile := defaultProfile }

/-- The end of a command by an error that it reports itself. -/
def refused (title message : String) : Outcome where
  exitCode := some 1
  stderr := errorText title message

/-- Select the platform that is asked for; an empty name asks for none. -/
def selectPlatform [Platform.Machine] (s : Session) (t : Target) :
    Except Outcome (Logged Session) :=
  match t.platform with
  | none => .ok ⟨s, []⟩
  | some name =>
    if name = "" then .ok ⟨s, []⟩
    else
      let selected := s.select name
      if selected.value.1 then .ok ⟨selected.value.2, selected.log⟩
      else
        let names := ", ".intercalate (Platform.builtins.map Platform.Profile.name)
        .error ((refused "Unsupported platform" ("'" ++ name ++ "' is not one of: " ++ names)).after
          (logText t.verbose selected.log))

/-- Load the platform file that is asked for. -/
def loadPlatformFile (fs : FileSystem) (s : Session) (t : Target) :
    Except Fault (Except Outcome (Logged Session)) := do
  match t.platformFile with
  | none => return .ok ⟨s, []⟩
  | some file =>
    let path := Path.ofString file
    let loaded ← s.loadPlatformFile fs path
    if loaded.value.1 then return .ok ⟨loaded.value.2, loaded.log⟩
    else
      return .error ((refused "Invalid platform file"
        ("Failed to load platform file: " ++ path.toString)).after (logText t.verbose loaded.log))

/-- The session that the switches ask for, unless the command ends over them. -/
def targetSession [Platform.Machine] (fs : FileSystem) (t : Target) :
    Except Fault (Except Outcome (Logged Session)) := do
  match selectPlatform initialSession t with
  | .error o => return .error o
  | .ok selected =>
    match ← loadPlatformFile fs selected.value t with
    | .error o => return .error (o.after (logText t.verbose selected.log))
    | .ok loaded => return .ok ⟨loaded.value, selected.log ++ loaded.log⟩

/-! ### The commands -/

/-- The end of the program over a descriptor that cannot be read. -/
def badPath (reason : String) (path : Path) : Outcome where
  exitCode := some 2
  stderr := red ++ "✗ Error: " ++ reason ++ ": " ++ path.toString ++ plain ++ "\n"

/-- What is wrong with the path of a descriptor. A path with a null character leads nowhere. -/
def checkPath (fs : FileSystem) (path : Path) : Except FileFault (Option Outcome) := do
  if path.toString.toList.contains '\x00' then return some (badPath "Path does not exist" path)
  if !(← fs.isPresent path) then return some (badPath "Path does not exist" path)
  else if !fs.isFile path then return some (badPath "Path is not a file" path)
  else return none

/-- The texts that show the units: one for each unit, or a single one in JSON. -/
def unitTexts (json : Bool) (units : List CompileUnit) : List String :=
  if json then [Report.unitsJson units] else units.map CompileUnit.block

/-- The end of `import` with all units printed, or with those in front of a unit that cannot be. -/
def printUnits (c : Console) (path : Path) (json verbose : Bool) (units : List CompileUnit)
    (log : List Notice) : Outcome :=
  match c.print (unitTexts json units) with
  | (stdout, some fault) =>
    { (c.report fault verbose).after (logText verbose log) with stdout := stdout }
  | (stdout, none) =>
    { exitCode := some 0
      stdout := stdout
      stderr := logText verbose log ++
        if !json && units.isEmpty then warningText ("No files found in " ++ path.toString) else "" }

section

variable [Platform.Machine] [Json.Capacity]

/-- Import a descriptor and print its units. -/
def importUnits (c : Console) (fs : FileSystem) (path : Path) (json : Bool) (t : Target) :
    Except Fault Outcome := do
  match ← targetSession fs t with
  | .error o => return o
  | .ok ready =>
    match ready.value.importFrom fs .standard path with
    | .error fault => return (c.report fault t.verbose).after (logText t.verbose ready.log)
    | .ok imported =>
      return printUnits c path json t.verbose imported.value.1 (ready.log ++ imported.log)

/-- The command `import`. -/
def runImport (c : Console) (fs : FileSystem) (descriptor : String) (json : Bool) (t : Target) :
    Except Fault Outcome :=
  let path := Path.ofString descriptor
  match checkPath fs path with
  | .error fault => .error (.file fault)
  | .ok (some o) => .ok o
  | .ok none =>
    match importUnits c fs path json t with
    | .ok o => .ok o
    | .error fault => .ok (c.report fault t.verbose)

/-- The command `platforms`. -/
def runPlatforms (c : Console) (fs : FileSystem) (t : Target) : Except Fault Outcome := do
  match ← targetSession fs t with
  | .error o => return o
  | .ok ready =>
    let active := ready.value.profile
    let profiles := Platform.builtins ++
      if (Platform.builtin? active.kind).isSome then [] else [active]
    let table ← Report.table profiles active
    match c.print [table] with
    | (_, some fault) => .error fault
    | (stdout, none) =>
      return { exitCode := some 0, stdout := stdout, stderr := logText t.verbose ready.log }

/-- The program. -/
def run (fs : FileSystem) (arguments : List String) (c : Console := {}) : Except Fault Outcome :=
  match request arguments with
  | .error o => .ok o
  | .ok .help => .ok { exitCode := some 0, stdout := Scope.program.help }
  | .ok (.import descriptor json t) => runImport c fs descriptor json t
  | .ok (.platforms t) => runPlatforms c fs t

end

end CommandLine

end BuildDescriptor
