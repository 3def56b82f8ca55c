import BuildDescriptor.CommandLine.Arguments
import BuildDescriptor.CommandLine.Outcome

/-!
# The commands and their usage

There are two commands. `import` prints the compile units of a build descriptor, and `platforms`
lists the platform profiles. Their usage and their help are laid out for lines of eighty characters.

## Main definitions

* `CommandLine.Command`, `CommandLine.Scope` — the commands, and where an argument can be wrong
* `CommandLine.Scope.grammar`, `CommandLine.Scope.usage`, `CommandLine.Scope.help` — what each takes
* `CommandLine.Request`, `CommandLine.request` — what a list of arguments asks for
-/

namespace BuildDescriptor

namespace CommandLine

/-- The name of the program. -/
def programName : String := "buildcfg"

/-- The version of the program. -/
def programVersion : String := "0.1.0"

/-- The commands. -/
inductive Command
  | «import»
  | platforms
deriving DecidableEq, Repr

/-- The commands, and the command line around them. -/
inductive Scope
  | program
  | command (c : Command)
deriving DecidableEq, Repr

/-- The word for a command. -/
def Command.name : Command → String
  | «import» => "import"
  | platforms => "platforms"

/-- The words for all commands. -/
def commandNames : List String := ["import", "platforms"]

namespace Scope

/-- How errors refer to a scope. -/
def title : Scope → String
  | program => programName
  | command c => programName ++ " " ++ c.name

/-- What the arguments in a scope may contain. -/
def grammar : Scope → Grammar
  | program => ⟨[.help, .version], .word "command" commandNames⟩
  | command .import => ⟨[.help, .json, .platform, .platformFile, .verbose], .single "descriptor"⟩
  | command .platforms => ⟨[.help, .platform, .platformFile, .verbose], .none⟩

/-- The usage of a command. -/
def usage : Scope → String
  | program => "usage: buildcfg [-h] [--version] \x7bimport,platforms\x7d ...\n"
  | command .import =>
    "usage: buildcfg import [-h] [--json] [-p PLATFORM]\n" ++
    "                       [--platform-file PLATFORM_FILE] [-v]\n" ++
    "                       descriptor\n"
  | command .platforms =>
    "usage: buildcfg platforms [-h] [-p PLATFORM] [--platform-file PLATFORM_FILE]\n" ++
    "                          [-v]\n"

/-- The help on the switches that both commands have. -/
def platformHelp : String :=
  "  -p PLATFORM, --platform PLATFORM\n" ++
  "                        Target platform profile (e.g., win32A, win64, unix32,\n" ++
  "                        unix64, native)\n" ++
  "  --platform-file PLATFORM_FILE\n" ++
  "                        Platform XML file overriding the selected profile\n" ++
  "  -v, --verbose         Show verbose output\n"

/-- The help on a command. -/
def help (s : Scope) : String :=
  s.usage ++ "\n" ++ match s with
    | program =>
      "Import compile configurations from compile_commands.json and .vcxproj files\n\n" ++
      "positional arguments:\n" ++
      "  \x7bimport,platforms\x7d  Command to run\n" ++
      "    import            Import a build descriptor\n" ++
      "    platforms         List platform profiles\n\n" ++
      "options:\n" ++
      "  -h, --help          show this help message and exit\n" ++
      "  --version           show program's version number and exit\n"
    | command .import =>
      "positional arguments:\n" ++
      "  descriptor            compile_commands.json or .vcxproj file\n\n" ++
      "options:\n" ++
      "  -h, --help            show this help message and exit\n" ++
      "  --json                Print configurations as JSON\n" ++ platformHelp
    | command .platforms =>
      "options:\n" ++
      "  -h, --help            show this help message and exit\n" ++ platformHelp

/-- The end of the program over an error in its arguments. -/
def fail (s : Scope) (e : UsageError) : Outcome where
  exitCode := some 2
  stderr := s.usage ++ s.title ++ ": error: " ++ e.message ++ "\n"

/-- The end of the program by a switch that only wants to know something, if there is one. -/
def answer? (s : Scope) (r : Reading) : Option Outcome :=
  r.switches.findSome? fun item =>
    match item.1 with
    | .help => some { exitCode := some 0, stdout := s.help }
    | .version =>
      some { exitCode := some 0, stdout := programName ++ " " ++ programVersion ++ "\n" }
    | _ => none

/-- The arguments of a scope, read, unless the program ends with them. -/
def read (s : Scope) (arguments : List String) : Except Outcome Reading :=
  let r := s.grammar.read arguments
  match s.answer? r, r.fault with
  | some o, _ => .error o
  | none, some fault => .error (s.fail fault)
  | none, none => .ok r

end Scope

/-! ### Requests -/

/-- What the switches of both commands ask for. -/
structure Target where
  platform : Option String := none
  platformFile : Option String := none
  verbose : Bool := false
deriving DecidableEq, Repr

/-- What a list of arguments asks for. -/
inductive Request
  | help
  | «import» (descriptor : String) (json : Bool) (target : Target)
  | platforms (target : Target)
deriving DecidableEq, Repr

/-- What the switches of both commands ask for. -/
def Reading.target (r : Reading) : Target where
  platform := r.value? .platform
  platformFile := r.value? .platformFile
  verbose := r.has .verbose

/-- The request of a command, and what is left over of its arguments. -/
def Command.request (c : Command) (arguments : List String) :
    Except Outcome (Request × List String) := do
  let r ← (Scope.command c).read arguments
  match c with
  | .platforms => return (.platforms r.target, r.leftOver)
  | .import =>
    match r.positional with
    | [] => .error ((Scope.command c).fail (.missingPositional "descriptor"))
    | descriptor :: _ =>
      return (.import descriptor (r.has .json) r.target, r.leftOver)

/-- What a list of arguments asks for, unless the program ends with it. Arguments that belong to
nothing are reported last, those in front of the command before those behind it. -/
def request (arguments : List String) : Except Outcome Request := do
  let r ← Scope.program.read arguments
  let (asked, leftOver) ← match r.positional with
    | [] => pure (.help, [])
    | name :: rest =>
      if name = Command.import.name then Command.import.request rest
      else if name = Command.platforms.name then Command.platforms.request rest
      else .error (Scope.program.fail (.invalidChoice "command" name commandNames))
  match r.leftOver ++ leftOver with
  | [] => return asked
  | extras => .error (Scope.program.fail (.unrecognized extras))

end CommandLine

end BuildDescriptor
