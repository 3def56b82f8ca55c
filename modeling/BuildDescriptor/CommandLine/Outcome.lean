import BuildDescriptor.Fault
import BuildDescriptor.Notice

/-!
# What a command leaves behind

A command ends with an exit code and two texts, one for standard output and one for standard error.
Errors and warnings of the command line are marked and coloured; notices are plain lines.

Standard output need not take every text: its encoding may lack a character, and no encoding has
half of a surrogate pair, for which `Json.charOf` puts the replacement character. Which texts are
refused is up to the console. Texts are printed one after the other, so what is in front of a text
that is refused has already been written. Standard error takes everything.

## Main definitions

* `CommandLine.Outcome` — exit code and texts
* `CommandLine.Console`, `CommandLine.Console.print` — what a command is given to print on
* `CommandLine.errorText`, `CommandLine.warningText` — how errors and warnings are shown
* `CommandLine.interrupted`, `CommandLine.unexpected` — the ends that are no command's own
-/

namespace BuildDescriptor

namespace CommandLine

/-- The exit code of a command that has ended, and what it has written. -/
structure Outcome where
  exitCode : Option Nat
  stdout : String := ""
  stderr : String := ""
deriving DecidableEq, Repr

/-- The outcome with more text for standard error in front. -/
def Outcome.after (o : Outcome) (stderr : String) : Outcome :=
  { o with stderr := stderr ++ o.stderr }

/-! ### Consoles -/

/-- How a fault is traced while none is being dealt with. -/
def noTraceback : String := "NoneType: None"

/-- What a command is given to print on, and to report faults with. -/
structure Console where
  /-- Why standard output does not take a text, if it does not. -/
  refusal? : String → Option String := fun _ => none
  /-- The calls that led to a fault, as they are shown. -/
  traceback : Fault → String := fun _ => noTraceback

/-- Print texts, each on lines of its own. The value is what is written, and the fault that ended
the printing. -/
def Console.print (c : Console) : List String → String × Option Fault
  | [] => ("", none)
  | text :: texts =>
    match c.refusal? text with
    | some reason => ("", some (.unwritable reason))
    | none => (text ++ "\n" ++ (c.print texts).1, (c.print texts).2)

/-! ### Colours -/

/-- The colour of errors. -/
def red : String := "\x1b[1;31m"

/-- The colour of warnings. -/
def yellow : String := "\x1b[1;33m"

/-- The end of a colour. -/
def plain : String := "\x1b[0m"

/-! ### Errors and warnings -/

/-- An error, under a title. -/
def errorText (title message : String) : String :=
  "\n" ++ red ++ "✗ " ++ title ++ plain ++ "\n\n" ++ message ++ "\n\n"

/-- A warning. -/
def warningText (message : String) : String :=
  yellow ++ "✗ " ++ message ++ plain ++ "\n"

/-- The text of a log. Without `verbose`, only warnings are shown. -/
def logText (verbose : Bool) (log : List Notice) : String :=
  String.join ((log.filter fun n => verbose || n.level = .warning).map (·.line ++ "\n"))

/-- The end of a command that is interrupted. -/
def interrupted : Outcome where
  exitCode := some 130
  stderr := warningText "Import interrupted"

/-- The end of a command by an error that it does not expect. -/
def unexpected (kind message : String) (verbose : Bool) (traceback : String := noTraceback) :
    Outcome where
  exitCode := some 1
  stderr := errorText "Unexpected error" (kind ++ ": " ++ message) ++
    if verbose then "Traceback:\n" ++ traceback ++ "\n\n" else ""

/-- The end of a command by a fault. -/
def Console.report (c : Console) (fault : Fault) (verbose : Bool) : Outcome :=
  unexpected fault.kind fault.message verbose (c.traceback fault)

end CommandLine

end BuildDescriptor
