import BuildDescriptor.CompileUnit
import BuildDescriptor.Flag
import BuildDescriptor.Json.Value
import BuildDescriptor.Notice
import BuildDescriptor.Path.Basic

/-!
# Records of a compilation database

A record names a source file and the command that compiles it. The command is one text, or a list of
words that a space is put between. Of its flags, `D` defines a macro, `U` undefines one and `I` adds
an include directory; those without an argument do nothing.

## Main definitions

* `CompileUnit.ofCommand` — the unit that a command compiles
* `Database.command?` — the command of a record
* `Database.unitOf` — the unit of a record, or why there is none
-/

namespace BuildDescriptor

/-- The arguments of the flags of one kind. -/
def Flag.argumentsOf (kind : Char) (flags : List Flag) : List String :=
  (flags.filter fun f => f.kind = kind && f.argument ≠ "").map Flag.argument

/-- The unit that a command compiles from a file. -/
def CompileUnit.ofCommand (file command : String) : CompileUnit :=
  let flags := Flag.scan command
  { file := Path.forwardSlashes file
    defines := Flag.argumentsOf 'D' flags
    undefs := NameSet.ofList (Flag.argumentsOf 'U' flags)
    includes := Flag.argumentsOf 'I' flags }

namespace Database

/-- The command of a record, as one text. -/
def command? (record : Json) : Option String :=
  match record.member? "command" with
  | some (.string command) => some command
  | _ => ((record.member? "arguments").bind Json.strings?).map (" ".intercalate ·)

/-- The source file of a record. -/
def file? (record : Json) : Option String :=
  (record.member? "file").bind Json.string?

/-- The unit of the record at some place of a database. -/
def unitOf (index : Nat) (record : Json) : Except Notice CompileUnit :=
  if record.isObject then
    match file? record, command? record with
    | some file, some command =>
      if file = "" || command = "" then .error (.recordIncomplete index)
      else .ok (.ofCommand file command)
    | _, _ => .error (.recordIncomplete index)
  else .error (.recordNoObject index)

end Database

end BuildDescriptor
