import BuildDescriptor.NameSet
import BuildDescriptor.Platform.Kind

/-!
# Compile units

A compile unit is one source file as one build variant compiles it: the macros that the command
line defines and undefines, the directories it adds to the search for headers, and the target
platform. A source file that several variants compile has several units.

## Main definitions

* `CompileUnit`
* `CompileUnit.definesText` — the definitions as a preprocessor is given them
* `CompileUnit.definePairs` — the definitions as names and values
-/

namespace BuildDescriptor

/-- One source file in one build variant. -/
structure CompileUnit where
  file : String
  /-- Definitions `NAME` or `NAME=VALUE`, in order and with repetitions. -/
  defines : List String := []
  undefs : NameSet := ∅
  includes : List String := []
  /-- The target, or none for a unit that follows the active profile. -/
  platform : Option Platform.Kind := none
deriving DecidableEq

namespace CompileUnit

/-- Every definition, with a semicolon after it. -/
def definesText (u : CompileUnit) : String :=
  String.join (u.defines.map (· ++ ";"))

/-- The name before the first `=` of a definition, and the value after it if there is one. -/
def splitDefine (define : String) : String × Option String :=
  let name := define.toList.takeWhile (· ≠ '=')
  match define.toList.dropWhile (· ≠ '=') with
  | [] => (String.ofList name, none)
  | _ :: value => (String.ofList name, some (String.ofList value))

/-- The definitions as names and values. -/
def definePairs (u : CompileUnit) : List (String × Option String) :=
  u.defines.map splitDefine

end CompileUnit

end BuildDescriptor
