import BuildDescriptor.Database.Import
import BuildDescriptor.Project.Import
import BuildDescriptor.Text.Word

/-!
# Importing a build descriptor

The name of a descriptor tells what it is: `compile_commands.json` is a compilation database, and a
file with `.vcxproj` in its name is a project. A file with another name is passed over, once it has
been seen that it can be opened.

## Main definitions

* `importDescriptor` — the units that a descriptor lists
-/

namespace BuildDescriptor

/-- The name of a compilation database. -/
def databaseName : String := "compile_commands.json"

/-- What the name of a project file contains. -/
def projectMarker : String := ".vcxproj"

/-- The units that the descriptor at a path lists. -/
def importDescriptor [Json.Capacity] (fs : FileSystem) (r : Condition.Rule) (path : Path) :
    Except Fault (Logged (List CompileUnit)) := do
  match ← fs.load path with
  | .error fault => return ⟨[], [.descriptorUnreadable path fault]⟩
  | .ok bytes =>
    if path.name = databaseName then Database.importText (Database.textOf bytes)
    else if Text.hasWord projectMarker.toList path.name.toList then
      let imported ← Project.importUnits { path := path } fs r
      return ⟨imported.value.1, imported.log⟩
    else return ⟨[], [.descriptorUnrecognized path]⟩

end BuildDescriptor
