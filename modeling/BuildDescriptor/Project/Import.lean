import BuildDescriptor.CompileUnit
import BuildDescriptor.Condition.Truth
import BuildDescriptor.Path.Normal
import BuildDescriptor.Project.Contents
import BuildDescriptor.Project.ItemList

/-!
# Importing a project

A source file of a project is compiled once for each pair of a variant and a group of options whose
condition holds for the variant. Several groups that hold make several units of one file; they are
not merged. A group without a condition holds for every variant.

A project accumulates: loading its file once more adds the contents to those from before. A load
that fails adds nothing.

## Main definitions

* `Project` — a project file, and what was loaded from it
* `Project.load` — loading the file
* `Project.sourcePath` — where a source file is
* `Project.units` — the units of what was loaded
* `Project.importUnits` — loading, and the units
-/

namespace BuildDescriptor

/-- A project file, and what was loaded from it so far. -/
structure Project where
  path : Path
  contents : Project.Contents := {}
deriving DecidableEq, Repr

namespace Project

/-- Load the project file; the value tells whether that worked. -/
def load (p : Project) (fs : FileSystem) : Except Fault (Logged (Bool × Project)) := do
  match ← Xml.readFile fs p.path with
  | .error reason => return ⟨(false, p), [.projectUnreadable p.path reason]⟩
  | .ok root =>
    let contents := p.contents ++ .ofRoot root
    return ⟨(true, { p with contents := contents }),
      [.projectLoaded p.path contents.sources.length contents.variants.length
        contents.groups.length]⟩

/-! ### Units -/

/-- The path of a source file, which the project names as seen from its own directory. -/
def sourcePath (p : Project) (source : String) : String :=
  Path.normalize (Path.join (Path.forwardSlashes p.path.directory) (Path.forwardSlashes source))

/-- Whether a group of options is meant for a variant. -/
def OptionGroup.appliesTo (g : OptionGroup) (r : Condition.Rule) (v : Variant) : Bool :=
  Text.isBlankText g.condition || r.holds g.condition v

/-- What there is to be said about the condition of a group. -/
def OptionGroup.remarks (g : OptionGroup) (r : Condition.Rule) (v : Variant) : List Notice :=
  if Text.isBlankText g.condition then [] else r.remarks g.condition v

/-- The unit of a source file in a variant, with the options of a group. -/
def unitOf (p : Project) (source : String) (v : Variant) (g : OptionGroup) : CompileUnit where
  file := p.sourcePath source
  defines := splitList g.definitions
  includes := splitList g.includes
  platform := v.kind?

/-- The units of a project: for each source file, each variant, each group that applies. -/
def units (p : Project) (r : Condition.Rule) : List CompileUnit :=
  p.contents.sources.flatMap fun source =>
    p.contents.variants.flatMap fun v =>
      (p.contents.groups.filter fun g => g.appliesTo r v).map fun g => p.unitOf source v g

/-- What there is to be said about the conditions, each time one is looked at. -/
def remarks (p : Project) (r : Condition.Rule) : List Notice :=
  p.contents.sources.flatMap fun _ =>
    p.contents.variants.flatMap fun v => p.contents.groups.flatMap fun g => g.remarks r v

/-- Load the project file and list the units, none if it cannot be loaded. -/
def importUnits (p : Project) (fs : FileSystem) (r : Condition.Rule) :
    Except Fault (Logged (List CompileUnit × Project)) := do
  let loaded ← p.load fs
  let (ok, p) := loaded.value
  if ok then return ⟨(p.units r, p), loaded.log ++ p.remarks r⟩ else return ⟨([], p), loaded.log⟩

end Project

end BuildDescriptor
