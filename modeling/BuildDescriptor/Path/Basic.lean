import BuildDescriptor.Text.Pieces

/-!
# Paths

A path is a root and a list of components. Reading a path drops the components that are empty or
`.`, so `a//b`, `a/./b` and `a/b/` are one path, shown as `a/b`. The component `..` is kept: which
directory it names depends on the file system.

A path that begins with exactly two slashes has a root of its own; three or more are as good as one.

## Main definitions

* `Path`, `Path.ofString`, `Path.toString` — paths, reading and showing them
* `Path.name` — the last component
* `Path.directory` — the text of the path without its last component
* `Path.forwardSlashes` — a text with every backslash turned around
-/

namespace BuildDescriptor

/-- A path, relative if it has no root. -/
structure Path where
  /-- No, one or two slashes. -/
  root : String
  /-- The components, none of them empty or `.`. -/
  parts : List String
deriving DecidableEq, Repr, Inhabited

namespace Path

/-- The root of a path that begins with so many slashes. -/
def rootOf (slashes : Nat) : String :=
  if slashes = 0 then "" else if slashes = 2 then "//" else "/"

/-- The path that a text stands for. -/
def ofString (s : String) : Path where
  root := rootOf (s.toList.takeWhile (· = '/')).length
  parts := (Text.splitAt '/' s).filter fun part => part ≠ "" && part ≠ "."

/-- The text of a path. The empty path is the directory `.`. -/
protected def toString (p : Path) : String :=
  if p.root = "" && p.parts.isEmpty then "." else p.root ++ "/".intercalate p.parts

instance : ToString Path := ⟨Path.toString⟩

/-- The last component, if there is any. -/
def name (p : Path) : String := p.parts.getLastD ""

/-- The text of the directory that holds the path, empty for a lone name. -/
def directory (p : Path) : String :=
  p.root ++ "/".intercalate p.parts.dropLast

/-- Every backslash turned into a slash. -/
def forwardSlashes (s : String) : String :=
  s.map fun c => if c = '\\' then '/' else c

end Path

end BuildDescriptor
