import BuildDescriptor.Path.Basic
import BuildDescriptor.Text.Quoted

/-!
# Files

What the library asks of a file system is little: what is at a path, and the bytes of a file. Both
are read, nothing is ever written, so a file system is a function from paths to entries.

A path is looked up component by component. Every component but the last has to be a directory, also
one that a later `..` takes back: `a/../b` needs a directory `a`. Names of more than 255 bytes and
paths of 4096 bytes or more are not looked up at all, and neither is anything in a directory that
may not be searched. Then it cannot be told whether there is something at the path, which is more
than its being missing.

## Main definitions

* `FileSystem`, `FileSystem.read`, `FileSystem.isPresent`, `FileSystem.isFile`
* `FileProblem`, `FileFault` — why a file cannot be read
* `FileTree` — a file system held in memory, below the current directory
-/

namespace BuildDescriptor

/-- What a path may lead to. -/
inductive Entry
  | file (content : ByteArray)
  | directory
  /-- A file that may not be read. -/
  | lockedFile
  /-- A directory that may be neither read nor searched. -/
  | lockedDirectory
  /-- What can be read like a file but is none, such as a device or a pipe. -/
  | special (content : ByteArray)
deriving Inhabited

/-- Why a path does not lead to a file. -/
inductive FileProblem
  | missing
  | notDirectory
  | isDirectory
  | nameTooLong
  | denied
deriving DecidableEq, Repr

/-- Whether a problem leaves it open if there is something at a path. -/
def FileProblem.isRefusal : FileProblem → Bool
  | nameTooLong => true
  | denied => true
  | _ => false

/-- A path that could not be read. -/
structure FileFault where
  problem : FileProblem
  path : Path
deriving DecidableEq, Repr

/-- The wording of a fault: its number, its kind and the path, quoted. -/
def FileFault.message (f : FileFault) : String :=
  let kind := match f.problem with
    | .missing => "[Errno 2] No such file or directory: "
    | .notDirectory => "[Errno 20] Not a directory: "
    | .isDirectory => "[Errno 21] Is a directory: "
    | .nameTooLong => "[Errno 36] File name too long: "
    | .denied => "[Errno 13] Permission denied: "
  kind ++ Text.quoted f.path.toString

/-- A file system, as the entry at each path. -/
structure FileSystem where
  entry : Path → Except FileProblem Entry

namespace FileSystem

/-- The bytes that can be read at a path. -/
def read (fs : FileSystem) (p : Path) : Except FileFault ByteArray :=
  match fs.entry p with
  | .ok (.file content) => .ok content
  | .ok (.special content) => .ok content
  | .ok .directory => .error ⟨.isDirectory, p⟩
  | .ok .lockedFile => .error ⟨.denied, p⟩
  | .ok .lockedDirectory => .error ⟨.denied, p⟩
  | .error problem => .error ⟨problem, p⟩

/-- Whether a path leads anywhere. -/
def isPresent (fs : FileSystem) (p : Path) : Except FileFault Bool :=
  match fs.entry p with
  | .ok _ => .ok true
  | .error problem => if problem.isRefusal then .error ⟨problem, p⟩ else .ok false

/-- Whether a path leads to a file, be it one that may not be read. -/
def isFile (fs : FileSystem) (p : Path) : Bool :=
  match fs.entry p with
  | .ok (.file _) => true
  | .ok .lockedFile => true
  | _ => false

end FileSystem

/-- The entries below a current directory, under their components. The directory above the current
one holds nothing else, and neither does any other place. -/
structure FileTree where
  entries : List (List String × Entry) := []
deriving Inhabited

namespace FileTree

/-- A place that a path can lead to. -/
inductive Place
  /-- Below the current directory, or that directory itself. -/
  | inside (parts : List String)
  /-- A directory outside of it. -/
  | outside
deriving DecidableEq, Repr

/-- What is below the current directory under the given components. -/
def entryAt? (t : FileTree) (parts : List String) : Option Entry :=
  if parts.isEmpty then some .directory
  else (t.entries.find? (·.1 = parts)).map (·.2)

/-- Put an entry into the tree, in place of one that is there. The directories that lead to it are
made if they are missing. -/
def insert (t : FileTree) (parts : List String) (e : Entry) : FileTree :=
  let ancestors := ((List.range parts.length).map parts.take).filter fun above =>
    (t.entryAt? above).isNone
  ⟨t.entries.filter (·.1 ≠ parts) ++ ancestors.map (·, .directory) ++ [(parts, e)]⟩

/-- Remove an entry from the tree, with all that is below it. -/
def erase (t : FileTree) (parts : List String) : FileTree :=
  ⟨t.entries.filter fun item => !parts.isPrefixOf item.1⟩

/-- The number of bytes that a name may have. -/
def maxNameSize : Nat := 255

/-- The number of bytes that a path may have. -/
def maxPathSize : Nat := 4095

/-- Why there is nothing under a name in a directory. -/
def absence (part : String) : FileProblem :=
  if part.utf8ByteSize ≤ maxNameSize then .missing else .nameTooLong

/-- Follow one component of a path. -/
def step (t : FileTree) (place : Place) (part : String) : Except FileProblem Place :=
  match place with
  | .outside => if part = ".." then .ok .outside else .error (absence part)
  | .inside parts =>
    match t.entryAt? parts with
    | none => .error .missing
    | some .directory =>
      if part = ".." then .ok (if parts.isEmpty then .outside else .inside parts.dropLast)
      else if (t.entryAt? (parts ++ [part])).isSome then .ok (.inside (parts ++ [part]))
      else .error (absence part)
    | some .lockedDirectory => .error .denied
    | some _ => .error .notDirectory

/-- What a path leads to. -/
def entry (t : FileTree) (p : Path) : Except FileProblem Entry := do
  if maxPathSize < p.toString.utf8ByteSize then .error .nameTooLong
  let start := if p.root = "" then Place.inside [] else .outside
  match ← p.parts.foldlM t.step start with
  | .outside => return .directory
  | .inside parts =>
    match t.entryAt? parts with
    | some e => return e
    | none => .error .missing

/-- The tree as a file system. -/
def toFileSystem (t : FileTree) : FileSystem := ⟨t.entry⟩

end FileTree

end BuildDescriptor
