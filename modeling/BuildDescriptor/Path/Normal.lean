import BuildDescriptor.Path.Basic

/-!
# The normal form of a path text

Project files name their sources relative to their own directory. `Path.join` puts the two texts
together, and `Path.normalize` simplifies the outcome without a look at the file system: components
are pushed on a stack, where `.` and the empty component do nothing and `..` removes the component
on top. There is nothing to remove at the root, so `..` is dropped there, whereas a relative path
may climb out of where it starts and keeps a run of `..` in front.

## Main definitions

* `Path.join` — a text seen from a directory
* `Path.push` — one component on the stack
* `Path.normalize` — the normal form
-/

namespace BuildDescriptor

namespace Path

/-- The path `source` seen from the directory `dir`. A rooted path is the same from everywhere. -/
def join (dir source : String) : String :=
  if source.toList.head? = some '/' then source
  else if dir = "" || dir.toList.getLast? = some '/' then dir ++ source
  else dir ++ "/" ++ source

/-- Push a component on a stack, whose top is its head. -/
def push (rooted : Bool) (stack : List String) (part : String) : List String :=
  if part = "" || part = "." then stack
  else if part = ".." then
    match stack with
    | [] => if rooted then [] else [".."]
    | top :: below => if top = ".." then ".." :: top :: below else below
  else part :: stack

/-- The number of slashes that the normal form of a path begins with, if the path begins with
`slashes` of them. -/
def leadingSlashes (slashes : Nat) : Nat :=
  if slashes = 2 then 2 else min slashes 1

/-- The shortest text for a path that follows from the text alone. -/
def normalize (s : String) : String :=
  let slashes := leadingSlashes (s.toList.takeWhile (· = '/')).length
  let stack := (Text.splitAt '/' s).foldl (push (slashes ≠ 0)) []
  let text := String.ofList (List.replicate slashes '/') ++ "/".intercalate stack.reverse
  if text = "" then "." else text

end Path

end BuildDescriptor
