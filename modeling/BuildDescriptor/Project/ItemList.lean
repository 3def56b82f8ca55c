import BuildDescriptor.Text.Blank
import BuildDescriptor.Text.Pieces

/-!
# Lists in a project file

The definitions and the include directories of a project are lists with semicolons between the
items. Blanks around an item do not count. Empty items are dropped, and so are the markers, such as
`%(PreprocessorDefinitions)`, which stand for values from elsewhere.

## Main definitions

* `Project.isItem` — what is kept
* `Project.splitList` — the items of a list
-/

namespace BuildDescriptor

namespace Project

/-- A trimmed text that is neither empty nor a marker. -/
def isItem (cs : List Char) : Bool :=
  !cs.isEmpty && !"%(".toList.isPrefixOf cs

/-- The items of a list. -/
def splitList (s : String) : List String :=
  (((Text.pieces ';' s.toList).map Text.trim).filter isItem).map String.ofList

end Project

end BuildDescriptor
