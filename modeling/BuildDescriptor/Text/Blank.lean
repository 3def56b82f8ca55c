/-!
# Blank characters and trimming

A blank is a character with the Unicode property `White_Space`, or one of the four information
separators `U+001C … U+001F`. The separators are not white space in Unicode's sense, but text that
is laid out with them is trimmed and split in the same way, so they belong to the class.

## Main definitions

* `Text.isBlank` — the class
* `Text.trim`, `Text.trimRight` — a list of characters without its surrounding, or trailing, blanks
* `Text.strip` — the same for strings
-/

namespace BuildDescriptor

namespace Text

/-- White space, or an information separator. -/
def isBlank (c : Char) : Bool :=
  let n := c.toNat
  (0x09 ≤ n && n ≤ 0x0D) || (0x1C ≤ n && n ≤ 0x20) || n == 0x85 || n == 0xA0 || n == 0x1680 ||
    (0x2000 ≤ n && n ≤ 0x200A) || n == 0x2028 || n == 0x2029 || n == 0x202F || n == 0x205F ||
    n == 0x3000

/-- The characters up to the last one that is not blank. -/
def trimRight (cs : List Char) : List Char :=
  (cs.reverse.dropWhile isBlank).reverse

/-- The characters from the first to the last one that is not blank. -/
def trim (cs : List Char) : List Char :=
  trimRight (cs.dropWhile isBlank)

/-- Trimming adds nothing. -/
theorem mem_of_mem_trim {c : Char} {cs : List Char} (h : c ∈ trim cs) : c ∈ cs := by
  rw [trim, trimRight, List.mem_reverse] at h
  have hright := List.mem_reverse.mp ((List.dropWhile_sublist isBlank).subset h)
  exact (List.dropWhile_sublist isBlank).subset hright

/-- A string without the blanks around it. -/
def strip (s : String) : String :=
  String.ofList (trim s.toList)

/-- A string without any character that is not blank. -/
def isBlankText (s : String) : Bool :=
  s.toList.all isBlank

end Text

end BuildDescriptor
