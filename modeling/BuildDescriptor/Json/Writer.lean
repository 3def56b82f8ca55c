import BuildDescriptor.Json.Value
import BuildDescriptor.Text.Quoted

/-!
# Writing JSON

A value is written over several lines, with every item and every member on a line of its own,
indented by two spaces a level. Empty containers stay on one line. The text is ASCII: a character
from outside its printable range is escaped, one beyond `U+FFFF` as a surrogate pair.

## Main definitions

* `Json.writeString` — a string
* `Json.write` — a value at some indentation
* `Json.render` — a value as a whole text
-/

namespace BuildDescriptor

namespace Json

/-! ### Strings -/

/-- The escape for a UTF-16 unit. -/
def unitEscape (unit : Nat) : List Char :=
  '\\' :: 'u' :: Text.hexDigits 4 unit

/-- A character as it stands in a string. -/
def escapeChar (c : Char) : List Char :=
  if c = '"' || c = '\\' then ['\\', c]
  else if c = '\n' then ['\\', 'n']
  else if c = '\r' then ['\\', 'r']
  else if c = '\t' then ['\\', 't']
  else if c = '\x0c' then ['\\', 'f']
  else if c = '\x08' then ['\\', 'b']
  else if ' ' ≤ c && c ≤ '~' then [c]
  else if c.toNat < 0x10000 then unitEscape c.toNat
  else
    unitEscape (0xD800 + (c.toNat - 0x10000) / 0x400) ++
      unitEscape (0xDC00 + (c.toNat - 0x10000) % 0x400)

/-- A string between double quotes. -/
def writeString (s : String) : List Char :=
  '"' :: s.toList.flatMap escapeChar ++ ['"']

/-! ### Values -/

/-- The end of a line, and the indentation of the next. -/
def newline (level : Nat) : List Char :=
  '\n' :: List.replicate (2 * level) ' '

mutual

/-- A value whose lines are indented by so many levels. -/
def write (level : Nat) : Json → List Char
  | null => "null".toList
  | bool true => "true".toList
  | bool false => "false".toList
  | integer n => (toString n).toList
  | decimal literal => literal.toList
  | string s => writeString s
  | array [] => ['[', ']']
  | array (v :: vs) =>
    '[' :: newline (level + 1) ++ write (level + 1) v ++ writeItems (level + 1) vs ++
      newline level ++ [']']
  | object [] => ['{', '}']
  | object (m :: ms) =>
    '{' :: newline (level + 1) ++ writeMember (level + 1) m ++ writeMembers (level + 1) ms ++
      newline level ++ ['}']

/-- The items of an array after the first. -/
def writeItems (level : Nat) : List Json → List Char
  | [] => []
  | v :: vs => ',' :: newline level ++ write level v ++ writeItems level vs

/-- A member of an object. -/
def writeMember (level : Nat) : String × Json → List Char
  | (name, v) => writeString name ++ ':' :: ' ' :: write level v

/-- The members of an object after the first. -/
def writeMembers (level : Nat) : List (String × Json) → List Char
  | [] => []
  | m :: ms => ',' :: newline level ++ writeMember level m ++ writeMembers level ms

end

/-- A value as a text. -/
def render (v : Json) : String := String.ofList (write 0 v)

end Json

end BuildDescriptor
