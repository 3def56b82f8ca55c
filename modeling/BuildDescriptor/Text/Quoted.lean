import BuildDescriptor.Text.Printable

/-!
# Quotations

A text that is quoted in a message stands between apostrophes, or between double quotes if it
contains an apostrophe and no double quote. The enclosing quote and the backslash are escaped by a
backslash, the characters line feed, carriage return and tab by a letter, and every other character
that is not printable by its code point, in two, four or eight lower-case hexadecimal digits.

## Main definitions

* `Text.quoted` — a text as it is quoted
-/

namespace BuildDescriptor

namespace Text

/-- The lower-case hexadecimal digits of a number, in at least the given width. -/
def hexDigits (width n : Nat) : List Char :=
  let ds := Nat.toDigits 16 n
  List.replicate (width - ds.length) '0' ++ ds

/-- The quote that encloses a text. -/
def enclosingQuote (cs : List Char) : Char :=
  if cs.contains '\'' && !cs.contains '"' then '"' else '\''

/-- A character as it stands inside a quotation. -/
def escapeIn (quote c : Char) : List Char :=
  if c = quote || c = '\\' then ['\\', c]
  else if c = '\n' then ['\\', 'n']
  else if c = '\r' then ['\\', 'r']
  else if c = '\t' then ['\\', 't']
  else if isPrintable c then [c]
  else if c.toNat ≤ 0xFF then '\\' :: 'x' :: hexDigits 2 c.toNat
  else if c.toNat ≤ 0xFFFF then '\\' :: 'u' :: hexDigits 4 c.toNat
  else '\\' :: 'U' :: hexDigits 8 c.toNat

/-- The quotation of a text. -/
def quoted (s : String) : String :=
  let quote := enclosingQuote s.toList
  String.ofList (quote :: s.toList.flatMap (escapeIn quote) ++ [quote])

end Text

end BuildDescriptor
