/-!
# Line ends

Text read from a file may end its lines with a line feed, a carriage return, or the two together.
`Text.unifyNewlines` writes each of them as one line feed, and `Text.unifiedWidths` tells how much
of the file became each character.
-/

namespace BuildDescriptor

namespace Text

/-- Every line end as a single line feed. -/
def unifyNewlines : List Char → List Char
  | [] => []
  | '\r' :: '\n' :: cs => '\n' :: unifyNewlines cs
  | '\r' :: cs => '\n' :: unifyNewlines cs
  | c :: cs => c :: unifyNewlines cs

/-- The width of each character of a text with unified line ends, given those of the characters
before. -/
def unifiedWidths (width : Char → Nat) : List Char → List Nat
  | [] => []
  | '\r' :: '\n' :: cs => (width '\r' + width '\n') :: unifiedWidths width cs
  | c :: cs => width c :: unifiedWidths width cs

end Text

end BuildDescriptor
