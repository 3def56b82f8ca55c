import BuildDescriptor.Text.Blank
import BuildDescriptor.Text.Digit

/-!
# Reading an integer

An integer is written as an optional sign and decimal digits of any script, with blanks around the
whole. A single underscore may stand between two digits, so `1_000` is one thousand, while `_1`,
`1_` and `1__0` are no numbers. Leading zeros are allowed.

## Implementation notes

`maxDigits` bounds the length of a number. The bound is on the digits as written, leading zeros
included and underscores left out; the reader of JSON numbers shares it.

## Main definitions

* `Text.digits?` — the values of a run of digits with underscores
* `Text.readInteger?` — the integer a text stands for
-/

namespace BuildDescriptor

namespace Text

/-- The largest number of digits that a written number may have. -/
def maxDigits : Nat := 4300

/-- The values of a non-empty run of digits, where an underscore may separate two of them. -/
def digits? : List Char → Option (List Nat)
  | [] => none
  | [c] => (digitValue? c).map ([·])
  | c :: '_' :: cs => do
    let d ← digitValue? c
    let ds ← digits? cs
    return d :: ds
  | c :: cs => do
    let d ← digitValue? c
    let ds ← digits? cs
    return d :: ds

/-- The number with the given decimal digits, the most significant first. -/
def ofDigits (ds : List Nat) : Nat :=
  ds.foldl (fun n d => 10 * n + d) 0

/-- The natural number that a run of digits stands for. -/
def readNatural? (cs : List Char) : Option Nat := do
  let ds ← digits? cs
  if ds.length ≤ maxDigits then some (ofDigits ds) else none

/-- The integer that a text stands for. -/
def readInteger? (s : String) : Option Int :=
  match trim s.toList with
  | '-' :: cs => (readNatural? cs).map fun n => -(n : Int)
  | '+' :: cs => (readNatural? cs).map fun n => (n : Int)
  | cs => (readNatural? cs).map fun n => (n : Int)

end Text

end BuildDescriptor
