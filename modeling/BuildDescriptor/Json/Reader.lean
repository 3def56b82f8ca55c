import BuildDescriptor.Json.Value
import BuildDescriptor.Text.Integer

/-!
# Reading JSON

The grammar is that of JSON with the three numbers `NaN`, `Infinity` and `-Infinity` besides.
Spaces, tabs and line ends may stand between lexemes. Control characters may not stand in a string.

A text can fail to be JSON, which is reported as `malformed` without a reason. Two failures are of
another kind, since the text is not at fault: a number with more digits than numbers may have, and
containers nested more deeply than the reader can follow. A reader that skips what is malformed must
not skip those.

## How deep a reader can follow

JSON sets no bound to the nesting of containers. What sets one is the stack on which the reader
runs, and how much of it is left depends on who calls. So the bound is a parameter, the `Capacity`
of a reader. All that is taken for granted is that there is room for a list of records with lists in
them.

## How the recursion ends

`value` recurses on the number of levels left. The items of one container are read in a loop, which
takes a number of rounds; each round takes at least one character.

## Main definitions

* `Json.Failure` — why a text is not read
* `Json.Capacity` — how deeply containers may be nested
* `Json.Read` — reading a value off the front of a text
* `Json.value` — a value, at some level of nesting
* `Json.decode` — a whole text
-/

namespace BuildDescriptor

namespace Json

/-- Why a text is not read. -/
inductive Failure
  | malformed
  | tooDeep (container : Container)
  | longInteger (digits : Nat)
deriving DecidableEq, Repr

/-- A reader that takes a value off the front of a text. -/
abbrev Read (α : Type) := List Char → Except Failure (α × List Char)

/-- How deep a reader can follow. -/
class Capacity where
  /-- The deepest nesting of containers. -/
  maxNesting : Nat
  three_le_maxNesting : 3 ≤ maxNesting

export Capacity (maxNesting)

/-- What a reader has that is called near the bottom of a stack of a thousand calls. -/
instance Capacity.standard : Capacity := ⟨980, by decide⟩

/-- The characters that may stand between lexemes. -/
def isSpace (c : Char) : Bool := c == ' ' || c == '\t' || c == '\n' || c == '\r'

/-- What follows the spaces at the start of a text. -/
def skipSpaces (cs : List Char) : List Char := cs.dropWhile isSpace

/-! ### Strings -/

/-- The value of a hexadecimal digit. -/
def hexValue? (c : Char) : Option Nat :=
  let n := c.toNat
  if 0x30 ≤ n && n ≤ 0x39 then some (n - 0x30)
  else if 0x41 ≤ n && n ≤ 0x46 then some (n - 0x41 + 10)
  else if 0x61 ≤ n && n ≤ 0x66 then some (n - 0x61 + 10)
  else none

/-- The number with four hexadecimal digits. -/
def hex4? (a b c d : Char) : Option Nat := do
  let a ← hexValue? a
  let b ← hexValue? b
  let c ← hexValue? c
  let d ← hexValue? d
  return ((a * 16 + b) * 16 + c) * 16 + d

/-- The character that a backslash and a letter stand for. -/
def escape? (c : Char) : Option Char :=
  if c = '"' || c = '\\' || c = '/' then some c
  else if c = 'b' then some '\x08'
  else if c = 'f' then some '\x0c'
  else if c = 'n' then some '\n'
  else if c = 'r' then some '\r'
  else if c = 't' then some '\t'
  else none

/-- The code points of a string, from behind its opening quote, and what follows its closing quote.
An escape may name half of a surrogate pair. -/
def stringCodes : List Char → Option (List Nat × List Char)
  | [] => none
  | '"' :: cs => some ([], cs)
  | '\\' :: 'u' :: a :: b :: c :: d :: cs => do
    let code ← hex4? a b c d
    let (codes, rest) ← stringCodes cs
    return (code :: codes, rest)
  | '\\' :: c :: cs => do
    let c ← escape? c
    let (codes, rest) ← stringCodes cs
    return (c.toNat :: codes, rest)
  | c :: cs =>
    if c.toNat < 0x20 then none
    else do
      let (codes, rest) ← stringCodes cs
      return (c.toNat :: codes, rest)

/-- A code point that is the first half of a surrogate pair. -/
def isHighSurrogate (code : Nat) : Bool := 0xD800 ≤ code && code ≤ 0xDBFF

/-- A code point that is the second half of a surrogate pair. -/
def isLowSurrogate (code : Nat) : Bool := 0xDC00 ≤ code && code ≤ 0xDFFF

/-- The character with a code point. A surrogate without its partner is no character, and the
replacement character stands in for it. Other than that one, the surrogate could not be printed. -/
def charOf (code : Nat) : Char :=
  if code.isValidChar then Char.ofNat code else '\uFFFD'

/-- The characters with the given code points, where a surrogate pair makes one character. -/
def joinSurrogates : List Nat → List Char
  | [] => []
  | [code] => [charOf code]
  | high :: low :: codes =>
    if isHighSurrogate high && isLowSurrogate low then
      charOf (0x10000 + (high - 0xD800) * 0x400 + (low - 0xDC00)) :: joinSurrogates codes
    else charOf high :: joinSurrogates (low :: codes)

/-- A string, from behind its opening quote. -/
def stringBody : Read String := fun cs =>
  match stringCodes cs with
  | none => .error .malformed
  | some (codes, rest) => .ok (String.ofList (joinSurrogates codes), rest)

/-! ### Numbers -/

/-- A decimal digit of ASCII. -/
def isDigit (c : Char) : Bool := '0' ≤ c && c ≤ '9'

/-- The digits before the point: a zero, or a run of digits without a leading zero. -/
def wholeDigits : List Char → List Char × List Char
  | '0' :: cs => (['0'], cs)
  | cs => (cs.takeWhile isDigit, cs.dropWhile isDigit)

/-- The point and the digits behind it. -/
def fractionDigits : List Char → List Char × List Char
  | '.' :: cs =>
    if (cs.takeWhile isDigit).isEmpty then ([], '.' :: cs)
    else ('.' :: cs.takeWhile isDigit, cs.dropWhile isDigit)
  | cs => ([], cs)

/-- The sign of an exponent. -/
def exponentSign : List Char → List Char × List Char
  | '+' :: cs => (['+'], cs)
  | '-' :: cs => (['-'], cs)
  | cs => ([], cs)

/-- The exponent, with its letter and its sign. -/
def exponentDigits : List Char → List Char × List Char
  | [] => ([], [])
  | c :: cs =>
    let (sign, digits) := exponentSign cs
    if (c = 'e' || c = 'E') && !(digits.takeWhile isDigit).isEmpty then
      (c :: sign ++ digits.takeWhile isDigit, digits.dropWhile isDigit)
    else ([], c :: cs)

/-- The number that digits of ASCII stand for. -/
def digitsValue (cs : List Char) : Nat :=
  Text.ofDigits (cs.map fun c => c.toNat - 0x30)

/-- A number after its sign. -/
def unsignedNumber (negative : Bool) (cs : List Char) : Except Failure (Json × List Char) :=
  let (whole, rest) := wholeDigits cs
  let (fraction, rest) := fractionDigits rest
  let (exponent, rest) := exponentDigits rest
  if whole.isEmpty then .error .malformed
  else if !(fraction.isEmpty && exponent.isEmpty) then
    let sign := if negative then ['-'] else []
    .ok (.decimal (String.ofList (sign ++ whole ++ fraction ++ exponent)), rest)
  else if Text.maxDigits < whole.length then .error (.longInteger whole.length)
  else
    let n : Int := digitsValue whole
    .ok (.integer (if negative then -n else n), rest)

/-- A number. -/
def number : Read Json
  | '-' :: cs => unsignedNumber true cs
  | cs => unsignedNumber false cs

/-! ### Values -/

/-- The values that are words. -/
def words : List (String × Json) :=
  [("null", .null), ("true", .bool true), ("false", .bool false), ("NaN", .decimal "NaN"),
    ("Infinity", .decimal "Infinity"), ("-Infinity", .decimal "-Infinity")]

/-- A value that is no container. -/
def scalar : Read Json
  | '"' :: cs => do
    let (text, rest) ← stringBody cs
    return (.string text, rest)
  | cs =>
    match words.find? fun word => word.1.toList.isPrefixOf cs with
    | some (word, v) => .ok (v, cs.drop word.toList.length)
    | none => number cs

/-- The items of an array, from the first one on. -/
def items (item : Read Json) : Nat → Read (List Json)
  | 0, _ => .error .malformed
  | rounds + 1, cs => do
    let (v, rest) ← item cs
    match skipSpaces rest with
    | ']' :: rest => return ([v], rest)
    | ',' :: rest =>
      let (vs, rest) ← items item rounds (skipSpaces rest)
      return (v :: vs, rest)
    | _ => .error .malformed

/-- One member of an object, from its name on. -/
def member (item : Read Json) : Read (String × Json)
  | '"' :: cs => do
    let (name, rest) ← stringBody cs
    match skipSpaces rest with
    | ':' :: rest =>
      let (v, rest) ← item (skipSpaces rest)
      return ((name, v), rest)
    | _ => .error .malformed
  | _ => .error .malformed

/-- The members of an object, from the first one on. -/
def members (item : Read Json) : Nat → Read (List (String × Json))
  | 0, _ => .error .malformed
  | rounds + 1, cs => do
    let (m, rest) ← member item cs
    match skipSpaces rest with
    | '}' :: rest => return ([m], rest)
    | ',' :: rest =>
      let (ms, rest) ← members item rounds (skipSpaces rest)
      return (m :: ms, rest)
    | _ => .error .malformed

/-- A value, given a reader for the values inside it. -/
def valueOf (item : Read Json) : Read Json
  | '[' :: cs =>
    match skipSpaces cs with
    | ']' :: rest => .ok (.array [], rest)
    | cs => do
      let (vs, rest) ← items item cs.length cs
      return (.array vs, rest)
  | '{' :: cs =>
    match skipSpaces cs with
    | '}' :: rest => .ok (.object [], rest)
    | cs => do
      let (ms, rest) ← members item cs.length cs
      return (.object ms, rest)
  | cs => scalar cs

/-- A value where no further container may begin. -/
def innermost : Read Json
  | '[' :: _ => .error (.tooDeep .array)
  | '{' :: _ => .error (.tooDeep .object)
  | cs => scalar cs

/-- A value with so many levels of nesting to go. -/
def value : Nat → Read Json
  | 0 => innermost
  | levels + 1 => valueOf (value levels)

/-- The value of a whole text. A byte order mark is no part of a JSON text. -/
def decode [Capacity] (text : String) : Except Failure Json := do
  let (v, rest) ← value maxNesting (skipSpaces text.toList)
  if (skipSpaces rest).isEmpty then return v else .error .malformed

end Json

end BuildDescriptor
