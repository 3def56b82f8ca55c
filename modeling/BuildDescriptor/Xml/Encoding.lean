import BuildDescriptor.Xml.EncodingTable
import BuildDescriptor.Xml.Name

/-!
# Encodings of a document

A document is bytes. How they make characters is told by the first bytes, and by the encoding that
the declaration of the document names.

UTF-8, the two forms of UTF-16, ISO-8859-1 and US-ASCII are known by these names in any letter
case. Every other name is looked up in the table of encodings, where charsets are the only ones that
are of use.

The encoding also tells which letters the names in the document are made of: those that know the
first 256 characters by themselves, ISO-8859-1 and UTF-16, count the ordinal indicators and the
micro sign as letters.

## Main definitions

* `Xml.Failure` — why a document is not read
* `Xml.Encoding`, `Xml.Encoding.decode?` — encodings and what bytes mean in them
* `Xml.Encoding.width` — how many bytes make a character
* `Xml.Encoding.alphabet` — the letters of names
* `Xml.Encoding.detect` — the encoding that the first bytes show
* `Xml.Encoding.declare` — the encoding once a name for it has been read
-/

namespace BuildDescriptor

namespace Xml

/-- Why a document is not read. -/
inductive Failure
  | malformed
  | unknownEncoding (name : String)
  | multiByteEncoding
  | binaryEncoding (name : String)
  | refusingEncoding (name reason : String)
  | asciiOnlyEncoding
deriving DecidableEq, Repr

/-- How bytes make characters. -/
inductive Encoding
  | utf8
  | utf16LittleEndian
  | utf16BigEndian
  | ascii
  | latin1
  /-- An encoding that is looked up in the table. -/
  | ofCharset (c : Charset)
deriving DecidableEq, Repr

namespace Encoding

/-! ### Units -/

/-- The 16-bit units of a list of bytes, if the last one is complete. -/
def units16 (bigEndian : Bool) : List UInt8 → Option (List Nat)
  | [] => some []
  | [_] => none
  | a :: b :: bytes => do
    let units ← units16 bigEndian bytes
    let unit := if bigEndian then a.toNat * 256 + b.toNat else b.toNat * 256 + a.toNat
    return unit :: units

/-- The characters of a list of 16-bit units. A high surrogate makes a character with the unit
behind it, of which only the last ten bits count. -/
def charsOfUnits : List Nat → Option (List Char)
  | [] => some []
  | [unit] => if unit.isValidChar then some [Char.ofNat unit] else none
  | unit :: next :: units =>
    if unit.isValidChar then do
      let cs ← charsOfUnits (next :: units)
      return Char.ofNat unit :: cs
    else if unit ≤ 0xDBFF then do
      let cs ← charsOfUnits units
      return Char.ofNat (0x10000 + (unit - 0xD800) * 0x400 + next % 0x400) :: cs
    else none

/-- The characters that bytes make. -/
def decode? (e : Encoding) (bytes : List UInt8) : Option (List Char) :=
  match e with
  | utf8 => (String.fromUTF8? ⟨bytes.toArray⟩).map String.toList
  | utf16LittleEndian => (units16 false bytes).bind charsOfUnits
  | utf16BigEndian => (units16 true bytes).bind charsOfUnits
  | ascii => Charset.ascii.decode? bytes
  | latin1 => Charset.latin1.decode? bytes
  | ofCharset c => c.decode? bytes

/-- The number of bytes that make a character. -/
def width (e : Encoding) (c : Char) : Nat :=
  match e with
  | utf8 => c.utf8Size
  | utf16LittleEndian => if c.toNat < 0x10000 then 2 else 4
  | utf16BigEndian => if c.toNat < 0x10000 then 2 else 4
  | _ => 1

/-- The letters of the names in a document. -/
def alphabet : Encoding → Alphabet
  | utf16LittleEndian => .extended
  | utf16BigEndian => .extended
  | latin1 => .extended
  | _ => .standard

/-! ### Which encoding -/

/-- The number of bytes of an ASCII character. -/
def unitSize : Encoding → Nat
  | utf16LittleEndian => 2
  | utf16BigEndian => 2
  | _ => 1

/-- The encoding that the first bytes of a document show, and the bytes without a byte order mark.
Without one, a zero byte gives UTF-16 away, because a document starts with an ASCII character. -/
def detect : List UInt8 → Encoding × List UInt8
  | 0xFE :: 0xFF :: bytes => (utf16BigEndian, bytes)
  | 0xFF :: 0xFE :: bytes => (utf16LittleEndian, bytes)
  | 0xEF :: 0xBB :: 0xBF :: bytes => (utf8, bytes)
  | 0 :: bytes => (utf16BigEndian, 0 :: bytes)
  | b :: 0 :: bytes => (utf16LittleEndian, b :: 0 :: bytes)
  | bytes => (utf8, bytes)

/-- The first bytes of a document as far as they are ASCII, which a declaration is: every unit is
read on its own. -/
def asciiView (e : Encoding) (bytes : List UInt8) : List Char :=
  match e with
  | utf16LittleEndian => view16 false bytes
  | utf16BigEndian => view16 true bytes
  | _ => bytes.map fun b => Char.ofNat b.toNat
where
  /-- The 16-bit units of a list of bytes as characters, up to an incomplete one. -/
  view16 (bigEndian : Bool) : List UInt8 → List Char
    | a :: b :: bytes =>
      Char.ofNat (if bigEndian then a.toNat * 256 + b.toNat else b.toNat * 256 + a.toNat) ::
        view16 bigEndian bytes
    | _ => []

/-- The encodings that are known by name and need no look at the table. -/
def standardName? (name : String) : Option (List Encoding) :=
  let name := name.toLower
  if name = "utf-8" then some [utf8]
  else if name = "utf-16" then some [utf16LittleEndian, utf16BigEndian]
  else if name = "utf-16le" then some [utf16LittleEndian]
  else if name = "utf-16be" then some [utf16BigEndian]
  else if name = "iso-8859-1" then some [latin1]
  else if name = "us-ascii" then some [ascii]
  else none

/-- The encoding of a document that shows `current` and declares the encoding called `name`.
By a standard name a document in UTF-16 cannot declare another encoding, nor any other declare
UTF-16. A charset holds from behind the declaration on, whatever the document shows. -/
def declare (current : Encoding) (name : String) : Except Failure Encoding :=
  match standardName? name with
  | some encodings =>
    if current.unitSize = 2 then
      if encodings.contains current then .ok current else .error .malformed
    else
      match encodings.find? (·.unitSize = 1) with
      | some e => .ok e
      | none => .error .malformed
  | none =>
    match meaning? name with
    | some (.charset c) => .ok (ofCharset c)
    | some .multiByte => .error .multiByteEncoding
    | some .notAscii => .error .malformed
    | some .binary => .error (.binaryEncoding name)
    | some (.refusing reason) => .error (.refusingEncoding name reason)
    | some .asciiOnly => .error .asciiOnlyEncoding
    | none => .error (.unknownEncoding name)

end Encoding

end Xml

end BuildDescriptor
