/-!
# Charsets

An encoding with one byte for each character is a *charset*. Only those are of use here in which the
lower half of the bytes is ASCII, so a charset is given by the characters of the upper half.

## Main definitions

* `Xml.Charset` — a charset; `Xml.Charset.ascii` and `Xml.Charset.latin1` are the simplest ones
* `Xml.Charset.decode?` — the characters that bytes make
-/

namespace BuildDescriptor

namespace Xml

/-- What bytes mean one by one. -/
structure Charset where
  /-- The characters of the bytes from `0x80` on. A space stands for a byte that has none, and so
  does the end of the list. -/
  upper : List Char
  /-- A character of the lower half that begins a switch to other characters and is none itself. -/
  escape : Option Char := none
deriving DecidableEq, Repr

namespace Charset

/-- The charset without an upper half. -/
def ascii : Charset where
  upper := []

/-- The charset in which every byte is a code point. -/
def latin1 : Charset where
  upper := (List.range 0x80).map fun n => Char.ofNat (0x80 + n)

/-- The character of a byte, given the characters of the upper half. -/
def charWith (escape : Option Char) (upper : Array Char) (byte : UInt8) : Option Char :=
  if byte.toNat < 0x80 then
    if escape = some (Char.ofNat byte.toNat) then none else some (Char.ofNat byte.toNat)
  else
    match upper[byte.toNat - 0x80]? with
    | none => none
    | some c => if c = ' ' then none else some c

/-- The characters that bytes make, if each byte has one. -/
def decode? (c : Charset) (bytes : List UInt8) : Option (List Char) :=
  let upper := c.upper.toArray
  bytes.mapM (charWith c.escape upper)

end Charset

end Xml

end BuildDescriptor
