import BuildDescriptor.FileSystem
import BuildDescriptor.Json.Reader
import BuildDescriptor.Xml.Encoding

/-!
# Faults

Importing is best effort: a file that is missing, a text that is malformed, a record that is
incomplete are noticed and passed over. A *fault* is what is not passed over. It ends the operation
in which it arises, and whoever asked for the operation is told.

## Main definitions

* `Fault`, `Fault.kind`, `Fault.message` — the faults and their wording
* `FileSystem.load` — the bytes at a path, with both ways to fail
-/

namespace BuildDescriptor

/-- What ends an operation. -/
inductive Fault
  /-- A path contains the character `U+0000`. -/
  | embeddedNull
  | unknownEncoding (name : String)
  | multiByteEncoding
  /-- What is declared as an encoding relates bytes to bytes. -/
  | binaryEncoding (name : String)
  /-- An encoding refuses to read bytes leniently. -/
  | refusingEncoding (name reason : String)
  /-- An encoding that reads ASCII only is asked what the byte `0x80` means. -/
  | asciiOnlyEncoding
  | longInteger (digits : Nat)
  | deepNesting (container : Json.Container)
  /-- A number with more digits than numbers may have would have to be written. -/
  | longNumeral
  /-- It cannot be told whether a path leads to a file. -/
  | file (fault : FileFault)
  /-- A text has a character that cannot be written. -/
  | unwritable (reason : String)
deriving DecidableEq, Repr

namespace Fault

/-- The kind of a fault, as it is reported. -/
def kind : Fault → String
  | embeddedNull => "ValueError"
  | unknownEncoding _ => "LookupError"
  | multiByteEncoding => "ValueError"
  | binaryEncoding _ => "LookupError"
  | refusingEncoding _ _ => "UnicodeError"
  | asciiOnlyEncoding => "UnicodeDecodeError"
  | longInteger _ => "ValueError"
  | deepNesting _ => "RecursionError"
  | longNumeral => "ValueError"
  | file fault => if fault.problem = .denied then "PermissionError" else "OSError"
  | unwritable _ => "UnicodeEncodeError"

/-- The wording of a fault. -/
def message : Fault → String
  | embeddedNull => "embedded null byte"
  | unknownEncoding name => "unknown encoding: " ++ name
  | multiByteEncoding => "multi-byte encodings are not supported"
  | binaryEncoding name =>
    "'" ++ name ++ "' is not a text encoding; use codecs.decode() to handle arbitrary codecs"
  | refusingEncoding name reason =>
    "decoding with '" ++ name ++ "' codec failed (UnicodeError: " ++ reason ++ ")"
  | asciiOnlyEncoding =>
    "'ascii' codec can't decode byte 0x80 in position 82: ordinal not in range(128)"
  | longInteger digits =>
    "Exceeds the limit (" ++ toString Text.maxDigits ++
      " digits) for integer string conversion: value has " ++ toString digits ++
      " digits; use sys.set_int_max_str_digits() to increase the limit"
  | deepNesting .array =>
    "maximum recursion depth exceeded while decoding a JSON array from a unicode string"
  | deepNesting .object =>
    "maximum recursion depth exceeded while decoding a JSON object from a unicode string"
  | longNumeral =>
    "Exceeds the limit (" ++ toString Text.maxDigits ++
      " digits) for integer string conversion; " ++
      "use sys.set_int_max_str_digits() to increase the limit"
  | file fault => fault.message
  | unwritable reason => reason

end Fault

/-- The bytes of the file at a path. No path with a null character can be asked for. -/
def FileSystem.load (fs : FileSystem) (p : Path) : Except Fault (Except FileFault ByteArray) :=
  if p.toString.toList.contains '\x00' then .error .embeddedNull else .ok (fs.read p)

end BuildDescriptor
