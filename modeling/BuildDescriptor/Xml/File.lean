import BuildDescriptor.Fault
import BuildDescriptor.Xml.Document

/-!
# XML files

Reading a document from a file can fail because of the file, because of the document, or by a
fault: the document is in an encoding that cannot be used.

## Main definitions

* `Xml.Unreadable`, `Xml.Unreadable.message` — why a file is no document
* `Xml.readFile` — the root element of the document in a file
-/

namespace BuildDescriptor

namespace Xml

/-- Why a file is no document. -/
inductive Unreadable
  | file (fault : FileFault)
  | malformed
deriving DecidableEq, Repr

/-- The wording of a reason. What is wrong with a malformed document is not told. -/
def Unreadable.message : Unreadable → String
  | file fault => fault.message
  | malformed => "<xml error>"

/-- The root element of a document given as bytes, with faults apart. -/
def readBytes (bytes : ByteArray) : Except Fault (Except Unreadable Element) :=
  match parse bytes.toList with
  | .ok e => .ok (.ok e)
  | .error .malformed => .ok (.error .malformed)
  | .error (.unknownEncoding name) => .error (.unknownEncoding name)
  | .error .multiByteEncoding => .error .multiByteEncoding
  | .error (.binaryEncoding name) => .error (.binaryEncoding name)
  | .error (.refusingEncoding name reason) => .error (.refusingEncoding name reason)
  | .error .asciiOnlyEncoding => .error .asciiOnlyEncoding

/-- The root element of the document in a file. -/
def readFile (fs : FileSystem) (p : Path) : Except Fault (Except Unreadable Element) := do
  match ← fs.load p with
  | .error fault => return .error (.file fault)
  | .ok bytes => readBytes bytes

end Xml

end BuildDescriptor
