import BuildDescriptor.Xml.Charset

/-!
# Names of encodings

A name that a document declares for its encoding is compared word by word, without letter case: all
but letters, digits and dots only separates words. An encoding has names of its own, which contain
no dot, and further names, in which dots may also stand between the words.

## Main definitions

* `Xml.foldName` — the form in which names are compared
* `Xml.EncodingNames`, `Xml.EncodingNames.contains` — the names of an encoding
* `Xml.Meaning` — what a name may mean
-/

namespace BuildDescriptor

namespace Xml

/-- A name without letter case, its words joined by underscores. -/
def foldName (name : String) : String :=
  String.ofList (fold false false name.toLower.toList)
where
  /-- The rest of a name, with an underscore before the next word if one is due. -/
  fold (hasWord isDue : Bool) : List Char → List Char
    | [] => []
    | c :: cs =>
      if c.isAlphanum || c = '.' then
        if hasWord && isDue then '_' :: c :: fold true false cs else c :: fold true false cs
      else fold hasWord true cs

/-- The folded names of an encoding, or of several that are alike. -/
structure EncodingNames where
  own : List String
  further : List String
deriving DecidableEq, Repr

/-- Whether a folded name is one of the names. -/
def EncodingNames.contains (n : EncodingNames) (folded : String) : Bool :=
  n.further.contains folded || n.own.contains folded ||
    n.further.contains (folded.map fun c => if c = '.' then '_' else c)

/-- What the name of an encoding may mean. -/
inductive Meaning
  | charset (c : Charset)
  /-- Some characters take several bytes. -/
  | multiByte
  /-- The lower half of the bytes is not ASCII, as a declaration is. -/
  | notAscii
  /-- It relates bytes to bytes, and so is no encoding of text. -/
  | binary
  /-- It never reads bytes leniently, for the given reason. -/
  | refusing (reason : String)
  /-- It reads bytes leniently only if they are ASCII. -/
  | asciiOnly
deriving DecidableEq, Repr

end Xml

end BuildDescriptor
