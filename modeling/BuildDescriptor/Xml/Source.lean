import BuildDescriptor.Text.Newline
import BuildDescriptor.Xml.Encoding

/-!
# The text of a document

A document may open with a declaration

```
<?xml version="1.0" encoding="utf-8" standalone="yes"?>
```

which belongs to the bytes rather than to the text: it tells how the bytes after it are to be read.
The version has to be given and may be anything. What follows the declaration is the text of the
document, in which every line ends in a line feed and every character is one that XML admits.

## Main definitions

* `Xml.Declaration`, `Xml.declaration?` — the declaration, if the document has one
* `Xml.Source`, `Xml.Source.ofBytes` — the text of a document, and whether it stands alone
-/

namespace BuildDescriptor

namespace Xml

/-- The declaration of a document. -/
structure Declaration where
  encoding : Option String
  /-- The document says that no declaration outside of it matters. -/
  standalone : Bool
  /-- The number of characters of the declaration. -/
  length : Nat
deriving DecidableEq, Repr

/-- A character of a value in the declaration. -/
def isDeclarationChar (c : Char) : Bool :=
  c.isAlphanum || c == '.' || c == '-' || c == '_'

/-- A quoted value in the declaration, and what follows it. -/
def declarationValue? : List Char → Option (String × List Char)
  | [] => none
  | quote :: cs =>
    if quote = '"' || quote = '\'' then
      match cs.dropWhile isDeclarationChar with
      | c :: rest =>
        if c = quote then some (String.ofList (cs.takeWhile isDeclarationChar), rest) else none
      | [] => none
    else none

/-- The names and values of the declaration, each after at least one space. -/
def declarationItems? : Nat → List Char → Option (List (String × String))
  | 0, cs => if cs.all isSpace then some [] else none
  | rounds + 1, cs =>
    if cs.all isSpace then some []
    else if (cs.takeWhile isSpace).isEmpty then none
    else
      let start := cs.dropWhile isSpace
      let isNamePart := fun c => !isSpace c && c != '='
      let name := String.ofList (start.takeWhile isNamePart)
      match (start.dropWhile isNamePart).dropWhile isSpace with
      | '=' :: rest => do
        let (v, rest) ← declarationValue? (rest.dropWhile isSpace)
        let others ← declarationItems? rounds rest
        return (name, v) :: others
      | _ => none

/-- What stands in front of the first `?>`. -/
def untilClose? : List Char → Option (List Char)
  | [] => none
  | '?' :: '>' :: _ => some []
  | c :: cs => (untilClose? cs).map (c :: ·)

/-- Whether a name may be the name of an encoding. -/
def isEncodingName (name : String) : Bool :=
  match name.toList with
  | c :: _ => c.isAlpha
  | [] => false

/-- The declaration with the given names and values. -/
def declarationOf? (length : Nat) : List (String × String) → Option Declaration
  | [("version", _)] => some ⟨none, false, length⟩
  | [("version", _), ("encoding", name)] =>
    if isEncodingName name then some ⟨some name, false, length⟩ else none
  | [("version", _), ("standalone", alone)] =>
    if alone = "yes" || alone = "no" then some ⟨none, alone = "yes", length⟩ else none
  | [("version", _), ("encoding", name), ("standalone", alone)] =>
    if isEncodingName name && (alone = "yes" || alone = "no") then
      some ⟨some name, alone = "yes", length⟩
    else none
  | _ => none

/-- Whether a text begins with a declaration, be it a correct one or not. -/
def opensDeclaration (cs : List Char) : Bool :=
  "<?xml".toList.isPrefixOf cs &&
    match cs.drop 5 with
    | c :: _ => isSpace c || c == '?'
    | [] => false

/-- The declaration at the start of a text. -/
def declaration? (cs : List Char) : Option Declaration := do
  let body ← untilClose? (cs.drop 5)
  let items ← declarationItems? body.length body
  declarationOf? (body.length + 7) items

/-- The text of a document. -/
structure Source where
  standalone : Bool
  text : List Char
  /-- The letters of names. -/
  alphabet : Alphabet
  /-- The number of bytes of the document. -/
  size : Nat
  /-- The number of bytes that make each character of the text. -/
  widths : List Nat

namespace Source

/-- The characters that bytes make in an encoding, if all of them are admitted. -/
def charsOf (e : Encoding) (bytes : List UInt8) : Except Failure (List Char) :=
  match e.decode? bytes with
  | none => .error .malformed
  | some cs => if cs.all isDocumentChar then .ok cs else .error .malformed

/-- The text that characters make in a document of so many bytes. -/
def ofChars (standalone : Bool) (e : Encoding) (size : Nat) (cs : List Char) : Source where
  standalone := standalone
  text := Text.unifyNewlines cs
  alphabet := e.alphabet
  size := size
  widths := Text.unifiedWidths e.width cs

/-- The text of a document that is given as bytes. -/
def ofBytes (bytes : List UInt8) : Except Failure Source :=
  let (shown, rest) := Encoding.detect bytes
  let view := shown.asciiView rest
  if opensDeclaration view then
    match declaration? view with
    | none => .error .malformed
    | some d => do
      let e ← match d.encoding with
        | none => .ok shown
        | some name => shown.declare name
      let cs ← charsOf e (rest.drop (d.length * shown.unitSize))
      return ofChars d.standalone e bytes.length cs
  else do
    let cs ← charsOf shown rest
    return ofChars false shown bytes.length cs

end Source

end Xml

end BuildDescriptor
