import BuildDescriptor.Xml.Scan

/-!
# Entities

A document may declare names for pieces of text. Where such a name is referred to, the text takes
its place, with the references in it replaced in turn. A name may not be used inside its own text.
What takes the place of names is counted, each time it does, on the reader's account.

## Implementation notes

Texts within texts are followed to a depth that is one more than the number of declared names.
Deeper than that only a name that is used inside its own text can lead, so nothing else is refused.

## Main definitions

* `Xml.Entities` — the declared names
* `Xml.Entities.attributeText` — an attribute value, with all references replaced
* `Xml.collapseSpaces` — the value of an attribute that is a list of words
-/

namespace BuildDescriptor

namespace Xml

/-- The names that a document declares. -/
structure Entities where
  /-- The text of each name; none for a text that is kept outside of the document. -/
  texts : List (String × Option (List Char)) := []
  /-- There may be declarations outside of the document, so an attribute value may refer to a name
  that has none inside. Such a reference stands for nothing. -/
  lenient : Bool := false

namespace Entities

/-- The depth to which texts within texts are followed. -/
def depth (t : Entities) : Nat := t.texts.length + 1

/-- The characters that one item of an attribute value stands for, given those of each name. Spaces
of every kind become the space character, unless they are given by number. -/
def attributeItem (entity : String → Scan (List Char)) : Scan (List Char) := do
  if ← Scan.hasWord "<" then failure
  else if ← Scan.hasWord "&" then
    match ← Scan.reference with
    | .character c => return [c]
    | .entity name =>
      match Scan.predefined? name with
      | some c => return [c]
      | none => entity name
  else
    let plain ← Scan.run fun c => c ≠ '<' && c ≠ '&'
    return plain.map fun c => if isSpace c then ' ' else c

/-- The characters that a whole attribute value stands for, given those of each name. -/
def attributeItems (entity : String → Scan (List Char)) : Nat → Scan (List Char)
  | 0 => return []
  | rounds + 1 => do
    if ← Scan.atEnd then return []
    let first ← attributeItem entity
    let others ← attributeItems entity rounds
    return first ++ others

/-- The characters that a name in an attribute value stands for, with so many levels of texts within
texts to go. -/
def attributeEntity (t : Entities) : Nat → String → Scan (List Char)
  | 0, _ => failure
  | levels + 1, name =>
    match t.texts.lookup name with
    | some (some text) => Scan.inPlace text (attributeItems (attributeEntity t levels) text.length)
    | some none => failure
    | none => if t.lenient then return [] else failure

/-- The characters of an attribute value that is written in the document. -/
def attributeText (t : Entities) (text : List Char) : Scan (List Char) := do
  let items := attributeItems (t.attributeEntity t.depth) text.length
  Scan.allOf (← get).alphabet text items

end Entities

/-- The words of a text, with one space between them. -/
def collapseSpaces (cs : List Char) : List Char :=
  go (cs.dropWhile (· = ' '))
where
  /-- The same for a text that does not begin with a space. -/
  go : List Char → List Char
    | [] => []
    | [c] => if c = ' ' then [] else [c]
    | c :: d :: cs => if c = ' ' && d = ' ' then go (d :: cs) else c :: go (d :: cs)

end Xml

end BuildDescriptor
