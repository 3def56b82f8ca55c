import BuildDescriptor.Xml.Doctype

/-!
# The events of a document

Read from front to back, the root element of a document is a sequence of events: an element opens,
an element closes, or there is character data. Comments and processing instructions are read and
forgotten. A reference to an entity is replaced by the events of the entity's text, which has to
close every element that it opens.

## How the recursion ends

`Scan.events` takes its input in rounds, each of which takes at least one character. The text of an
entity is read by the same function one level deeper; as for attribute values, there are as many
levels as an entity that is not used inside its own text can need.

## Main definitions

* `Xml.Event` — an event
* `Xml.Scan.startTag`, `Xml.Scan.endTag` — tags
* `Xml.Scan.events` — the events up to the end of an element
* `Xml.Scan.root` — the events of the root element
-/

namespace BuildDescriptor

namespace Xml

/-- What happens at some place of a document. -/
inductive Event
  /-- An element opens; the attributes are as they are written. -/
  | opening (name : QName) (attributes : List (QName × String))
  | closing (name : String)
  | characters (text : List Char)
deriving DecidableEq, Repr

/-- The default values that are declared for an element, but for the attributes it has. -/
def Doctype.missingDefaults (d : Doctype) (element : QName) (given : List QName) :
    List (QName × String) :=
  let rules := d.rules.filter fun rule => rule.element = element.text && !given.contains rule.name
  rules.filterMap fun rule => rule.default?.map fun text => (rule.name, String.ofList text)

/-- Whether the value of an attribute is a list of words. -/
def Doctype.isWords (d : Doctype) (element name : QName) : Bool :=
  match d.rule? element.text name with
  | some rule => rule.isWords
  | none => false

namespace Scan

/-! ### Tags -/

/-- The value of an attribute. -/
def attributeValue (d : Doctype) (element name : QName) : Scan String := do
  let text ← literal
  let text ← d.table.attributeText text
  return String.ofList (if d.isWords element name then collapseSpaces text else text)

/-- The attributes of a tag and its end; the value tells whether the element ends here too. -/
def attributes (d : Doctype) (element : QName) : Nat → Scan (List (QName × String) × Bool)
  | 0 => failure
  | rounds + 1 => do
    let hadSpaces := !(← run isSpace).isEmpty
    if ← hasWord ">" then return ([], false)
    else if ← hasWord "/>" then return ([], true)
    else if !hadSpaces then failure
    else
      let name ← qName
      spaces
      word "="
      spaces
      let v ← attributeValue d element name
      let (others, isEmpty) ← attributes d element rounds
      return ((name, v) :: others, isEmpty)

/-- A tag that opens an element, from behind its bracket, with at most so many attributes. An empty
element closes at once. -/
def startTag (d : Doctype) (rounds : Nat) : Scan (List Event) := do
  let name ← qName
  let (given, isEmpty) ← attributes d name rounds
  let all := given ++ d.missingDefaults name (given.map (·.1))
  return .opening name all :: if isEmpty then [.closing name.text] else []

/-- A tag that closes an element, from behind its slash. -/
def endTag : Scan Event := do
  let letters := (← get).alphabet
  let name ← run fun c => letters.isNameChar c || c == ':'
  spaces
  word ">"
  return .closing (String.ofList name)

/-! ### Content -/

/-- What an angle bracket in content begins, from behind the bracket. -/
def markup (d : Doctype) (rounds : Nat) : Scan (List Event) := do
  if ← hasWord "/" then return [← endTag]
  else if ← hasWord "!--" then
    comment
    return []
  else if ← hasWord "![CDATA[" then return [.characters (← upTo "]]>")]
  else if ← hasWord "?" then
    instruction
    return []
  else startTag d rounds

/-- One item of an element's content, given the events of each entity. -/
def item (d : Doctype) (entity : String → Scan (List Event)) (rounds : Nat) :
    Scan (List Event) := do
  if ← hasWord "<" then markup d rounds
  else if ← hasWord "&" then
    match ← reference with
    | .character c => return [.characters [c]]
    | .entity name =>
      match predefined? name with
      | some c => return [.characters [c]]
      | none => entity name
  else if ← hasWord "]]>" then failure
  else
    let first ← char
    let others ← run fun c => c ≠ '<' && c ≠ '&' && c ≠ ']'
    return [.characters (first :: others)]

/-- How many more elements are open after some events, if there are `depth` open before. The count
stops when it reaches zero. -/
def depthAfter : Nat → List Event → Nat
  | 0, _ => 0
  | depth, [] => depth
  | depth + 1, .opening _ _ :: events => depthAfter (depth + 2) events
  | depth + 1, .closing _ :: events => depthAfter depth events
  | depth + 1, .characters _ :: events => depthAfter (depth + 1) events

/-- The events up to the place where no element is open any more, or to the end of the text. The
value also has the number of elements that are still open there. -/
def eventsWith (d : Doctype) (entity : String → Scan (List Event)) :
    Nat → Nat → Scan (List Event × Nat)
  | _, 0 => return ([], 0)
  | 0, depth => return ([], depth)
  | rounds + 1, depth => do
    if ← atEnd then return ([], depth)
    let first ← item d entity (rounds + 1)
    let (others, depth) ← eventsWith d entity rounds (depthAfter depth first)
    return (first ++ others, depth)

/-- The events of an entity's text, with so many levels of texts within texts to go. -/
def entityEvents (d : Doctype) : Nat → String → Scan (List Event)
  | 0, _ => failure
  | levels + 1, name => do
    let text ← ((d.entities.lookup name).join : Option (List Char))
    let (events, depth) ← inPlace text (eventsWith d (entityEvents d levels) text.length 1)
    if depth = 1 then return events else failure

/-- The events up to the end of the element that is open. -/
def events (d : Doctype) : Scan (List Event) := do
  let (events, depth) ← eventsWith d (entityEvents d d.table.depth) (← remaining) 1
  if depth = 0 then return events else failure

/-- The events of the root element, from behind its first bracket. -/
def root (d : Doctype) : Scan (List Event) := do
  let first ← startTag d (← remaining)
  if depthAfter 1 first = 2 then return first ++ (← events d) else return first

end Scan

end Xml

end BuildDescriptor
