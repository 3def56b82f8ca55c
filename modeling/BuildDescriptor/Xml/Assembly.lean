import BuildDescriptor.Xml.Element
import BuildDescriptor.Xml.Event

/-!
# From events to elements

Every closing event has to match the element that opened last. The attributes of an element may
bind qualifiers to namespaces; the names of the element, of its other attributes and of the
elements inside it are expanded accordingly.

## Main definitions

* `Xml.Scope` — the namespaces that qualifiers are bound to
* `Xml.Frame` — an element that is still open
* `Xml.assemble` — the element that a sequence of events makes
-/

namespace BuildDescriptor

namespace Xml

/-! ### Namespaces -/

/-- The namespace of each qualifier that is bound, and under the empty qualifier that of elements
without one. The last binding stands first. -/
abbrev Scope := List (String × String)

/-- A namespace that XML reserves: scheme, authority and path. -/
def reserved (path : String) : String :=
  "http:" ++ "//" ++ "www.w3.org" ++ path

/-- The namespace to which the qualifier `xml` is bound, and no other one. -/
def xmlNamespace : String := reserved "/XML/1998/namespace"

/-- The namespace of bindings, which is bound to nothing. -/
def bindingNamespace : String := reserved "/2000/xmlns/"

namespace Scope

/-- The scope of a document. -/
def initial : Scope := [("xml", xmlNamespace)]

/-- Bind a qualifier to a namespace. Only the empty qualifier can be unbound again, and a namespace
may not contain the brace that ends it in an expanded name. -/
def bind (s : Scope) (qualifier uri : String) : Option Scope :=
  if qualifier == "xmlns" || (uri == "" && qualifier != "") || uri.toList.contains '}' ||
      (qualifier == "xml") != (uri == xmlNamespace) || uri == bindingNamespace then none
  else some ((qualifier, uri) :: s)

/-- The qualifier that an attribute binds. -/
def bound? (name : QName) : Option String :=
  if name = ⟨none, "xmlns"⟩ then some ""
  else if name.qualifier = some "xmlns" then some name.base
  else none

/-- The scope inside an element with the given attributes. -/
def extend (s : Scope) (attributes : List (QName × String)) : Option Scope :=
  attributes.foldlM (fun s item =>
    match bound? item.1 with
    | some qualifier => s.bind qualifier item.2
    | none => some s) s

/-- A name in a namespace. -/
def expanded (uri base : String) : String := r"{" ++ uri ++ r"}" ++ base

/-- The expanded name of an element. -/
def elementName (s : Scope) (name : QName) : Option String :=
  match name.qualifier with
  | some qualifier => (s.lookup qualifier).map (expanded · name.base)
  | none =>
    match s.lookup "" with
    | none => some name.base
    | some uri => some (if uri = "" then name.base else expanded uri name.base)

/-- The expanded name of an attribute. -/
def attributeName (s : Scope) (name : QName) : Option String :=
  match name.qualifier with
  | some qualifier => (s.lookup qualifier).map (expanded · name.base)
  | none => some name.base

end Scope

/-! ### Elements -/

/-- An element that is still open. -/
structure Frame where
  name : String
  tag : String
  attributes : List (String × String)
  scope : Scope
  /-- The character data in front of the first child, piece by piece, the last one first. -/
  pieces : List (List Char) := []
  /-- The children, the last one first. -/
  children : List Element := []

namespace Frame

/-- Open an element inside the given scope. -/
def ofOpening (outer : Scope) (name : QName) (attributes : List (QName × String)) :
    Option Frame := do
  if !decide (attributes.map (·.1)).Nodup then failure
  let scope ← outer.extend attributes
  let tag ← scope.elementName name
  let plain := attributes.filter fun item => (Scope.bound? item.1).isNone
  let expanded ← plain.mapM fun item => do
    let name ← scope.attributeName item.1
    return (name, item.2)
  if !decide (expanded.map (·.1)).Nodup then failure
  return { name := name.text, tag := tag, attributes := expanded, scope := scope }

/-- Add character data, which is kept only in front of the first child. -/
def addText (f : Frame) (cs : List Char) : Frame :=
  if f.children.isEmpty then { f with pieces := cs :: f.pieces } else f

/-- Add a child. -/
def addChild (f : Frame) (e : Element) : Frame :=
  { f with children := e :: f.children }

/-- The character data in front of the first child. -/
def text (f : Frame) : List Char := f.pieces.reverse.flatten

/-- The element, when it closes. -/
def toElement (f : Frame) : Element :=
  let text := f.text
  .mk f.tag f.attributes (if text.isEmpty then none else some (String.ofList text))
    f.children.reverse

end Frame

/-- The element that a sequence of events makes inside the elements that are open. -/
def assemble : List Frame → List Event → Option Element
  | frames, .opening name attributes :: events => do
    let scope := match frames with
      | [] => Scope.initial
      | f :: _ => f.scope
    let f ← Frame.ofOpening scope name attributes
    assemble (f :: frames) events
  | f :: frames, .characters cs :: events => assemble (f.addText cs :: frames) events
  | [f], [.closing name] => if f.name = name then some f.toElement else none
  | f :: outer :: frames, .closing name :: events =>
    if f.name = name then assemble (outer.addChild f.toElement :: frames) events else none
  | _, _ => none

end Xml

end BuildDescriptor
