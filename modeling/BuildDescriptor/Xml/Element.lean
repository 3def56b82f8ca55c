import BuildDescriptor.Text.Pieces

/-!
# XML elements

What is left of an XML document once it is read: its elements, with their attributes and with the
character data in front of their first child. Character data behind a child is not kept, and
neither are comments and processing instructions.

Tags and attribute names are *expanded*: a name in a namespace is written `{uri}name`, a name in
none as it is.

## Main definitions

* `Xml.Element`
* `Xml.localName` — an expanded name without its namespace
* `Xml.Element.attribute?`, `Xml.Element.childrenNamed`
-/

namespace BuildDescriptor

namespace Xml

/-- An element. -/
inductive Element
  | mk (tag : String) (attributes : List (String × String)) (text : Option String)
      (children : List Element)
deriving Repr, Inhabited

/-- What follows the last brace of an expanded name. -/
def localName (tag : String) : String :=
  (Text.splitAt '}' tag).getLastD ""

namespace Element

mutual

/-- Whether two elements are the same. -/
def decEq : (a b : Element) → Decidable (a = b)
  | mk tag attributes text children, mk tag' attributes' text' children' =>
    have : Decidable (children = children') := decEqAll children children'
    decidable_of_decidable_of_iff
      (p := tag = tag' ∧ attributes = attributes' ∧ text = text' ∧ children = children')
      (by rw [mk.injEq])

/-- Whether two lists of elements are the same. -/
def decEqAll : (as bs : List Element) → Decidable (as = bs)
  | [], [] => isTrue rfl
  | [], _ :: _ => isFalse nofun
  | _ :: _, [] => isFalse nofun
  | a :: as, b :: bs =>
    have : Decidable (a = b) := decEq a b
    have : Decidable (as = bs) := decEqAll as bs
    decidable_of_decidable_of_iff (p := a = b ∧ as = bs) (by rw [List.cons.injEq])

end

instance : DecidableEq Element := decEq

/-- The expanded name of an element. -/
def tag : Element → String
  | mk tag _ _ _ => tag

/-- The attributes, by expanded name. -/
def attributes : Element → List (String × String)
  | mk _ attributes _ _ => attributes

/-- The character data in front of the first child, if there is any. -/
def text : Element → Option String
  | mk _ _ text _ => text

/-- The child elements, in order. -/
def children : Element → List Element
  | mk _ _ _ children => children

/-- The name of an element without its namespace. -/
def localName (e : Element) : String := Xml.localName e.tag

/-- The character data, empty if there is none. -/
def content (e : Element) : String := e.text.getD ""

/-- The value of an attribute. -/
def attribute? (e : Element) (name : String) : Option String :=
  e.attributes.lookup name

/-- The children with a name, in any namespace. -/
def childrenNamed (e : Element) (name : String) : List Element :=
  e.children.filter fun child => child.localName = name

end Element

end Xml

end BuildDescriptor
