import BuildDescriptor.Xml.Entity

/-!
# Document type declarations

A document may declare its type before the root element, with declarations of entities, elements,
attributes and notations in brackets. Nothing checks a document against its type. What matters is
that the declarations are well formed, the entities they define, and the attributes for which they
give a type or a default value.

Declarations that stand outside of the document are never read. Once a reference has been made to
one, later declarations are not binding, unless the document stands alone.

Names are read less strictly than in the tags of the document: what follows a colon may start with
any character of a name.

## Main definitions

* `Xml.AttributeRule` — what is declared for an attribute
* `Xml.Doctype` — what a document declares
* `Xml.Scan.doctype` — the declaration of a document's type
-/

namespace BuildDescriptor

namespace Xml

/-- What is declared for an attribute of an element. -/
structure AttributeRule where
  element : String
  name : QName
  /-- The value is a list of words. -/
  isWords : Bool
  default? : Option (List Char)

/-- What a document declares. -/
structure Doctype where
  entities : List (String × Option (List Char)) := []
  rules : List AttributeRule := []
  /-- The document refers to declarations outside of it. -/
  refersOutside : Bool := false
  /-- Declarations are still binding. -/
  binding : Bool := true
  standalone : Bool := false

namespace Doctype

/-- The declared entities. -/
def table (d : Doctype) : Entities :=
  ⟨d.entities, d.refersOutside && !d.standalone⟩

/-- Declare an entity. The first declaration of a name is the one that counts. -/
def addEntity (d : Doctype) (name : String) (text : Option (List Char)) : Doctype :=
  if d.binding && (d.entities.lookup name).isNone && (Scan.predefined? name).isNone then
    { d with entities := d.entities ++ [(name, text)] }
  else d

/-- What is declared for an attribute of an element. -/
def rule? (d : Doctype) (element : String) (name : QName) : Option AttributeRule :=
  d.rules.find? fun rule => rule.element = element && rule.name = name

/-- Declare an attribute. The first declaration for an element is the one that counts, be it without
a default value. -/
def addRule (d : Doctype) (rule : AttributeRule) : Doctype :=
  if d.binding && (d.rule? rule.element rule.name).isNone then
    { d with rules := d.rules ++ [rule] }
  else d

/-- Note a reference to declarations that are not read. -/
def referOutside (d : Doctype) : Doctype :=
  { d with refersOutside := true, binding := d.binding && d.standalone }

end Doctype

namespace Scan

/-! ### Parts of a declaration -/

/-- A name in a declaration. What follows the colon need not start like a name. -/
def declaredName : Scan QName := do
  let first ← ncName
  if ← hasWord ":" then
    let second ← run (← get).alphabet.isNameChar
    if second.isEmpty then failure
    return ⟨some first, String.ofList second⟩
  else return ⟨none, first⟩

/-- The text of an entity as it is kept: characters given by number are replaced, references to
entities stay. -/
def entityText : Nat → Scan (List Char)
  | 0 => return []
  | rounds + 1 => do
    if ← atEnd then return []
    let first ← item
    let others ← entityText rounds
    return first ++ others
where
  /-- One item of the text. -/
  item : Scan (List Char) := do
    if ← hasWord "%" then failure
    else if ← hasWord "&" then
      match ← reference with
      | .character c => return [c]
      | .entity name => return '&' :: name.toList ++ [';']
    else run fun c => c ≠ '%' && c ≠ '&'

/-- A character of a public identifier. -/
def isPublicChar (c : Char) : Bool :=
  c.isAlphanum || c == ' ' || c == '\n' || c == '\r' || "-'()+,./:=?;!*#@$_%".toList.contains c

/-- A public identifier. -/
def publicLiteral : Scan Unit := do
  let text ← literal
  if !text.all isPublicChar then failure

/-- The place of something outside of the document, if one is given. -/
def externalId : Scan Bool := do
  if ← hasWord "SYSTEM" then
    someSpaces
    let _ ← literal
    return true
  else if ← hasWord "PUBLIC" then
    someSpaces
    publicLiteral
    someSpaces
    let _ ← literal
    return true
  else return false

/-- The closing bracket of a declaration, after any spaces. -/
def closing : Scan Unit := do
  spaces
  word ">"

/-! ### The declarations -/

/-- The declaration of an entity, from behind its keyword. -/
def entityDeclaration (d : Doctype) : Scan Doctype := do
  someSpaces
  let isParameter ← hasWord "%"
  if isParameter then someSpaces
  let name ← ncName
  someSpaces
  if ← externalId then
    let hadSpaces := !(← run isSpace).isEmpty
    if hadSpaces && !isParameter then
      if ← hasWord "NDATA" then
        someSpaces
        let _ ← ncName
    closing
    return if isParameter then d else d.addEntity name none
  else
    let text ← literal
    let text ← if d.binding then allOf (← get).alphabet text (entityText text.length) else pure text
    closing
    return if isParameter then d else d.addEntity name (some text)

/-- A mark of repetition. -/
def repetition : Scan Unit := ofList fun cs =>
  match cs with
  | '?' :: rest => some ((), rest)
  | '*' :: rest => some ((), rest)
  | '+' :: rest => some ((), rest)
  | _ => some ((), cs)

/-- The names that may stand beside text, from behind the keyword for text. -/
def mixedNames : Nat → Bool → Scan Unit
  | 0, _ => failure
  | rounds + 1, hasNames => do
    spaces
    if ← hasWord ")" then
      let starred ← hasWord "*"
      if hasNames && !starred then failure
    else
      word "|"
      spaces
      let _ ← declaredName
      mixedNames rounds true

/-- The rest of nested groups of elements. For each open group it is told which separator the group
uses, if it has used one already. -/
def groups : Nat → List (Option Char) → Scan Unit
  | 0, _ => failure
  | _ + 1, [] => return
  | rounds + 1, separator :: outer => do
    spaces
    if ← hasWord "(" then groups rounds (none :: separator :: outer)
    else
      let _ ← declaredName
      repetition
      afterItem rounds separator outer
where
  /-- What follows an item of a group: the end of the group, or a separator and another item. -/
  afterItem : Nat → Option Char → List (Option Char) → Scan Unit
    | 0, _, _ => failure
    | rounds + 1, separator, outer => do
      spaces
      let c ← char
      if c = ')' then
        repetition
        match outer with
        | [] => return
        | next :: outer => afterItem rounds next outer
      else if (c = ',' || c = '|') && (separator.isNone || separator = some c) then
        groups rounds (some c :: outer)
      else failure

/-- The declaration of an element, from behind its keyword. -/
def elementDeclaration : Scan Unit := do
  someSpaces
  let _ ← declaredName
  someSpaces
  if ← hasWord "EMPTY" then closing
  else if ← hasWord "ANY" then closing
  else
    word "("
    spaces
    if ← hasWord "#PCDATA" then
      mixedNames (← remaining) false
      closing
    else
      groups (2 * (← remaining)) [none]
      closing

/-- The alternatives of an enumeration, from behind its parenthesis. -/
def alternatives (name : Scan Unit) : Nat → Scan Unit
  | 0 => failure
  | rounds + 1 => do
    spaces
    name
    spaces
    if ← hasWord ")" then return
    word "|"
    alternatives name rounds

/-- A word that need not start like a name. -/
def nmToken : Scan Unit := do
  let letters := (← get).alphabet
  let cs ← run fun c => letters.isNameChar c || c == ':'
  if cs.isEmpty then failure

/-- The type of an attribute; the value tells whether it is a list of words. -/
def attributeType : Scan Bool := do
  if ← hasWord "(" then
    alternatives nmToken (← remaining)
    return true
  let name ← ncName
  if name = "CDATA" then return false
  else if name = "NOTATION" then
    someSpaces
    word "("
    alternatives (do let _ ← ncName) (← remaining)
    return true
  else if ["ID", "IDREF", "IDREFS", "ENTITY", "ENTITIES", "NMTOKEN", "NMTOKENS"].contains name then
    return true
  else failure

/-- The default of an attribute. -/
def attributeDefault (d : Doctype) (isWords : Bool) : Scan (Option (List Char)) := do
  if ← hasWord "#REQUIRED" then return none
  else if ← hasWord "#IMPLIED" then return none
  else
    if ← hasWord "#FIXED" then someSpaces
    let text ← literal
    if d.binding then
      let text ← d.table.attributeText text
      return some (if isWords then collapseSpaces text else text)
    else return none

/-- The attributes in a declaration, from behind the name of their element. -/
def attributeRules (element : String) : Nat → Doctype → Scan Doctype
  | 0, _ => failure
  | rounds + 1, d => do
    let hadSpaces := !(← run isSpace).isEmpty
    if ← hasWord ">" then return d
    if !hadSpaces then failure
    let name ← declaredName
    someSpaces
    let isWords ← attributeType
    someSpaces
    let default? ← attributeDefault d isWords
    attributeRules element rounds (d.addRule ⟨element, name, isWords, default?⟩)

/-- The declaration of attributes, from behind its keyword. -/
def attributeDeclaration (d : Doctype) : Scan Doctype := do
  someSpaces
  let element ← declaredName
  attributeRules element.text (← remaining) d

/-- The declaration of a notation, from behind its keyword. -/
def notationDeclaration : Scan Unit := do
  someSpaces
  let _ ← ncName
  someSpaces
  if ← hasWord "SYSTEM" then
    someSpaces
    let _ ← literal
    closing
  else
    word "PUBLIC"
    someSpaces
    publicLiteral
    let hadSpaces := !(← run isSpace).isEmpty
    if ← hasWord ">" then return
    if !hadSpaces then failure
    let _ ← literal
    closing

/-- The declarations between the brackets, from behind the first bracket. -/
def declarations : Nat → Doctype → Scan Doctype
  | 0, _ => failure
  | rounds + 1, d => do
    spaces
    if ← hasWord "]" then return d
    else if ← hasWord "<!--" then
      comment
      declarations rounds d
    else if ← hasWord "<?" then
      instruction
      declarations rounds d
    else if ← hasWord "%" then
      let _ ← ncName
      word ";"
      declarations rounds d.referOutside
    else if ← hasWord "<!ENTITY" then declarations rounds (← entityDeclaration d)
    else if ← hasWord "<!ELEMENT" then
      elementDeclaration
      declarations rounds d
    else if ← hasWord "<!ATTLIST" then declarations rounds (← attributeDeclaration d)
    else if ← hasWord "<!NOTATION" then
      notationDeclaration
      declarations rounds d
    else failure

/-- The declaration of a document's type, from behind its keyword. -/
def doctype (standalone : Bool) : Scan Doctype := do
  someSpaces
  let _ ← declaredName
  let hadSpaces := !(← run isSpace).isEmpty
  let isExternal ← if hadSpaces then externalId else pure false
  spaces
  let d : Doctype := { standalone := standalone, refersOutside := isExternal }
  let d ← if ← hasWord "[" then declarations (← remaining) d else pure d
  closing
  return d

end Scan

end Xml

end BuildDescriptor
