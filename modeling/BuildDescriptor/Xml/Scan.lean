import BuildDescriptor.Xml.Name

/-!
# Scanning a document

Readers for the small parts of a document that occur in many places: names, spaces, literals,
comments, processing instructions, references. A reader takes its part off the front of the text,
or fails; why it fails is of no interest, since a document with one fault is malformed as a whole.

A reader may also turn to another text and come back: to one that it has just read, or to the text
that a name in the document stands for. The second kind is limited, because a small document can
otherwise stand for a text of any size. What the limit is depends on how much of the document has
been read when a text takes the place of a name, so a reader keeps an account of bytes.

## Main definitions

* `Xml.Account` — how many bytes a reader has gone through
* `Xml.Input` — what a reader has in front of it
* `Xml.Scan` — a reader
* `Xml.Scan.allOf`, `Xml.Scan.inPlace` — the same reader on another text
* `Xml.QName` — a name with an optional qualifier
* `Xml.Scan.ncName`, `Xml.Scan.qName`, `Xml.Scan.literal`, `Xml.Scan.comment`,
  `Xml.Scan.instruction`, `Xml.Scan.reference` — the parts
-/

namespace BuildDescriptor

namespace Xml

/-- How many bytes a reader has gone through. -/
structure Account where
  /-- The number of bytes of the document. -/
  size : Nat
  /-- The number of bytes of the document that make each character of its text. -/
  widths : List Nat
  /-- What is left of the document, while the reader is in another text. -/
  behind : Option (List Char) := none
  /-- The number of bytes that have taken the place of names. -/
  replaced : Nat := 0
deriving DecidableEq, Repr

namespace Account

/-- The number of bytes of the document in front of its last characters, of which there are so
many. -/
def bytesBefore (a : Account) (left : Nat) : Nat :=
  a.size - (a.widths.drop (a.widths.length - left)).foldl (· + ·) 0

/-- Whether the limit is kept with so many characters of the document left. The bytes of both kinds
have to be less than eight megabytes, or at most a hundred times as many as those of the document.
-/
def isCovered (a : Account) (left : Nat) : Bool :=
  let read := a.bytesBefore left
  read + a.replaced < 8 * 1024 * 1024 || read + a.replaced ≤ 100 * read

end Account

/-- What a reader has in front of it. -/
structure Input where
  rest : List Char
  /-- The letters of names in this text. -/
  alphabet : Alphabet
  account : Account
deriving DecidableEq, Repr

/-- What is left of the document. -/
def Input.document (i : Input) : List Char := i.account.behind.getD i.rest

/-- A reader that takes a value off the front of a text. -/
abbrev Scan := StateT Input Option

/-- A name as it is written, the part before the colon apart. -/
structure QName where
  qualifier : Option String
  base : String
deriving DecidableEq, Repr

/-- The text of a name. -/
def QName.text (q : QName) : String :=
  match q.qualifier with
  | none => q.base
  | some qualifier => qualifier ++ ":" ++ q.base

/-- What an ampersand begins. -/
inductive Reference
  | character (c : Char)
  | entity (name : String)
deriving DecidableEq, Repr

namespace Scan

variable {α : Type}

/-! ### Characters and words -/

/-- A reader given by what it takes off the front of a list of characters. -/
def ofList (f : List Char → Option (α × List Char)) : Scan α := fun i => do
  let (a, rest) ← f i.rest
  return (a, { i with rest := rest })

/-- The number of characters in front of the reader. -/
def remaining : Scan Nat := return (← get).rest.length

/-- Nothing is in front of the reader. -/
def atEnd : Scan Bool := return (← get).rest.isEmpty

/-- The characters up to the first one outside a class. -/
def run (p : Char → Bool) : Scan (List Char) := ofList fun cs =>
  some (cs.takeWhile p, cs.dropWhile p)

/-- A given word. -/
def word (w : String) : Scan Unit := ofList fun cs =>
  if w.toList.isPrefixOf cs then some ((), cs.drop w.toList.length) else none

/-- A given word, if the text begins with it. -/
def hasWord (w : String) : Scan Bool := ofList fun cs =>
  if w.toList.isPrefixOf cs then some (true, cs.drop w.toList.length) else some (false, cs)

/-- One character. -/
def char : Scan Char := ofList fun cs =>
  match cs with
  | [] => none
  | c :: cs => some (c, cs)

/-- Everything through the first occurrence of a word; the value is what stands before it. -/
def upTo (w : String) : Scan (List Char) := ofList go
where
  /-- The search from some place on. -/
  go : List Char → Option (List Char × List Char)
    | [] => none
    | c :: cs =>
      if w.toList.isPrefixOf (c :: cs) then some ([], (c :: cs).drop w.toList.length)
      else (go cs).map fun found => (c :: found.1, found.2)

/-- Any number of spaces. -/
def spaces : Scan Unit := do
  let _ ← run isSpace

/-- At least one space. -/
def someSpaces : Scan Unit := do
  let blanks ← run isSpace
  if blanks.isEmpty then failure

/-! ### Other texts -/

/-- Read all of another text, with the given letters in names, and go on where the reader was. -/
def allOf (alphabet : Alphabet) (text : List Char) (reader : Scan α) : Scan α := do
  let here ← get
  let account := { here.account with behind := some here.document }
  set ({ rest := text, alphabet := alphabet, account := account } : Input)
  let a ← reader
  let there ← get
  if !there.rest.isEmpty then failure
  set { here with account := { there.account with behind := here.account.behind } }
  return a

/-- The number of bytes of a text in UTF-8. -/
def byteCount (text : List Char) : Nat :=
  text.foldl (fun n c => n + c.utf8Size) 0

/-- Read all of the text that a name stands for, if the limit allows it. Only the letters of the
standard are in the names of such a text. -/
def inPlace (text : List Char) (reader : Scan α) : Scan α := do
  let here ← get
  let account := { here.account with replaced := here.account.replaced + byteCount text }
  if !account.isCovered here.document.length then failure
  set { here with account := account }
  allOf .standard text reader

/-! ### Names -/

/-- A name without a colon. -/
def ncName : Scan String := do
  let letters := (← get).alphabet
  let first ← char
  if !letters.isNameStart first then failure
  let others ← run letters.isNameChar
  return String.ofList (first :: others)

/-- A name, qualified or not. -/
def qName : Scan QName := do
  let first ← ncName
  if ← hasWord ":" then
    let second ← ncName
    return ⟨some first, second⟩
  else return ⟨none, first⟩

/-! ### Literals -/

/-- A text between quotes of either kind, which it does not contain. -/
def literal : Scan (List Char) := do
  let quote ← char
  if quote = '"' || quote = '\'' then
    let text ← run (· ≠ quote)
    let _ ← char
    return text
  else failure

/-! ### Comments and processing instructions -/

/-- The rest of a comment, which does not contain two hyphens in a row. -/
def comment : Scan Unit := do
  let _ ← upTo "--"
  word ">"

/-- The rest of a processing instruction. Its target may not be `xml` in any letter case. -/
def instruction : Scan Unit := do
  let target ← ncName
  if target.toLower = "xml" then failure
  if ← hasWord "?>" then return
  someSpaces
  let _ ← upTo "?>"

/-! ### References -/

/-- The value of a digit in a base of at most sixteen. -/
def digitValue? (base : Nat) (c : Char) : Option Nat :=
  let n := c.toNat
  let v := if 0x30 ≤ n && n ≤ 0x39 then n - 0x30
    else if 0x41 ≤ n && n ≤ 0x46 then n - 0x41 + 10
    else if 0x61 ≤ n && n ≤ 0x66 then n - 0x61 + 10
    else 16
  if v < base then some v else none

/-- A character given by its code point in a base, up to the semicolon. -/
def codePoint (base : Nat) : Scan Char := do
  let digits ← run (· ≠ ';')
  word ";"
  if digits.isEmpty then failure
  let values ← (digits.mapM (digitValue? base) : Option (List Nat))
  let code := values.foldl (fun n v => base * n + v) 0
  if code.isValidChar && isDocumentChar (Char.ofNat code) then return Char.ofNat code else failure

/-- A reference, from behind its ampersand. -/
def reference : Scan Reference := do
  if ← hasWord "#" then
    if ← hasWord "x" then return .character (← codePoint 16)
    else return .character (← codePoint 10)
  else
    let name ← ncName
    word ";"
    return .entity name

/-- The character that an entity stands for in every document. -/
def predefined? (name : String) : Option Char :=
  if name = "lt" then some '<'
  else if name = "gt" then some '>'
  else if name = "amp" then some '&'
  else if name = "quot" then some '"'
  else if name = "apos" then some '\''
  else none

end Scan

end Xml

end BuildDescriptor
