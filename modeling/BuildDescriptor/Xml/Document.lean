import BuildDescriptor.Xml.Assembly
import BuildDescriptor.Xml.Source

/-!
# XML documents

A document is one element. Comments, processing instructions and spaces may stand before and behind
it, and a declaration of the document's type before it.

## Main definitions

* `Xml.Scan.document` — the events of a document
* `Xml.parse` — the root element of a document that is given as bytes
-/

namespace BuildDescriptor

namespace Xml

namespace Scan

/-- Comments, processing instructions and spaces. -/
def surroundings : Nat → Scan Unit
  | 0 => return
  | rounds + 1 => do
    spaces
    if ← hasWord "<!--" then
      comment
      surroundings rounds
    else if ← hasWord "<?" then
      instruction
      surroundings rounds

/-- The events of a document. -/
def document (standalone : Bool) : Scan (List Event) := do
  surroundings (← remaining)
  let d ← if ← hasWord "<!DOCTYPE" then doctype standalone else pure { standalone := standalone }
  surroundings (← remaining)
  word "<"
  let events ← root d
  surroundings (← remaining)
  if ← atEnd then return events else failure

end Scan

namespace Source

/-- What a reader of the document has in front of it. -/
def input (s : Source) : Input := ⟨s.text, s.alphabet, { size := s.size, widths := s.widths }⟩

/-- The root element of a document. What has taken the place of names has to be covered at the end,
too. -/
def root? (s : Source) : Option Element := do
  let (events, last) ← Scan.document s.standalone s.input
  if last.account.isCovered 0 then assemble [] events else none

end Source

/-- The root element of a document that is given as bytes. -/
def parse (bytes : List UInt8) : Except Failure Element := do
  let s ← Source.ofBytes bytes
  match s.root? with
  | some e => return e
  | none => .error .malformed

end Xml

end BuildDescriptor
