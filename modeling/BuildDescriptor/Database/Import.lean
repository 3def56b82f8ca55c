import BuildDescriptor.Database.Record
import BuildDescriptor.Json.Salvage
import BuildDescriptor.Text.Newline

/-!
# Importing a compilation database

A compilation database is a JSON array of records. Records that cannot be used are passed over, each
with a notice. If the text is no JSON at all, the complete objects in it take the place of the
array; if it is JSON but no array, there are no records.

## Main definitions

* `Database.textOf` — the text in a file
* `Database.records` — the records in a text
* `Database.unitsOf` — the units of some records
* `Database.importText` — the units of a text
-/

namespace BuildDescriptor

namespace Database

/-- The text in a file: UTF-8, with all line ends made line feeds. -/
def textOf (bytes : ByteArray) : Except StreamFault String :=
  match String.fromUTF8? bytes with
  | some text => .ok (String.ofList (Text.unifyNewlines text.toList))
  | none => .error .undecodable

/-- A failure to read JSON that is not the text's fault. -/
def faultOf : Json.Failure → Option Fault
  | .malformed => none
  | .tooDeep container => some (.deepNesting container)
  | .longInteger digits => some (.longInteger digits)

/-- The objects in a text that is no JSON, with the notice of it. -/
def salvaged [Json.Capacity] (text : String) : Except Fault (Logged (Option (List Json))) :=
  match Json.objectsIn text with
  | .ok found => .ok ⟨some found, [.databaseMalformed found.length]⟩
  | .error failure =>
    match faultOf failure with
    | some fault => .error fault
    | none => .ok ⟨some [], [.databaseMalformed 0]⟩

/-- The records in a text, or none if it is no array. -/
def records [Json.Capacity] (text : String) : Except Fault (Logged (Option (List Json))) :=
  match Json.decode text with
  | .ok (.array items) => .ok ⟨some items, []⟩
  | .ok _ => .ok ⟨none, [.databaseNoArray]⟩
  | .error failure =>
    match faultOf failure with
    | some fault => .error fault
    | none => salvaged text

/-- What becomes of each record. -/
def outcomes (found : List Json) : List (Except Notice CompileUnit) :=
  found.zipIdx.map fun item => unitOf item.2 item.1

/-- The units of some records, in order. -/
def unitsOf (found : List Json) : List CompileUnit :=
  (outcomes found).filterMap Except.toOption

/-- The notices of the records that have no unit. -/
def skipped (found : List Json) : List Notice :=
  (outcomes found).filterMap fun o => match o with
    | .ok _ => none
    | .error n => some n

/-- The units of a compilation database, given its text or why there is none. -/
def importText [Json.Capacity] (source : Except StreamFault String) :
    Except Fault (Logged (List CompileUnit)) := do
  match source with
  | .error fault => return ⟨[], [.databaseUnreadable fault]⟩
  | .ok text =>
    let found ← records text
    match found.value with
    | none => return ⟨[], found.log⟩
    | some rs =>
      let units := unitsOf rs
      return ⟨units, found.log ++ skipped rs ++ [.databaseImported units.length rs.length]⟩

end Database

end BuildDescriptor
