import BuildDescriptor.CompileUnit
import BuildDescriptor.Fault
import BuildDescriptor.Json.Writer
import BuildDescriptor.Platform.Profile

/-!
# How units and profiles are shown

A unit is shown as a block of lines, a profile as a row of a table in which the active one is
marked, and a list of units also as a JSON array.

## Main definitions

* `CompileUnit.block`, `CompileUnit.toJson` — a unit
* `Report.unitsJson` — a list of units
* `Platform.Profile.row`, `Report.table` — a profile, a table of profiles
-/

namespace BuildDescriptor

/-! ### Units -/

namespace CompileUnit

/-- The lines that show a unit. -/
def lines (u : CompileUnit) : List String :=
  let platform := match u.platform with
    | some kind => kind.name
    | none => "(active)"
  let undefs := if u.undefs.toList.isEmpty then []
    else ["  undefs:   " ++ ", ".intercalate u.undefs.toList]
  [u.file, "  platform: " ++ platform, "  defines:  " ++ u.definesText] ++ undefs ++
    u.includes.map ("  include:  " ++ ·)

/-- A unit as a block of lines, without an end for the last one. -/
def block (u : CompileUnit) : String := "\n".intercalate u.lines

/-- A unit as a JSON object. -/
def toJson (u : CompileUnit) : Json :=
  .object [
    ("file", .string u.file),
    ("defines", .array (u.defines.map .string)),
    ("undefs", .array (u.undefs.toList.map .string)),
    ("include_paths", .array (u.includes.map .string)),
    ("platform", match u.platform with
      | some kind => .string kind.name
      | none => .null)]

end CompileUnit

namespace Report

/-- A list of units as the text of a JSON array. -/
def unitsJson (units : List CompileUnit) : String :=
  (Json.array (units.map CompileUnit.toJson)).render

/-! ### Profiles -/

/-- A text filled up with spaces on the right. -/
def padRight (width : Nat) (s : String) : String :=
  String.ofList (s.toList ++ List.replicate (width - s.toList.length) ' ')

/-- A number in decimal digits. As when numbers are read, there is a bound on their length. -/
def numeral (n : Int) : Except Fault String :=
  if Text.maxDigits < (Nat.toDigits 10 n.natAbs).length then .error .longNumeral
  else .ok (toString n)

end Report

/-- The row that shows a profile. -/
def Platform.Profile.row (p : Profile) (isActive : Bool) : Except Fault String := do
  let marker := if isActive then "*" else " "
  let sign := if p.sign.letter = "" then "-" else p.sign.letter
  let short ← Report.numeral (p.bits .short)
  let int ← Report.numeral (p.bits .int)
  let long ← Report.numeral (p.bits .long)
  let longLong ← Report.numeral (p.bits .longLong)
  let pointer ← Report.numeral (p.size .pointer)
  return marker ++ " " ++ Report.padRight 12 p.name ++ " short=" ++ Report.padRight 3 short ++
    " int=" ++ Report.padRight 3 int ++ " long=" ++ Report.padRight 3 long ++
    " long long=" ++ Report.padRight 3 longLong ++ " pointer=" ++ pointer ++ " sign=" ++ sign

/-- The rows of a table of profiles, without an end for the last one. Every profile of the active
kind is marked. -/
def Report.table (profiles : List Platform.Profile) (active : Platform.Profile) :
    Except Fault String := do
  let rows ← profiles.mapM fun p => p.row (p.kind = active.kind)
  return "\n".intercalate rows

end BuildDescriptor
