import BuildDescriptor.Import
import BuildDescriptor.Platform.Builtin
import BuildDescriptor.Platform.Override

/-!
# Sessions

A session has an active profile, and the units that were imported in its course. Choosing a profile
or changing it by a file leaves the units alone, and importing leaves the profile alone: it only
adds units at the end.

## Main definitions

* `Session`, `Session.start` — a session with a built-in profile
* `Session.select`, `Session.selectKind` — choosing a built-in profile
* `Session.loadPlatformFile` — changing the active profile
* `Session.importFrom` — adding the units of a descriptor
* `Session.profileOf` — the profile that a unit is compiled for
-/

namespace BuildDescriptor

/-- The active profile, and the units imported so far. -/
structure Session where
  profile : Platform.Profile
  units : List CompileUnit := []

namespace Session

/-- A session that starts with the profile of a kind. -/
def start [Platform.Machine] (kind : Platform.Kind) : Except Platform.Unsupported Session :=
  match Platform.builtin? kind with
  | some p => .ok { profile := p }
  | none => .error (.noProfile kind)

/-- Make the profile with a name the active one. -/
def select [Platform.Machine] (s : Session) (name : String) : Logged (Bool × Session) :=
  match Platform.named? name with
  | some p => ⟨(true, { s with profile := p }), []⟩
  | none => ⟨(false, s), [.platformUnsupported name]⟩

/-- How the log names a kind that has no profile. -/
def kindLabel (kind : Platform.Kind) : String :=
  "PlatformType." ++ kind.name.toUpper

/-- Make the profile of a kind the active one. -/
def selectKind [Platform.Machine] (s : Session) (kind : Platform.Kind) :
    Logged (Bool × Session) :=
  match Platform.builtin? kind with
  | some p => ⟨(true, { s with profile := p }), []⟩
  | none => ⟨(false, s), [.platformUnsupported (kindLabel kind)]⟩

/-- Change the active profile by a platform file. -/
def loadPlatformFile (s : Session) (fs : FileSystem) (path : Path) :
    Except Fault (Logged (Bool × Session)) := do
  let loaded ← s.profile.loadFile fs path
  match loaded.value with
  | .ok p => return ⟨(true, { s with profile := p }), loaded.log⟩
  | .error e => return ⟨(false, s), loaded.log ++ [.platformFileRejected e]⟩

/-- Add the units of a descriptor. -/
def importFrom [Json.Capacity] (s : Session) (fs : FileSystem) (r : Condition.Rule)
    (path : Path) : Except Fault (Logged (List CompileUnit × Session)) := do
  let imported ← importDescriptor fs r path
  return ⟨(imported.value, { s with units := s.units ++ imported.value }), imported.log⟩

/-- The profile that a unit is compiled for. -/
def profileOf [Platform.Machine] (s : Session) (u : CompileUnit) : Platform.Profile :=
  match u.platform with
  | none => s.profile
  | some kind =>
    if kind = s.profile.kind then s.profile else (Platform.builtin? kind).getD s.profile

end Session

end BuildDescriptor
