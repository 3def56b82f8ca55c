import BuildDescriptor.Text.Blank

/-!
# Kinds of platform

The identity of a platform profile. Every kind but `custom` names a profile that is built in;
`custom` marks a profile that a platform file has changed.

## Main definitions

* `Platform.Kind`, `Platform.Kind.name`
* `Platform.Kind.ofName?`, `Platform.Kind.ofName` — the kind with a name, in any letter case
* `Platform.Unsupported` — why there is no kind, or no profile
-/

namespace BuildDescriptor

namespace Platform

/-- The identity of a platform profile. -/
inductive Kind
  | unspecified
  | native
  | win32A
  | win32W
  | win64
  | unix32
  | unix64
  | custom
deriving DecidableEq, Repr, Inhabited

namespace Kind

/-- All kinds, in the order in which they are listed. -/
def all : List Kind :=
  [.unspecified, .native, .win32A, .win32W, .win64, .unix32, .unix64, .custom]

/-- The name by which a kind is chosen. -/
def name : Kind → String
  | unspecified => "unspecified"
  | native => "native"
  | win32A => "win32A"
  | win32W => "win32W"
  | win64 => "win64"
  | unix32 => "unix32"
  | unix64 => "unix64"
  | custom => "custom"

/-- The kind with a name, blanks around it and letter case aside. Letters are folded within ASCII:
no other character has a letter of these names as its lower case. -/
def ofName? (name : String) : Option Kind :=
  all.find? fun k => k.name.toLower == (Text.strip name).toLower

theorem mem_all (k : Kind) : k ∈ all := by
  cases k <;> decide

end Kind

/-- Why there is no kind, or no profile. -/
inductive Unsupported
  | unknownName (name : String)
  | noProfile (kind : Kind)
deriving DecidableEq, Repr

namespace Unsupported

/-- The kind of this error, as it is reported. -/
def kind : String := "UnsupportedPlatformError"

/-- The wording of the error. -/
def message : Unsupported → String
  | unknownName name => "Unsupported platform: " ++ name
  | noProfile kind => "No built-in profile for " ++ kind.name

end Unsupported

/-- The kind with a name, or why there is none. -/
def Kind.ofName (name : String) : Except Unsupported Kind :=
  match ofName? name with
  | some k => .ok k
  | none => .error (.unknownName name)

end Platform

end BuildDescriptor
