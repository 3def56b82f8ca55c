import BuildDescriptor.Platform.Host

/-!
# Built-in profiles

Every kind of platform but `custom` has a profile. Five of them are written down; the other two,
`native` and `unspecified`, have the layout of the machine that runs the analysis. Which machine
this is is a parameter of everything that follows, so nothing depends on it by accident.

## Main definitions

* `Platform.Machine` — the machine that runs the analysis
* `Platform.builtin?`, `Platform.builtins` — the profile of a kind, all profiles
* `Platform.named?` — the profile with a name
* `Platform.defaultKind` — the platform that is analysed for unless another one is chosen
-/

namespace BuildDescriptor

namespace Platform

/-- The machine that runs the analysis. -/
class Machine where
  host : Host
  /-- No type is empty. -/
  one_le_size : ∀ t, 1 ≤ host.size t

/-- A 64-bit Unix machine. -/
instance Machine.standard : Machine where
  host := { machine := "x86_64", system := "linux", size := unix64Size }
  one_le_size t := by cases t <;> decide

variable [Machine]

/-- The profile that is built in for a kind. -/
def builtin? : Kind → Option Profile
  | .unspecified => some (Machine.host.profile .unspecified .unspecified)
  | .native => some (Machine.host.profile .native Machine.host.charSign)
  | .win32A => some { kind := .win32A, size := windowsSize 4 }
  | .win32W => some { kind := .win32W, size := windowsSize 4 }
  | .win64 => some { kind := .win64, size := windowsSize 8 }
  | .unix32 => some { kind := .unix32, size := unix32Size }
  | .unix64 => some { kind := .unix64, size := unix64Size }
  | .custom => none

/-- The profiles that are built in, in the order in which they are listed. -/
def builtins : List Profile := Kind.all.filterMap builtin?

/-- The built-in profile with a name. -/
def named? (name : String) : Option Profile :=
  (Kind.ofName? name).bind builtin?

theorem kind_of_builtin? {k : Kind} {p : Profile} (h : builtin? k = some p) : p.kind = k := by
  cases k <;> simp [builtin?] at h <;> subst h <;> rfl

theorem builtin?_eq_none_iff {k : Kind} : builtin? k = none ↔ k = .custom := by
  cases k <;> simp [builtin?]

/-- The platform that is analysed for by default. -/
def defaultKind : Kind := Machine.host.defaultKind

end Platform

end BuildDescriptor
