import BuildDescriptor.Platform.Kind

/-!
# Build variants

A project is built in several variants. Each pairs a configuration, such as `Debug`, with a
platform, such as `Win32`.

## Main definitions

* `Variant`
* `Variant.kind?` — the kind of platform that a variant is built for
* `Axis`, `Variant.value` — the two halves of a variant
-/

namespace BuildDescriptor

/-- A configuration and a platform. -/
structure Variant where
  configuration : String
  platform : String
deriving DecidableEq, Repr

/-- The two halves of a variant. -/
inductive Axis
  | configuration
  | platform
deriving DecidableEq, Repr

namespace Variant

/-- One half of a variant. -/
def value (v : Variant) : Axis → String
  | .configuration => v.configuration
  | .platform => v.platform

/-- The kind of platform that a variant is built for, if its platform is a known one. -/
def kind? (v : Variant) : Option Platform.Kind :=
  if v.platform = "Win32" then some .win32W
  else if v.platform = "x64" then some .win64
  else none

end Variant

end BuildDescriptor
