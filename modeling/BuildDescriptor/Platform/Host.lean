import BuildDescriptor.Platform.Profile

/-!
# The analysing machine

The layout of the machine that runs the analysis stands in where no target is named. What it is
can be told from three things: the name of its architecture, the name of its operating system, and
the sizes of its primitive types.

## Main definitions

* `Platform.Host` — a description of a machine
* `Platform.Host.charSign`, `Platform.Host.defaultKind`, `Platform.Host.profile` — what follows
-/

namespace BuildDescriptor

namespace Platform

/-- A machine that analyses code. -/
structure Host where
  /-- The architecture, such as `x86_64`. -/
  machine : String
  /-- The operating system, such as `linux` or `win32`. -/
  system : String
  size : Size → Int

namespace Host

/-- What the name of an architecture begins with if its usual conventions leave `char` unsigned. -/
def unsignedMachines : List String :=
  ["arm", "aarch64", "ppc", "powerpc", "s390", "riscv"]

/-- The sign of `char`. Windows and Darwin have a signed `char` on every architecture. -/
def charSign (h : Host) : CharSign :=
  if h.system = "win32" || h.system = "darwin" then .signed
  else if unsignedMachines.any fun start => start.toList.isPrefixOf h.machine.toLower.toList then
    .unsigned
  else .signed

/-- The platform that is analysed for unless another one is chosen. -/
def defaultKind (h : Host) : Kind :=
  if h.system = "win32" then
    if h.size .pointer = 8 then .win64 else .win32A
  else .native

/-- The layout of the machine itself. -/
def profile (h : Host) (kind : Kind) (sign : CharSign) : Profile where
  kind := kind
  size := h.size
  sign := sign

end Host

end Platform

end BuildDescriptor
