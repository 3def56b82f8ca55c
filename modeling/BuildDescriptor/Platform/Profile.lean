import BuildDescriptor.Platform.Kind

/-!
# Platform profiles

A profile gives the layout of the primitive types on a platform: the size of each type in bytes,
the number of bits in a byte, and whether a plain `char` has a sign. Code has to be analysed with
the layout of its target and not with that of the machine that analyses it.

Sizes are integers without further conditions. A platform file may state any number, and what it
states is kept.

## Main definitions

* `Platform.Size` — the types that have a size
* `Platform.Profile` — sizes, bits per byte, sign of `char`
* `Platform.windowsSize`, `Platform.unix32Size`, `Platform.unix64Size` — sizes that are well known
-/

namespace BuildDescriptor

namespace Platform

/-- The types whose size a profile gives. -/
inductive Size
  | bool
  | short
  | int
  | long
  | longLong
  | float
  | double
  | longDouble
  | wchar
  | sizeType
  | pointer
deriving DecidableEq, Repr

/-- All types with a size. -/
def Size.all : List Size :=
  [.bool, .short, .int, .long, .longLong, .float, .double, .longDouble, .wchar, .sizeType, .pointer]

/-- Whether a plain `char` has a sign. -/
inductive CharSign
  | signed
  | unsigned
  | unspecified
deriving DecidableEq, Repr

/-- The letter for a sign, empty if there is none. -/
def CharSign.letter : CharSign → String
  | signed => "s"
  | unsigned => "u"
  | unspecified => ""

/-- The layout of the primitive types on a platform. -/
structure Profile where
  kind : Kind
  /-- The size of each type, in bytes. -/
  size : Size → Int
  sign : CharSign := .unspecified
  /-- The number of bits in a byte. -/
  charBits : Int := 8

namespace Profile

/-- The name of the profile's kind. -/
def name (p : Profile) : String := p.kind.name

/-- The size of a type in bits. -/
def bits (p : Profile) (t : Size) : Int := p.charBits * p.size t

/-- The profile with another size for one type. -/
def setSize (p : Profile) (t : Size) (bytes : Int) : Profile :=
  { p with size := fun t' => if t' = t then bytes else p.size t' }

end Profile

/-! ### Well-known sizes -/

/-- The sizes on a Windows platform, where only the pointer differs. -/
def windowsSize (pointer : Int) : Size → Int
  | .bool => 1
  | .short => 2
  | .int => 4
  | .long => 4
  | .longLong => 8
  | .float => 4
  | .double => 8
  | .longDouble => 8
  | .wchar => 2
  | .sizeType => pointer
  | .pointer => pointer

/-- The sizes on a 32-bit Unix platform. -/
def unix32Size : Size → Int
  | .bool => 1
  | .short => 2
  | .int => 4
  | .long => 4
  | .longLong => 8
  | .float => 4
  | .double => 8
  | .longDouble => 12
  | .wchar => 4
  | .sizeType => 4
  | .pointer => 4

/-- The sizes on a 64-bit Unix platform. -/
def unix64Size : Size → Int
  | .bool => 1
  | .short => 2
  | .int => 4
  | .long => 8
  | .longLong => 8
  | .float => 4
  | .double => 8
  | .longDouble => 16
  | .wchar => 4
  | .sizeType => 8
  | .pointer => 8

end Platform

end BuildDescriptor
