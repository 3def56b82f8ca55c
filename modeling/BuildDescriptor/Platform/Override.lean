import BuildDescriptor.Notice
import BuildDescriptor.Platform.Profile
import BuildDescriptor.Text.Integer

/-!
# Platform files

A platform file changes some fields of a profile:

```
<platform>
  <char_bit>8</char_bit>
  <default-sign>u</default-sign>
  <sizeof>
    <int>2</int>
    <pointer>2</pointer>
  </sizeof>
</platform>
```

Elements of other names are passed over, and so are those of these names whose text is no integer,
or no sign; the latter with a notice. Each element that is left sets its field, in the order of the
document, so the last one for a field counts, and a field without any keeps its value.

## Main definitions

* `Platform.Setting`, `Platform.Setting.apply` — setting one field
* `Platform.settings` — what the root element of a platform file sets, and what it fails to set
* `Platform.Profile.override` — the changed profile
* `Platform.Profile.loadFile` — the profile changed by a file
-/

namespace BuildDescriptor

namespace Platform

/-- A value for one field of a profile. -/
inductive Setting
  | sign (s : CharSign)
  | charBits (n : Int)
  | size (t : Size) (n : Int)
deriving DecidableEq, Repr

/-- The profile with the field set. -/
def Setting.apply (p : Profile) : Setting → Profile
  | sign s => { p with sign := s }
  | charBits n => { p with charBits := n }
  | size t n => p.setSize t n

/-! ### Elements -/

/-- The type whose size an element gives. -/
def Size.ofTag? (tag : String) : Option Size :=
  if tag = "bool" then some .bool
  else if tag = "short" then some .short
  else if tag = "int" then some .int
  else if tag = "long" then some .long
  else if tag = "long-long" then some .longLong
  else if tag = "float" then some .float
  else if tag = "double" then some .double
  else if tag = "long-double" then some .longDouble
  else if tag = "pointer" then some .pointer
  else if tag = "size_t" then some .sizeType
  else if tag = "wchar_t" then some .wchar
  else none

/-- The sign that a text begins with, blanks in front of it aside. -/
def CharSign.ofText? (text : String) : Option CharSign :=
  match (Text.strip text).toList with
  | 's' :: _ => some .signed
  | 'u' :: _ => some .unsigned
  | _ => none

/-- The sign that an element gives. -/
def signSetting (path : Path) (e : Xml.Element) : Except Notice Setting :=
  match CharSign.ofText? e.content with
  | some s => .ok (.sign s)
  | none => .error (.signIgnored path e.text)

/-- The number that an element gives, for the field that is set to it. -/
def numberSetting (path : Path) (field : Int → Setting) (e : Xml.Element) :
    Except Notice Setting :=
  match Text.readInteger? (Text.strip e.content) with
  | some n => .ok (field n)
  | none => .error (.numberIgnored path e.tag (Text.strip e.content))

/-- What a child of the root element sets, or fails to set. -/
def childSettings (path : Path) (e : Xml.Element) : List (Except Notice Setting) :=
  if e.tag = "default-sign" then [signSetting path e]
  else if e.tag = "char_bit" then [numberSetting path .charBits e]
  else if e.tag = "sizeof" then
    e.children.filterMap fun child =>
      (Size.ofTag? child.tag).map fun t => numberSetting path (.size t) child
  else []

/-- What a root element sets, and what it fails to set, in the order of the document. -/
def settings (path : Path) (root : Xml.Element) : List (Except Notice Setting) :=
  root.children.flatMap (childSettings path)

/-! ### Profiles -/

/-- The profile after some settings, of which those that failed count for nothing. -/
def Profile.applyAll (p : Profile) (found : List (Except Notice Setting)) : Profile :=
  found.foldl (fun p s => match s with
    | .ok s => s.apply p
    | .error _ => p) p

/-- The notices of the settings that failed. -/
def noticesOf (found : List (Except Notice Setting)) : List Notice :=
  found.filterMap fun s => match s with
    | .ok _ => none
    | .error n => some n

/-- The profile as the root element of a platform file changes it. -/
def Profile.override (p : Profile) (path : Path) (root : Xml.Element) : Profile :=
  { p.applyAll (settings path root) with kind := .custom }

/-- The profile as a platform file changes it. -/
def Profile.loadFile (p : Profile) (fs : FileSystem) (path : Path) :
    Except Fault (Logged (Except PlatformFileError Profile)) := do
  match ← Xml.readFile fs path with
  | .error reason => return ⟨.error (.unreadable path reason), []⟩
  | .ok root =>
    if root.tag = "platform" then
      return ⟨.ok (p.override path root), noticesOf (settings path root)⟩
    else return ⟨.error (.wrongRoot path root.tag), []⟩

end Platform

end BuildDescriptor
