import BuildDescriptor.Proofs.Database.Limits
import BuildDescriptor.Proofs.Database.Units
import BuildDescriptor.Proofs.Descriptor.Faults
import BuildDescriptor.Proofs.Path.Characters
import BuildDescriptor.Proofs.Project.ItemList

/-!
# The units of a descriptor

Databases and projects are read in different ways, and what is read into a unit may be any text. But
both kinds of descriptor keep the same rules about it. A unit has a source file, whose name has
slashes in it and no backslashes. Nothing in its lists is empty. And its platform is one of the two
that projects name, or none.

## Main definitions

* `CompileUnit.WellFormed` — these rules
* `Origin` — what a unit of a descriptor is made from

## Main results

* `CompileUnit.wellFormed_ofCommand` — the unit of a command
* `Project.wellFormed_unitOf` — the unit of a source file in a variant
* `origin_of_importDescriptor` — no unit has another origin
* `wellFormed_of_importDescriptor` — every unit that a descriptor lists
-/

namespace BuildDescriptor

variable {u : CompileUnit}

/-- What is true of a unit, whatever it was read from. -/
structure CompileUnit.WellFormed (u : CompileUnit) : Prop where
  file_ne_empty : u.file ≠ ""
  noBackslash : '\\' ∉ u.file.toList
  defines_ne_empty : ∀ define ∈ u.defines, define ≠ ""
  undefs_ne_empty : ∀ name ∈ u.undefs, name ≠ ""
  includes_ne_empty : ∀ dir ∈ u.includes, dir ≠ ""
  platform_cases : u.platform = none ∨ u.platform = some .win32W ∨ u.platform = some .win64

/-! ### Databases -/

theorem Flag.ne_empty_of_mem_argumentsOf {kind : Char} {flags : List Flag} {argument : String}
    (h : argument ∈ Flag.argumentsOf kind flags) : argument ≠ "" := by
  obtain ⟨f, hf, rfl⟩ := List.mem_map.mp h
  obtain ⟨-, hkept⟩ := List.mem_filter.mp hf
  rw [Bool.and_eq_true, decide_eq_true_eq, decide_eq_true_eq] at hkept
  exact hkept.2

theorem CompileUnit.wellFormed_ofCommand {file : String} (hfile : file ≠ "") (command : String) :
    (CompileUnit.ofCommand file command).WellFormed where
  file_ne_empty := Path.forwardSlashes_ne_empty hfile
  noBackslash := Path.not_mem_forwardSlashes file
  defines_ne_empty _ h := Flag.ne_empty_of_mem_argumentsOf h
  undefs_ne_empty _ h := Flag.ne_empty_of_mem_argumentsOf (NameSet.mem_ofList.mp h)
  includes_ne_empty _ h := Flag.ne_empty_of_mem_argumentsOf h
  platform_cases := .inl rfl

/-! ### Projects -/

namespace Project

theorem sourcePath_ne_empty (p : Project) (source : String) : p.sourcePath source ≠ "" :=
  Path.normalize_ne_empty _

theorem not_mem_sourcePath (p : Project) (source : String) :
    '\\' ∉ (p.sourcePath source).toList := by
  intro h
  rcases Path.mem_normalize h with h | h | h
  · rcases Path.mem_join h with h | h | h
    · exact Path.not_mem_forwardSlashes _ h
    · exact absurd h (by decide)
    · exact Path.not_mem_forwardSlashes _ h
  · exact absurd h (by decide)
  · exact absurd h (by decide)

theorem kind?_cases (v : Variant) :
    v.kind? = none ∨ v.kind? = some .win32W ∨ v.kind? = some .win64 := by
  unfold Variant.kind?
  split
  · exact .inr (.inl rfl)
  · split
    · exact .inr (.inr rfl)
    · exact .inl rfl

theorem file_unitOf (p : Project) (source : String) (v : Variant) (g : OptionGroup) :
    (p.unitOf source v g).file = p.sourcePath source := by
  rw [unitOf]

theorem wellFormed_unitOf (p : Project) (source : String) (v : Variant) (g : OptionGroup) :
    (p.unitOf source v g).WellFormed where
  file_ne_empty := by rw [file_unitOf]; exact sourcePath_ne_empty p source
  noBackslash := by rw [file_unitOf]; exact not_mem_sourcePath p source
  defines_ne_empty _ h := (isListItem_of_mem_splitList h).ne_empty
  undefs_ne_empty _ h := absurd h NameSet.mem_empty
  includes_ne_empty _ h := (isListItem_of_mem_splitList h).ne_empty
  platform_cases := kind?_cases v

end Project

/-! ### Descriptors -/

/-- Where a unit of a descriptor comes from: the command of a record, or a source file of a project
with a variant and a group of options. -/
inductive Origin (path : Path) : CompileUnit → Prop
  | command {file command : String} (hpath : IsDatabase path) (hfile : file ≠ "") :
      Origin path (.ofCommand file command)
  | source {p : Project} {source : String} {v : Variant} {g : Project.OptionGroup}
      (hpath : IsProject path) : Origin path (p.unitOf source v g)

variable {fs : FileSystem} {r : Condition.Rule} {path : Path}

theorem origin_of_mem_unitsOf {rs : List Json} (hpath : IsDatabase path)
    (h : u ∈ Database.unitsOf rs) : Origin path u := by
  rw [Database.unitsOf_eq_filterMap] at h
  obtain ⟨r, -, hr⟩ := List.mem_filterMap.mp h
  cases hunit : Database.unitOf 0 r with
  | error notice => rw [hunit] at hr; cases hr
  | ok found =>
    rw [hunit] at hr
    cases hr
    obtain ⟨file, command, husable, rfl⟩ := Database.unitOf_eq_ok_iff.mp hunit
    exact .command hpath husable.file_ne_empty

variable [Json.Capacity]

theorem Database.Lists.origin {source : Except StreamFault String} {units : List CompileUnit}
    (h : Lists source units) (hpath : IsDatabase path) (hu : u ∈ units) : Origin path u := by
  cases h with
  | noText => cases hu
  | noArray _ _ => cases hu
  | records _ => exact origin_of_mem_unitsOf hpath hu
  | salvaged _ _ => exact origin_of_mem_unitsOf hpath hu

omit [Json.Capacity] in
theorem origin_of_mem_units {p : Project} (hpath : IsProject path) (h : u ∈ p.units r) :
    Origin path u := by
  obtain ⟨source, -, h⟩ := List.mem_flatMap.mp h
  obtain ⟨v, -, h⟩ := List.mem_flatMap.mp h
  obtain ⟨g, -, rfl⟩ := List.mem_map.mp h
  exact .source hpath

theorem Yields.origin {units : List CompileUnit} (h : Yields fs r path units) (hu : u ∈ units) :
    Origin path u := by
  cases h with
  | unreadable _ => cases hu
  | database _ hpath hlists => exact hlists.origin hpath hu
  | noDocument _ _ _ => cases hu
  | document _ hpath _ => exact origin_of_mem_units hpath hu
  | other _ _ _ => cases hu

theorem origin_of_importDescriptor {out : Logged (List CompileUnit)}
    (h : importDescriptor fs r path = .ok out) (hu : u ∈ out.value) : Origin path u := by
  rcases faulty_or_yields fs r path with ⟨fault, hfaulty⟩ | ⟨units, log, himport, hyields⟩
  · rw [hfaulty.importDescriptor_eq] at h
    cases h
  · rw [himport] at h
    cases h
    exact hyields.origin hu

/-- **The units of a descriptor are well-formed,** whatever its bytes are. -/
theorem wellFormed_of_importDescriptor {out : Logged (List CompileUnit)}
    (h : importDescriptor fs r path = .ok out) : ∀ u ∈ out.value, u.WellFormed := by
  intro u hu
  cases origin_of_importDescriptor h hu with
  | command _ hfile => exact CompileUnit.wellFormed_ofCommand hfile _
  | source _ => exact Project.wellFormed_unitOf _ _ _ _

end BuildDescriptor
