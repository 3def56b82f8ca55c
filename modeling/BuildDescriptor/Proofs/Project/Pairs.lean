import BuildDescriptor.Proofs.Condition.QuotedEquality
import BuildDescriptor.Proofs.Project.Loading
import BuildDescriptor.Proofs.Xml.Files
import Mathlib.Data.List.Basic

/-!
# One group of options for each variant

The usual project has one group of options for each of its variants, and guards the group by

```
'$(Configuration)|$(Platform)'=='Debug|Win32'
```

with the values of the variant on the right. The guards keep the groups apart whatever the values
are: names of operators, parentheses, quotation marks or markers in a value are text between the
apostrophes. Only what ends the text, what separates its halves, and a reference would be taken for
something else, and none of these may be in a value.

## Main definitions

* `Variant.Plain` — values that a guard can tell apart
* `Variant.guard` — the condition that names a variant
* `Project.Contents.Paired` — contents with one guarded group for each variant

## Main results

* `Variant.holds_guard_iff` — a guard holds for its own variant only
* `Project.Contents.Paired.filter_appliesTo` — a variant has its own group only
* `Project.importUnits_of_paired` — what is imported
-/

namespace BuildDescriptor

open Condition

namespace Variant

variable {v w : Variant}

/-- A variant whose values have no apostrophe, no bar and no reference in them. -/
structure Plain (v : Variant) : Prop where
  noApostrophe : ∀ a, '\'' ∉ (v.value a).toList
  noBar : ∀ a, '|' ∉ (v.value a).toList
  noReference : ∀ a b : Axis, ¬ b.reference.toList <:+: (v.value a).toList

/-- The condition that names a variant. -/
def guard (v : Variant) : String :=
  "'$(Configuration)|$(Platform)'=='" ++ v.configuration ++ "|" ++ v.platform ++ "'"

theorem guard_def (v : Variant) :
    v.guard = "'$(Configuration)|$(Platform)'=='" ++ v.configuration ++ "|" ++ v.platform ++ "'" :=
  rfl

/-! ### The two sides of a guard -/

/-- A text for each half, with a bar between them. -/
def halves (configuration platform : List Char) : List Char :=
  configuration ++ '|' :: platform

theorem guard_eq (v : Variant) :
    v.guard = String.ofList (quotedEquality [] [] [] []
      (halves Axis.configuration.reference.toList Axis.platform.reference.toList)
      (halves (v.value .configuration).toList (v.value .platform).toList)) := by
  have hopening : "'$(Configuration)|$(Platform)'=='".toList =
      apostrophes (halves Axis.configuration.reference.toList Axis.platform.reference.toList) ++
        ['=', '=', '\''] := by
    decide +kernel
  have hbar : "|".toList = ['|'] := rfl
  have hclosing : "'".toList = ['\''] := rfl
  rw [← String.toList_inj, String.toList_ofList, guard_def, String.toList_append,
    String.toList_append, String.toList_append, String.toList_append, hopening, hbar, hclosing,
    quotedEquality]
  simp only [apostrophes, halves, value, List.nil_append, List.append_nil, List.append_assoc,
    List.cons_append]

theorem not_mem_bar_reference (a : Axis) : '|' ∉ a.reference.toList := by
  cases a <;> decide

theorem substituteChars_halves (v : Variant) (cs ds : List Char) :
    substituteChars v (halves cs ds) = halves (substituteChars v cs) (substituteChars v ds) :=
  substituteChars_append_cons not_mem_bar_reference cs ds

theorem halves_inj {cs ds cs' ds' : List Char} (h : '|' ∉ cs) (h' : '|' ∉ cs') :
    halves cs ds = halves cs' ds' ↔ cs = cs' ∧ ds = ds' := by
  rw [halves, halves, List.append_eq_append_iff]
  constructor
  · rintro (⟨as, rfl, hcons⟩ | ⟨as, rfl, hcons⟩)
    all_goals
      cases as with
      | nil => simp_all
      | cons c as => simp_all
  · rintro ⟨rfl, rfl⟩
    exact .inl ⟨[], by simp, rfl⟩

theorem not_mem_halves {c : Char} {cs ds : List Char} (hc : c ≠ '|') (h : c ∉ cs) (h' : c ∉ ds) :
    c ∉ halves cs ds := by
  simp [halves, hc, h, h']

theorem Plain.substituteChars_value (hv : v.Plain) (a : Axis) :
    substituteChars w (v.value a).toList = (v.value a).toList :=
  substituteChars_eq_self (hv.noReference a)

theorem eq_iff_value :
    v.value .configuration = w.value .configuration ∧ v.value .platform = w.value .platform ↔
      v = w := by
  cases v
  cases w
  simp [value]

theorem substituteChars_axis (v : Variant) (a : Axis) :
    substituteChars v a.reference.toList = (v.value a).toList := by
  simpa using substituteChars_reference (v := v) a []

/-! ### Guards -/

theorem isBlankText_guard (v : Variant) : Text.isBlankText v.guard = false := by
  have hopening : "'$(Configuration)|$(Platform)'=='".toList.all Text.isBlank = false := by
    decide +kernel
  rw [Text.isBlankText, guard_def, String.toList_append, String.toList_append, String.toList_append,
    String.toList_append]
  simp only [List.all_append, hopening, Bool.false_and]

/-- **A guard names one variant.** -/
theorem holds_guard_iff (hv : v.Plain) (hw : w.Plain) :
    Reader.standard.holds w.guard v = true ↔ v = w := by
  have hleft : '\'' ∉ halves Axis.configuration.reference.toList Axis.platform.reference.toList :=
    not_mem_halves (by decide) (not_mem_apostrophe_reference _) (not_mem_apostrophe_reference _)
  have hright : '\'' ∉ halves (w.value .configuration).toList (w.value .platform).toList :=
    not_mem_halves (by decide) (hw.noApostrophe _) (hw.noApostrophe _)
  rw [guard_eq, holds_quotedEquality_iff blanks_nil blanks_nil blanks_nil blanks_nil
    hv.noApostrophe hleft hright, substituteChars_halves, substituteChars_halves,
    substituteChars_axis, substituteChars_axis, hw.substituteChars_value, hw.substituteChars_value,
    halves_inj (hv.noBar _) (hw.noBar _), String.toList_inj, String.toList_inj, eq_iff_value]

end Variant

namespace Project

/-! ### Contents with a group for each variant -/

/-- No variant is listed twice, and the groups are, in some order, one for each variant: its own,
guarded by its name. -/
structure Contents.Paired (c : Contents) (own : Variant → OptionGroup) : Prop where
  nodup : c.variants.Nodup
  plain : ∀ v ∈ c.variants, v.Plain
  groups : c.groups.Perm (c.variants.map own)
  guarded : ∀ v ∈ c.variants, (own v).condition = v.guard

variable {c : Contents} {own : Variant → OptionGroup} {v w : Variant}

theorem Contents.Paired.appliesTo_iff (h : c.Paired own) (hv : v ∈ c.variants)
    (hw : w ∈ c.variants) : (own w).appliesTo .standard v = true ↔ w = v := by
  rw [OptionGroup.appliesTo, h.guarded w hw, Variant.isBlankText_guard, Bool.false_or,
    Rule.holds_standard, Variant.holds_guard_iff (h.plain v hv) (h.plain w hw)]
  exact eq_comm

/-- **A variant has its own group.** No other one applies to it. -/
theorem Contents.Paired.filter_appliesTo (h : c.Paired own) (hv : v ∈ c.variants) :
    (c.groups.filter fun g => g.appliesTo .standard v) = [own v] := by
  have hself : (c.variants.filter fun w => (own w).appliesTo .standard v) = [v] := by
    have heq : ∀ w ∈ c.variants, (own w).appliesTo .standard v = (w == v) := by
      intro w hw
      rw [Bool.eq_iff_iff, h.appliesTo_iff hv hw, beq_iff_eq]
    rw [List.filter_congr heq, List.filter_beq, h.nodup.count, if_pos hv,
      List.replicate_one]
  have hperm := h.groups.filter fun g => g.appliesTo .standard v
  rw [List.filter_map] at hperm
  have hfilter : ((fun g : OptionGroup => g.appliesTo .standard v) ∘ own) =
      fun w => (own w).appliesTo .standard v := rfl
  rw [hfilter, hself, List.map_singleton] at hperm
  exact List.perm_singleton.mp hperm

theorem units_of_paired (p : Project) (h : p.contents.Paired own) :
    p.units .standard =
      p.contents.sources.flatMap fun s =>
        p.contents.variants.map fun v => p.unitOf s v (own v) := by
  rw [units]
  refine List.flatMap_congr fun s _ => ?_
  rw [List.map_eq_flatMap]
  refine List.flatMap_congr fun v hv => ?_
  rw [h.filter_appliesTo hv, List.map_singleton]

/-! ### Importing -/

/-- **Each variant gets its own options.** A project whose groups are guarded by the names of its
variants has, for each source file in order, one unit for each variant in order, with the options
of the group of that variant. -/
theorem importUnits_of_paired {fs : FileSystem} {path : Path} {root : Xml.Element}
    (hroot : Xml.readFile fs path = .ok (.ok root)) (h : (Contents.ofRoot root).Paired own) :
    (importUnits { path := path } fs .standard).map (fun imported => imported.value.1) =
      .ok ((Contents.ofRoot root).sources.flatMap fun s =>
        (Contents.ofRoot root).variants.map fun v =>
          { file := sourcePath { path := path } s
            defines := splitList (own v).definitions
            undefs := ∅
            includes := splitList (own v).includes
            platform := v.kind? }) := by
  obtain ⟨log, himport⟩ := importUnits_of_root (p := { path := path }) .standard hroot
  rw [himport]
  exact congrArg Except.ok (units_of_paired { path := path, contents := .ofRoot root } h)

namespace Sample

/-- A variant whose configuration has the name of an operator. -/
def first : Variant := ⟨"or", "Win32"⟩

/-- A variant whose configuration opens a call. -/
def second : Variant := ⟨"!f(", "x64"⟩

/-- A project with these variants, and with their groups the other way round. -/
def text : List Char :=
  List.flatMap String.toList
    ["<Project>",
      "<ItemGroup Label='ProjectConfigurations'>",
      "<ProjectConfiguration>",
      "<Configuration>or</Configuration><Platform>Win32</Platform>",
      "</ProjectConfiguration>",
      "<ProjectConfiguration>",
      "<Configuration>!f(</Configuration><Platform>x64</Platform>",
      "</ProjectConfiguration>",
      "</ItemGroup>",
      "<ItemGroup><ClCompile Include='a.c'></ClCompile></ItemGroup>",
      "<ItemDefinitionGroup Condition=\"'$(Configuration)|$(Platform)'=='!f(|x64'\">",
      "<ClCompile><PreprocessorDefinitions>SECOND</PreprocessorDefinitions></ClCompile>",
      "</ItemDefinitionGroup>",
      "<ItemDefinitionGroup Condition=\"'$(Configuration)|$(Platform)'=='or|Win32'\">",
      "<ClCompile><PreprocessorDefinitions>FIRST</PreprocessorDefinitions></ClCompile>",
      "</ItemDefinitionGroup>",
      "</Project>"]

/-- The project file, in UTF-16. -/
def bytes : List UInt8 := 0xFE :: 0xFF :: text.flatMap fun c => [0, c.toUInt8]

def files : FileSystem := ⟨fun _ => .ok (.file ⟨bytes.toArray⟩)⟩

def path : Path := ⟨"", ["app.vcxproj"]⟩

/-- The options of a variant. -/
def options (v : Variant) : OptionGroup where
  condition := v.guard
  definitions := if v = first then "FIRST" else "SECOND"

/-- The element that the file holds. -/
def root : Xml.Element :=
  .mk "Project" [] none
    [.mk "ItemGroup" [("Label", "ProjectConfigurations")] none
      [.mk "ProjectConfiguration" [] none
        [.mk "Configuration" [] (some "or") [], .mk "Platform" [] (some "Win32") []],
      .mk "ProjectConfiguration" [] none
        [.mk "Configuration" [] (some "!f(") [], .mk "Platform" [] (some "x64") []]],
    .mk "ItemGroup" [] none [.mk "ClCompile" [("Include", "a.c")] none []],
    .mk "ItemDefinitionGroup" [("Condition", "'$(Configuration)|$(Platform)'=='!f(|x64'")] none
      [.mk "ClCompile" [] none [.mk "PreprocessorDefinitions" [] (some "SECOND") []]],
    .mk "ItemDefinitionGroup" [("Condition", "'$(Configuration)|$(Platform)'=='or|Win32'")] none
      [.mk "ClCompile" [] none [.mk "PreprocessorDefinitions" [] (some "FIRST") []]]]

def contents : Contents := ⟨[first, second], ["a.c"], [options second, options first]⟩

theorem readFile_eq : Xml.readFile files path = .ok (.ok root) :=
  Xml.readFile_of_parse (by rfl) (show Xml.parse bytes = .ok root by decide +kernel)

theorem ofRoot_eq : Contents.ofRoot root = contents := by
  decide +kernel

theorem paired : contents.Paired options where
  nodup := by decide
  plain := by
    intro v hv
    simp only [contents, List.mem_cons, List.not_mem_nil, or_false] at hv
    rcases hv with rfl | rfl
    all_goals
      refine ⟨?_, ?_, ?_⟩
      · intro a
        cases a <;> decide
      · intro a
        cases a <;> decide
      · exact fun a => not_infix_of_not_mem_dollar (by cases a <;> decide)
  groups := .swap ..
  guarded _ _ := rfl

end Sample

theorem importUnits_sample :
    Xml.readFile Sample.files Sample.path = .ok (.ok Sample.root) ∧
      (Contents.ofRoot Sample.root).Paired Sample.options ∧
      (importUnits { path := Sample.path } Sample.files .standard).map
          (fun imported => imported.value.1) =
        .ok [{ file := "a.c", defines := ["FIRST"], platform := some .win32W },
          { file := "a.c", defines := ["SECOND"], platform := some .win64 }] := by
  have hpaired : (Contents.ofRoot Sample.root).Paired Sample.options := by
    rw [Sample.ofRoot_eq]
    exact Sample.paired
  refine ⟨Sample.readFile_eq, hpaired, ?_⟩
  rw [importUnits_of_paired Sample.readFile_eq hpaired, Sample.ofRoot_eq]
  exact congrArg Except.ok (by decide +kernel)

end Project

end BuildDescriptor
