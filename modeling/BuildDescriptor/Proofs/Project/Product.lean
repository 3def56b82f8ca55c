import BuildDescriptor.Proofs.Project.Loading
import BuildDescriptor.Proofs.Xml.Files
import BuildDescriptor.Proofs.Xml.Order
import Mathlib.Data.List.ProdSigma

/-!
# The units of any project

A project file may be of any shape. Groups of either kind may be missing or stand several times, in
any order and among other elements; a group may have several sets of options or none, and a set
several definitions of the same thing. Which source files, variants and groups of options such a
file has is told here by the places at which they stand, and not by a walk through the file. The
lists of them are then the ones in document order.

The units are a product of these lists, first by source file, then by variant, then by group, of
which one thing is left out: the pairs of a variant and a group whose condition does not hold for
it. Nothing else about a unit decides whether it is there. So each source file has as many units as
any other, namely one for each pair that is left.

## Main definitions

* `Xml.Element.IsFirst`, `Xml.Element.IsLast`, `Xml.Element.Lacks` — children with a name
* `Project.TextOf`, `Project.IsVariant`, `Project.IsGroup` — what an element describes
* `Project.SourceAt`, `Project.VariantAt`, `Project.GroupAt` — what stands at a place

## Main results

* `Project.inDocumentOrder_sources`, `Project.inDocumentOrder_variants`,
  `Project.inDocumentOrder_groups` — the contents of a project, by places
* `Project.units_eq_product` — the units of any contents
* `Project.importUnits_eq_product` — what is imported
-/

namespace BuildDescriptor

open Xml (Element InDocumentOrder)

/-! ### Children with a name -/

namespace Xml.Element

variable {e child : Element} {name : String}

/-- The first child with a name. -/
def IsFirst (e : Element) (name : String) (child : Element) : Prop :=
  child.localName = name ∧ ∃ before after, e.children = before ++ child :: after ∧
    ∀ other ∈ before, other.localName ≠ name

/-- The last child with a name. -/
def IsLast (e : Element) (name : String) (child : Element) : Prop :=
  child.localName = name ∧ ∃ before after, e.children = before ++ child :: after ∧
    ∀ other ∈ after, other.localName ≠ name

/-- An element without children of a name. -/
def Lacks (e : Element) (name : String) : Prop :=
  ∀ child ∈ e.children, child.localName ≠ name

theorem isFirst_iff : e.IsFirst name child ↔ (e.childrenNamed name).head? = some child := by
  simp [IsFirst, childrenNamed, List.head?_filter, List.find?_eq_some_iff_append]

theorem isLast_iff : e.IsLast name child ↔ (e.childrenNamed name).getLast? = some child := by
  rw [childrenNamed, List.getLast?_filter, List.find?_eq_some_iff_append, IsLast,
    decide_eq_true_eq]
  refine and_congr_right fun _ => ?_
  constructor
  · rintro ⟨before, after, heq, hafter⟩
    exact ⟨after.reverse, before.reverse, by simp [heq], by simpa using hafter⟩
  · rintro ⟨after, before, heq, hafter⟩
    have hchildren : e.children = before.reverse ++ child :: after.reverse := by
      simpa using congrArg List.reverse heq
    exact ⟨before.reverse, after.reverse, hchildren, by simpa using hafter⟩

theorem lacks_iff : e.Lacks name ↔ e.childrenNamed name = [] := by
  simp [Lacks, childrenNamed, List.filter_eq_nil_iff]

end Xml.Element

namespace Project

variable {e : Element} {name found : String} {v : Variant} {g : OptionGroup}

/-! ### What an element describes -/

/-- The text of the last child with a name, empty if there is none. -/
inductive TextOf (e : Element) (name : String) : String → Prop
  | last {child : Element} (h : e.IsLast name child) : TextOf e name child.content
  | absent (h : e.Lacks name) : TextOf e name ""

/-- The variant that an element describes. -/
inductive IsVariant (e : Element) : Variant → Prop
  | mk {configuration platform : String} (hconfiguration : TextOf e "Configuration" configuration)
      (hplatform : TextOf e "Platform" platform) :
      IsVariant e ⟨Text.strip configuration, Text.strip platform⟩

/-- The group that an element describes, with the options of its first set. -/
inductive IsGroup (e : Element) : OptionGroup → Prop
  | options {options : Element} {definitions includes : String}
      (hfirst : e.IsFirst "ClCompile" options)
      (hdefinitions : TextOf options "PreprocessorDefinitions" definitions)
      (hincludes : TextOf options "AdditionalIncludeDirectories" includes) :
      IsGroup e ⟨(e.attribute? "Condition").getD "", definitions, includes⟩
  | empty (h : e.Lacks "ClCompile") : IsGroup e ⟨(e.attribute? "Condition").getD "", "", ""⟩

theorem textOf_iff : TextOf e name found ↔ lastText e name = found := by
  unfold lastText
  constructor
  · rintro (h | h)
    · rw [Element.isLast_iff.mp h]
    · rw [Element.lacks_iff.mp h]
      rfl
  · rintro rfl
    cases h : (e.childrenNamed name).getLast? with
    | some child => exact .last (Element.isLast_iff.mpr h)
    | none => exact .absent (Element.lacks_iff.mpr (List.getLast?_eq_none_iff.mp h))

theorem isVariant_iff : IsVariant e v ↔ variantOf e = v := by
  constructor
  · rintro ⟨hconfiguration, hplatform⟩
    rw [variantOf, textOf_iff.mp hconfiguration, textOf_iff.mp hplatform]
  · rintro rfl
    exact .mk (textOf_iff.mpr rfl) (textOf_iff.mpr rfl)

theorem isGroup_iff : IsGroup e g ↔ groupOf e = g := by
  unfold groupOf
  constructor
  · rintro (⟨hfirst, hdefinitions, hincludes⟩ | h)
    · obtain ⟨rest, hnamed⟩ := List.head?_eq_some_iff.mp (Element.isFirst_iff.mp hfirst)
      simp only [hnamed, textOf_iff.mp hdefinitions, textOf_iff.mp hincludes]
    · simp only [Element.lacks_iff.mp h]
  · rintro rfl
    cases h : e.childrenNamed "ClCompile" with
    | nil => exact .empty (Element.lacks_iff.mpr h)
    | cons options rest =>
      have hfirst : e.IsFirst "ClCompile" options := Element.isFirst_iff.mpr (by rw [h]; rfl)
      exact .options hfirst (textOf_iff.mpr rfl) (textOf_iff.mpr rfl)

/-! ### What stands at a place -/

/-- A source file, named by an item that is in a group of items. -/
inductive SourceAt (root : Element) : List Nat → String → Prop
  | mk {i j : Nat} {e item : Element} {source : String} (he : root.children[i]? = some e)
      (hname : e.localName = "ItemGroup")
      (hlabel : e.attribute? "Label" ≠ some "ProjectConfigurations")
      (hitem : e.children[j]? = some item) (hkind : item.localName = "ClCompile")
      (hinclude : item.attribute? "Include" = some source) (hne : source ≠ "") :
      SourceAt root [i, j] source

/-- A variant, described by an item that is in a group with the label for variants. -/
inductive VariantAt (root : Element) : List Nat → Variant → Prop
  | mk {i j : Nat} {e item : Element} {v : Variant} (he : root.children[i]? = some e)
      (hname : e.localName = "ItemGroup")
      (hlabel : e.attribute? "Label" = some "ProjectConfigurations")
      (hitem : e.children[j]? = some item) (hkind : item.localName = "ProjectConfiguration")
      (hv : IsVariant item v) : VariantAt root [i, j] v

/-- A group of options. -/
inductive GroupAt (root : Element) : List Nat → OptionGroup → Prop
  | mk {i : Nat} {e : Element} {g : OptionGroup} (he : root.children[i]? = some e)
      (hname : e.localName = "ItemDefinitionGroup") (hg : IsGroup e g) : GroupAt root [i] g

/-- The source file that an item of a project names. -/
def source? (item : Element) : Option String :=
  if item.localName = "ClCompile" then (item.attribute? "Include").filter (· ≠ "") else none

/-- The variant that an item of a project describes. -/
def variant? (item : Element) : Option Variant :=
  if item.localName = "ProjectConfiguration" then some (variantOf item) else none

/-- The group of options that a child of the root element describes. -/
def group? (e : Element) : Option OptionGroup :=
  if e.localName = "ItemDefinitionGroup" then some (groupOf e) else none

theorem sourcesIn_eq_filterMap (e : Element) :
    sourcesIn e = if listsItems e then e.children.filterMap source? else [] := by
  simp only [sourcesIn, Element.childrenNamed, List.filterMap_filter, List.filter_filterMap,
    decide_eq_true_eq]
  congr 2
  funext item
  unfold source?
  split <;> rfl

theorem variantsIn_eq_filterMap (e : Element) :
    variantsIn e = if listsVariants e then e.children.filterMap variant? else [] := by
  simp only [variantsIn, Element.childrenNamed, ← List.filterMap_eq_map, List.filterMap_filter,
    decide_eq_true_eq]
  rfl

theorem groupsIn_eq_toList (e : Element) : groupsIn e = (group? e).toList := by
  unfold groupsIn group?
  split <;> rfl

/-! ### The contents, by places -/

theorem inDocumentOrder_sources (root : Element) :
    InDocumentOrder (SourceAt root) (Contents.ofRoot root).sources := by
  have h := InDocumentOrder.items listsItems source? root.children
  simp only [← sourcesIn_eq_filterMap] at h
  refine h.congr fun place source => ?_
  constructor
  · rintro ⟨i, j, e, item, rfl, he, hlists, hitem, hsource⟩
    simp only [listsItems, Bool.and_eq_true, decide_eq_true_eq] at hlists
    unfold source? at hsource
    split at hsource
    · obtain ⟨hinclude, hne⟩ := Option.filter_eq_some_iff.mp hsource
      exact .mk he hlists.1 hlists.2 hitem ‹_› hinclude (of_decide_eq_true hne)
    · cases hsource
  · rintro ⟨he, hname, hlabel, hitem, hkind, hinclude, hne⟩
    exact ⟨_, _, _, _, rfl, he, by simp [listsItems, hname, hlabel], hitem,
      by simp [source?, hkind, hinclude, hne]⟩

theorem inDocumentOrder_variants (root : Element) :
    InDocumentOrder (VariantAt root) (Contents.ofRoot root).variants := by
  have h := InDocumentOrder.items listsVariants variant? root.children
  simp only [← variantsIn_eq_filterMap] at h
  refine h.congr fun place v => ?_
  constructor
  · rintro ⟨i, j, e, item, rfl, he, hlists, hitem, hv⟩
    simp only [listsVariants, Bool.and_eq_true, decide_eq_true_eq] at hlists
    unfold variant? at hv
    split at hv
    · exact .mk he hlists.1 hlists.2 hitem ‹_› (isVariant_iff.mpr (Option.some.inj hv))
    · cases hv
  · rintro ⟨he, hname, hlabel, hitem, hkind, hv⟩
    exact ⟨_, _, _, _, rfl, he, by simp [listsVariants, hname, hlabel], hitem,
      by simp [variant?, hkind, isVariant_iff.mp hv]⟩

theorem inDocumentOrder_groups (root : Element) :
    InDocumentOrder (GroupAt root) (Contents.ofRoot root).groups := by
  have h := InDocumentOrder.flatMap fun e (_ : e ∈ root.children) =>
    InDocumentOrder.toList (group? e)
  simp only [← groupsIn_eq_toList] at h
  refine h.congr fun place g => ?_
  constructor
  · rintro ⟨i, e, rest, rfl, he, rfl, hg⟩
    unfold group? at hg
    split at hg
    · exact .mk he ‹_› (isGroup_iff.mpr (Option.some.inj hg))
    · cases hg
  · rintro ⟨he, hname, hg⟩
    exact ⟨_, _, _, rfl, he, rfl, by simp [group?, hname, isGroup_iff.mp hg]⟩

/-! ### The product -/

section Product

variable {α β γ : Type}

theorem map_product (f : α × β → γ) (xs : List α) (ys : List β) :
    (xs ×ˢ ys).map f = xs.flatMap fun x => ys.map fun y => f (x, y) := by
  induction xs with
  | nil => rfl
  | cons x xs ih =>
    rw [List.product_cons, List.map_append, ih, List.map_map, List.flatMap_cons]
    rfl

theorem filter_product (keep : α × β → Bool) (xs : List α) (ys : List β) :
    (xs ×ˢ ys).filter keep =
      xs.flatMap fun x => (ys.filter fun y => keep (x, y)).map fun y => (x, y) := by
  induction xs with
  | nil => rfl
  | cons x xs ih =>
    rw [List.product_cons, List.filter_append, ih, List.filter_map, List.flatMap_cons]
    rfl

end Product

/-- The pairs of a variant and a group of options that is meant for it. -/
def applicable (r : Condition.Rule) (variants : List Variant) (groups : List OptionGroup) :
    List (Variant × OptionGroup) :=
  (variants ×ˢ groups).filter fun (v, g) =>
    Text.isBlankText g.condition || r.holds g.condition v

/-- The units of a project, by source file and then by the pairs that apply. -/
theorem units_eq_product (p : Project) (r : Condition.Rule) :
    p.units r = (p.contents.sources ×ˢ applicable r p.contents.variants p.contents.groups).map
      fun (source, v, g) => p.unitOf source v g := by
  rw [units, map_product]
  refine List.flatMap_congr fun source _ => ?_
  rw [applicable, filter_product, List.map_flatMap]
  refine List.flatMap_congr fun v _ => ?_
  rw [List.map_map]
  rfl

theorem applicable_eq_nil {r : Condition.Rule} {variants : List Variant}
    {groups : List OptionGroup} (h : variants = [] ∨ groups = []) :
    applicable r variants groups = [] := by
  rcases h with rfl | rfl
  · rfl
  · rw [applicable, List.product_nil, List.filter_nil]

/-- **The units of any project.** Whatever tree the file holds, it has certain source files,
variants and groups of options, in document order. Its units are, for each source file and each pair
that applies, the one unit that these make; so their number is a product, and there are none if
there is no variant or no group. -/
theorem importUnits_eq_product {fs : FileSystem} {path : Path} {root : Element}
    (r : Condition.Rule) (hroot : Xml.readFile fs path = .ok (.ok root)) :
    ∃ sources variants groups units,
      InDocumentOrder (SourceAt root) sources ∧
      InDocumentOrder (VariantAt root) variants ∧
      InDocumentOrder (GroupAt root) groups ∧
      (importUnits { path := path } fs r).map (fun imported => imported.value.1) = .ok units ∧
      units = (sources ×ˢ applicable r variants groups).map (fun (source, v, g) =>
        { file := Path.normalize (Path.join (Path.forwardSlashes path.directory)
            (Path.forwardSlashes source))
          defines := splitList g.definitions
          undefs := ∅
          includes := splitList g.includes
          platform := v.kind? }) ∧
      units.length = sources.length * (applicable r variants groups).length ∧
      (variants = [] ∨ groups = [] → units = []) := by
  obtain ⟨log, himport⟩ := importUnits_of_root (p := { path := path }) r hroot
  have hunits := units_eq_product (extend { path := path } root) r
  refine ⟨_, _, _, _, inDocumentOrder_sources root, inDocumentOrder_variants root,
    inDocumentOrder_groups root, by rw [himport]; rfl, hunits, ?_, fun hnone => ?_⟩
  · rw [hunits, List.length_map, List.length_product]
    rfl
  · have hpairs : applicable r (extend { path := path } root).contents.variants
        (extend { path := path } root).contents.groups = [] := applicable_eq_nil hnone
    rw [hunits, hpairs, List.product_nil, List.map_nil]

namespace ProductSample

/-- A project that names a source file twice, and where another one stands in the wrong place. The
first of its groups is for every variant; the first set in it counts, and there the last
definitions do. -/
def text : List Char :=
  List.flatMap String.toList
    ["<Project>",
      "<ItemGroup>",
      "<ClCompile Include='a.c'></ClCompile>",
      "<ClCompile></ClCompile>",
      "<ClCompile Include='a.c'></ClCompile>",
      "</ItemGroup>",
      "<ItemDefinitionGroup Condition=' '>",
      "<ClCompile>",
      "<PreprocessorDefinitions>A</PreprocessorDefinitions>",
      "<PreprocessorDefinitions>B;;C</PreprocessorDefinitions>",
      "</ClCompile>",
      "<ClCompile><PreprocessorDefinitions>D</PreprocessorDefinitions></ClCompile>",
      "</ItemDefinitionGroup>",
      "<ItemDefinitionGroup Condition=\"'$(Platform)'=='x64'\"></ItemDefinitionGroup>",
      "<ItemGroup Label='ProjectConfigurations'>",
      "<ProjectConfiguration><Platform>x64</Platform></ProjectConfiguration>",
      "<ProjectConfiguration><Platform>ARM</Platform></ProjectConfiguration>",
      "<ClCompile Include='b.c'></ClCompile>",
      "</ItemGroup>",
      "</Project>"]

/-- The project file, in UTF-16. -/
def bytes : List UInt8 := 0xFE :: 0xFF :: text.flatMap fun c => [0, c.toUInt8]

def files : FileSystem := ⟨fun _ => .ok (.file ⟨bytes.toArray⟩)⟩

def path : Path := ⟨"", ["p", "app.vcxproj"]⟩

def item (source : String) : Element := .mk "ClCompile" [("Include", source)] none []

def definitions (text : String) : Element := .mk "PreprocessorDefinitions" [] (some text) []

def configuration (platform : String) : Element :=
  .mk "ProjectConfiguration" [] none [.mk "Platform" [] (some platform) []]

/-- The element that the file holds. -/
def root : Element :=
  .mk "Project" [] none
    [.mk "ItemGroup" [] none [item "a.c", .mk "ClCompile" [] none [], item "a.c"],
      .mk "ItemDefinitionGroup" [("Condition", " ")] none
        [.mk "ClCompile" [] none [definitions "A", definitions "B;;C"],
          .mk "ClCompile" [] none [definitions "D"]],
      .mk "ItemDefinitionGroup" [("Condition", "'$(Platform)'=='x64'")] none [],
      .mk "ItemGroup" [("Label", "ProjectConfigurations")] none
        [configuration "x64", configuration "ARM", item "b.c"]]

theorem readFile_eq : Xml.readFile files path = .ok (.ok root) :=
  Xml.readFile_of_parse (by rfl) (show Xml.parse bytes = .ok root by decide +kernel)

end ProductSample

/-- Two mentions of a source file, and three pairs that apply: six units. -/
theorem importUnits_eq_product_sample :
    Xml.readFile ProductSample.files ProductSample.path = .ok (.ok ProductSample.root) ∧
      InDocumentOrder (SourceAt ProductSample.root) ["a.c", "a.c"] ∧
      ∃ units : List CompileUnit,
        (importUnits { path := ProductSample.path } ProductSample.files .standard).map
          (fun imported => imported.value.1) = .ok units ∧
        units.map (fun u => (u.file, u.defines, u.platform)) =
          [("p/a.c", ["B", "C"], some .win64), ("p/a.c", [], some .win64),
            ("p/a.c", ["B", "C"], none), ("p/a.c", ["B", "C"], some .win64),
            ("p/a.c", [], some .win64), ("p/a.c", ["B", "C"], none)] := by
  obtain ⟨sources, variants, groups, units, hsources, hvariants, hgroups, himport, hunits, -⟩ :=
    importUnits_eq_product .standard ProductSample.readFile_eq
  obtain rfl := hsources.unique (inDocumentOrder_sources ProductSample.root)
  obtain rfl := hvariants.unique (inDocumentOrder_variants ProductSample.root)
  obtain rfl := hgroups.unique (inDocumentOrder_groups ProductSample.root)
  have heq : (Contents.ofRoot ProductSample.root).sources = ["a.c", "a.c"] := by decide +kernel
  refine ⟨ProductSample.readFile_eq, heq ▸ hsources, units, himport, ?_⟩
  rw [hunits]
  decide +kernel

end Project

end BuildDescriptor
