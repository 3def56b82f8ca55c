import BuildDescriptor.Proofs.Project.Loading
import BuildDescriptor.Proofs.Project.Pairs
import Mathlib.Data.List.Forall2
import Mathlib.Logic.Relation

/-!
# Projects that are laid out differently

The same project can be written in many ways. Its elements may be in any namespace, each in another
one. Elements that nobody asked for may stand among the children of the root, and among the items of
a group. And the groups may stand in any order, as long as those of one class stay in the order they
had: the groups that list variants, the other groups of items, and the groups of options. None of
this can be told from the units.

The reason is the same at each place where an element is looked for. It is looked for by its local
name, among the children of one element, and its contents go to one of three lists. So an element
outside of the class in question contributes nothing to the list, and can be anywhere.

## Main definitions

* `Xml.Element.Renamed` — a tree in other namespaces, `Xml.Element.inNamespace` — in a single one
* `Project.Edit` — one change of the layout, `Project.SameLayout` — any number of them

## Main results

* `Xml.Element.Renamed.childrenNamed` — what is looked for is found in any namespace
* `Project.Edit.ofRoot_eq` — a change of the layout does not change the contents
* `Project.units_of_sameLayout` — and therefore not the units
-/

namespace BuildDescriptor

/-! ### Names -/

namespace Xml

theorem not_mem_localName (tag : String) : '}' ∉ (localName tag).toList := by
  rw [localName]
  cases h : (Text.splitAt '}' tag).getLast? with
  | none => simp [List.getLastD_eq_getLast?, h]
  | some name =>
    simpa [List.getLastD_eq_getLast?, h] using
      Text.not_mem_of_mem_splitAt (List.mem_of_getLast? h)

theorem localName_of_not_mem {name : String} (h : '}' ∉ name.toList) : localName name = name := by
  rw [localName, Text.splitAt_of_not_mem h]
  rfl

/-- Whatever stands in front of the last brace does not count, other braces included. -/
theorem localName_append (uri : String) {name : String} (h : '}' ∉ name.toList) :
    localName (uri ++ r"}" ++ name) = name := by
  rw [localName, Text.splitAt_append rfl, Text.splitAt_of_not_mem h]
  simp [List.getLastD_eq_getLast?]

/-! ### Trees in other namespaces -/

/-- An expanded name in another namespace, or in none. -/
inductive Renames (tag : String) : String → Prop
  | plain : Renames tag (localName tag)
  | qualified (uri : String) : Renames tag (r"{" ++ uri ++ r"}" ++ localName tag)

theorem Renames.localName_eq {tag tag' : String} (h : Renames tag tag') :
    localName tag' = localName tag := by
  cases h with
  | plain => exact localName_of_not_mem (not_mem_localName tag)
  | qualified uri => exact localName_append _ (not_mem_localName tag)

namespace Element

/-- A tree in which each element may be in another namespace. -/
inductive Renamed : Element → Element → Prop
  | mk {tag tag' : String} {attributes : List (String × String)} {text : Option String}
      {children children' : List Element} (htag : Renames tag tag')
      (hchildren : List.Forall₂ Renamed children children') :
      Renamed (.mk tag attributes text children) (.mk tag' attributes text children')

variable {e e' : Element}

theorem Renamed.localName_eq (h : Renamed e e') : e.localName = e'.localName := by
  cases h with
  | mk htag _ => exact htag.localName_eq.symm

theorem Renamed.attribute?_eq (h : Renamed e e') (name : String) :
    e.attribute? name = e'.attribute? name := by
  cases h with
  | mk _ _ => rfl

theorem Renamed.content_eq (h : Renamed e e') : e.content = e'.content := by
  cases h with
  | mk _ _ => rfl

theorem Renamed.children (h : Renamed e e') : List.Forall₂ Renamed e.children e'.children := by
  cases h with
  | mk _ hchildren => exact hchildren

theorem Renamed.childrenNamed (h : Renamed e e') (name : String) :
    List.Forall₂ Renamed (e.childrenNamed name) (e'.childrenNamed name) := by
  refine List.rel_filter (fun child child' hchild => ?_) h.children
  simp only [hchild.localName_eq]

mutual

/-- A tree with all its elements in one namespace. -/
def inNamespace (uri : String) : Element → Element
  | mk tag attributes text children =>
    mk (r"{" ++ uri ++ r"}" ++ Xml.localName tag) attributes text (allInNamespace uri children)

/-- Several trees with all their elements in one namespace. -/
def allInNamespace (uri : String) : List Element → List Element
  | [] => []
  | e :: es => e.inNamespace uri :: allInNamespace uri es

end

mutual

theorem renamed_inNamespace (uri : String) : (e : Element) → e.Renamed (e.inNamespace uri)
  | mk _ _ _ children => .mk (.qualified uri) (forall₂_allInNamespace uri children)

theorem forall₂_allInNamespace (uri : String) :
    (es : List Element) → List.Forall₂ Renamed es (allInNamespace uri es)
  | [] => .nil
  | e :: es => .cons (renamed_inNamespace uri e) (forall₂_allInNamespace uri es)

end

end Element

end Xml

namespace Project

open Xml (Element)

variable {e e' root root' : Element}

section Lists

variable {α β : Type} {R : α → α → Prop} {xs ys : List α}

theorem map_eq_of_forall₂ {f : α → β} (h : List.Forall₂ R xs ys) (hf : ∀ x y, R x y → f x = f y) :
    xs.map f = ys.map f := by
  induction h with
  | nil => rfl
  | cons hxy _ ih => rw [List.map_cons, List.map_cons, hf _ _ hxy, ih]

theorem flatMap_eq_of_forall₂ {f : α → List β} (h : List.Forall₂ R xs ys)
    (hf : ∀ x y, R x y → f x = f y) : xs.flatMap f = ys.flatMap f := by
  rw [List.flatMap_def, List.flatMap_def, map_eq_of_forall₂ h hf]

/-- What contributes nothing can be left out. -/
theorem flatMap_filter_of_eq_nil {f : α → List β} {p : α → Bool} (h : ∀ x, p x = false → f x = [])
    (xs : List α) : (xs.filter p).flatMap f = xs.flatMap f := by
  induction xs with
  | nil => rfl
  | cons x xs ih =>
    cases hx : p x with
    | true => rw [List.filter_cons_of_pos hx, List.flatMap_cons, List.flatMap_cons, ih]
    | false =>
      rw [List.filter_cons_of_neg (by simp [hx]), List.flatMap_cons, h x hx, ih, List.nil_append]

theorem flatMap_eq_of_filter_eq {f : α → List β} {p : α → Bool} (h : ∀ x, p x = false → f x = [])
    (heq : xs.filter p = ys.filter p) : xs.flatMap f = ys.flatMap f := by
  rw [← flatMap_filter_of_eq_nil h xs, heq, flatMap_filter_of_eq_nil h ys]

end Lists

/-! ### Elements in other namespaces -/

theorem lastText_eq (e : Element) (name : String) :
    lastText e name = ((e.childrenNamed name).map Element.content).getLast?.getD "" := by
  rw [lastText, List.getLast?_map]
  cases (e.childrenNamed name).getLast? <;> rfl

theorem lastText_of_renamed (h : e.Renamed e') (name : String) :
    lastText e name = lastText e' name := by
  rw [lastText_eq, lastText_eq, map_eq_of_forall₂ (h.childrenNamed name) fun _ _ => (·.content_eq)]

theorem variantOf_of_renamed (h : e.Renamed e') : variantOf e = variantOf e' := by
  rw [variantOf, variantOf, lastText_of_renamed h, lastText_of_renamed h]

theorem groupOf_of_renamed (h : e.Renamed e') : groupOf e = groupOf e' := by
  unfold groupOf
  rw [h.attribute?_eq]
  have hchildren := h.childrenNamed "ClCompile"
  revert hchildren
  cases e.childrenNamed "ClCompile" with
  | nil =>
    intro hchildren
    rw [List.forall₂_nil_left_iff.mp hchildren]
  | cons options rest =>
    intro hchildren
    obtain ⟨options', rest', hoptions, -, heq⟩ := List.forall₂_cons_left_iff.mp hchildren
    rw [heq]
    simp only [lastText_of_renamed hoptions]

theorem listsVariants_of_renamed (h : e.Renamed e') : listsVariants e = listsVariants e' := by
  rw [listsVariants, listsVariants, h.localName_eq, h.attribute?_eq]

theorem listsItems_of_renamed (h : e.Renamed e') : listsItems e = listsItems e' := by
  rw [listsItems, listsItems, h.localName_eq, h.attribute?_eq]

theorem variantsIn_of_renamed (h : e.Renamed e') : variantsIn e = variantsIn e' := by
  rw [variantsIn, variantsIn, listsVariants_of_renamed h,
    map_eq_of_forall₂ (h.childrenNamed _) fun _ _ => variantOf_of_renamed]

/-- The source files that some items name. -/
theorem sourcesIn_eq (e : Element) :
    sourcesIn e = if listsItems e then
      (((e.childrenNamed "ClCompile").map (·.attribute? "Include")).filterMap id).filter (· ≠ "")
    else [] := by
  rw [sourcesIn, List.filterMap_map]
  rfl

theorem sourcesIn_of_renamed (h : e.Renamed e') : sourcesIn e = sourcesIn e' := by
  rw [sourcesIn_eq, sourcesIn_eq, listsItems_of_renamed h,
    map_eq_of_forall₂ (h.childrenNamed _) fun _ _ hitem => hitem.attribute?_eq "Include"]

theorem groupsIn_of_renamed (h : e.Renamed e') : groupsIn e = groupsIn e' := by
  rw [groupsIn, groupsIn, h.localName_eq, groupOf_of_renamed h]

theorem ofRoot_of_renamed (h : root.Renamed root') : Contents.ofRoot root = .ofRoot root' := by
  rw [Contents.ofRoot, Contents.ofRoot,
    flatMap_eq_of_forall₂ h.children fun _ _ => variantsIn_of_renamed,
    flatMap_eq_of_forall₂ h.children fun _ _ => sourcesIn_of_renamed,
    flatMap_eq_of_forall₂ h.children fun _ _ => groupsIn_of_renamed]

/-! ### Elements of the three classes -/

/-- Whether an element describes a group of options. -/
def describesOptions (e : Element) : Bool := e.localName = "ItemDefinitionGroup"

theorem variantsIn_of_not (h : listsVariants e = false) : variantsIn e = [] :=
  if_neg (by simp [h])

theorem sourcesIn_of_not (h : listsItems e = false) : sourcesIn e = [] :=
  if_neg (by simp [h])

theorem groupsIn_of_not (h : describesOptions e = false) : groupsIn e = [] :=
  if_neg (of_decide_eq_false h)

/-- The contents are read off the three classes. -/
theorem ofRoot_eq_of_filter_eq
    (hvariants : root.children.filter listsVariants = root'.children.filter listsVariants)
    (hitems : root.children.filter listsItems = root'.children.filter listsItems)
    (hoptions : root.children.filter describesOptions = root'.children.filter describesOptions) :
    Contents.ofRoot root = .ofRoot root' := by
  rw [Contents.ofRoot, Contents.ofRoot,
    flatMap_eq_of_filter_eq (fun _ => variantsIn_of_not) hvariants,
    flatMap_eq_of_filter_eq (fun _ => sourcesIn_of_not) hitems,
    flatMap_eq_of_filter_eq (fun _ => groupsIn_of_not) hoptions]

/-- An element that is no group of the project. -/
structure IsForeign (e : Element) : Prop where
  noItems : e.localName ≠ "ItemGroup"
  noOptions : e.localName ≠ "ItemDefinitionGroup"

theorem IsForeign.not_mem_classes (h : IsForeign e) :
    listsVariants e = false ∧ listsItems e = false ∧ describesOptions e = false := by
  simp [listsVariants, listsItems, describesOptions, h.noItems, h.noOptions]

/-! ### Changes of the layout -/

/-- A change of the layout of a project. -/
inductive Edit : Element → Element → Prop
  /-- The elements are put into other namespaces. -/
  | namespaces {root root' : Element} (h : root.Renamed root') : Edit root root'
  /-- A foreign element is put among the children of the root. -/
  | child {tag : String} {attributes : List (String × String)} {text : Option String}
      {before after : List Element} {foreign : Element} (h : IsForeign foreign) :
      Edit (.mk tag attributes text (before ++ after))
        (.mk tag attributes text (before ++ foreign :: after))
  /-- An item that is no source file is put into a group of items. -/
  | item {tag tag' : String} {attributes attributes' : List (String × String)}
      {text text' : Option String} {before after items more : List Element} {other : Element}
      (hgroup : listsItems (.mk tag' attributes' text' (items ++ more)) = true)
      (h : other.localName ≠ "ClCompile") :
      Edit
        (.mk tag attributes text
          (before ++ .mk tag' attributes' text' (items ++ more) :: after))
        (.mk tag attributes text
          (before ++ .mk tag' attributes' text' (items ++ other :: more) :: after))
  /-- The children of the root are put into another order, those of a class apart. -/
  | order {tag : String} {attributes : List (String × String)} {text : Option String}
      {children children' : List Element} (hperm : children.Perm children')
      (hvariants : children.filter listsVariants = children'.filter listsVariants)
      (hitems : children.filter listsItems = children'.filter listsItems)
      (hoptions : children.filter describesOptions = children'.filter describesOptions) :
      Edit (.mk tag attributes text children) (.mk tag attributes text children')

/-- Two projects that differ by changes of the layout, in either direction. -/
def SameLayout : Element → Element → Prop := Relation.EqvGen Edit

/-- An item that is no source file is passed over. -/
theorem sourcesIn_insert {tag : String} {attributes : List (String × String)} {text : Option String}
    {items more : List Element} {other : Element} (h : other.localName ≠ "ClCompile") :
    sourcesIn (.mk tag attributes text (items ++ other :: more)) =
      sourcesIn (.mk tag attributes text (items ++ more)) := by
  have hnamed :
      (Element.mk tag attributes text (items ++ other :: more)).childrenNamed "ClCompile" =
      (Element.mk tag attributes text (items ++ more)).childrenNamed "ClCompile" := by
    simp [Element.childrenNamed, Element.children, h]
  rw [sourcesIn, sourcesIn, hnamed]
  rfl

/-- A group of items is in none of the other classes. -/
theorem not_mem_classes_of_listsItems (h : listsItems e = true) :
    listsVariants e = false ∧ describesOptions e = false := by
  simp only [listsItems, Bool.and_eq_true, decide_eq_true_eq] at h
  simp [listsVariants, describesOptions, h.1, h.2]

theorem Edit.ofRoot_eq (h : Edit root root') : Contents.ofRoot root = .ofRoot root' := by
  cases h with
  | namespaces h => exact ofRoot_of_renamed h
  | child h =>
    obtain ⟨hvariants, hitems, hoptions⟩ := h.not_mem_classes
    refine ofRoot_eq_of_filter_eq ?_ ?_ ?_
    all_goals simp [Element.children, hvariants, hitems, hoptions]
  | @item tag tag' attributes attributes' text text' before after items more other hgroup h =>
    have hgroup' : listsItems (.mk tag' attributes' text' (items ++ other :: more)) = true := hgroup
    obtain ⟨hvariants, hoptions⟩ := not_mem_classes_of_listsItems hgroup
    obtain ⟨hvariants', hoptions'⟩ := not_mem_classes_of_listsItems hgroup'
    simp only [Contents.ofRoot, Element.children, List.flatMap_append, List.flatMap_cons,
      variantsIn_of_not hvariants, variantsIn_of_not hvariants', groupsIn_of_not hoptions,
      groupsIn_of_not hoptions', sourcesIn_insert h]
  | order _ hvariants hitems hoptions => exact ofRoot_eq_of_filter_eq hvariants hitems hoptions

theorem SameLayout.ofRoot_eq (h : SameLayout root root') :
    Contents.ofRoot root = .ofRoot root' := by
  induction h with
  | rel _ _ h => exact h.ofRoot_eq
  | refl _ => rfl
  | symm _ _ _ ih => exact ih.symm
  | trans _ _ _ _ _ ih ih' => exact ih.trans ih'

/-! ### Importing -/

/-- What is loaded is told by the contents. -/
theorem load_congr {fs fs' : FileSystem} {p : Project} (h : Xml.readFile fs p.path = .ok (.ok root))
    (h' : Xml.readFile fs' p.path = .ok (.ok root'))
    (hcontents : Contents.ofRoot root = .ofRoot root') : p.load fs = p.load fs' := by
  rw [load, load, h, h', ok_bind, ok_bind]
  simp only [hcontents]

/-- **The layout of a project does not matter.** Two trees that differ in it give the same units, in
the same order. So do two files that hold such trees, and the notices are the same as well. -/
theorem units_of_sameLayout (p : Project) (r : Condition.Rule) (h : SameLayout root root') :
    (p.extend root).units r = (p.extend root').units r ∧
      ∀ fs fs', Xml.readFile fs p.path = .ok (.ok root) →
        Xml.readFile fs' p.path = .ok (.ok root') → p.importUnits fs r = p.importUnits fs' r := by
  refine ⟨by rw [extend, extend, h.ofRoot_eq], fun fs fs' hroot hroot' => ?_⟩
  rw [importUnits, importUnits, load_congr hroot hroot' h.ofRoot_eq]

namespace LayoutSample

/-- A foreign element. -/
def properties : Element := .mk "PropertyGroup" [] none []

/-- An item that is no source file. -/
def readme : Element := .mk "None" [("Include", "b.txt")] none []

def source : Element := .mk "ClCompile" [("Include", "a.c")] none []

/-- The elements of the sample: its variants, its source file and the options of a variant. -/
def variants : Element :=
  .mk "ItemGroup" [("Label", "ProjectConfigurations")] none
    [.mk "ProjectConfiguration" [] none
      [.mk "Configuration" [] (some "or") [], .mk "Platform" [] (some "Win32") []],
    .mk "ProjectConfiguration" [] none
      [.mk "Configuration" [] (some "!f(") [], .mk "Platform" [] (some "x64") []]]

def options (condition definition : String) : Element :=
  .mk "ItemDefinitionGroup" [("Condition", condition)] none
    [.mk "ClCompile" [] none [.mk "PreprocessorDefinitions" [] (some definition) []]]

def firstOptions : Element := options "'$(Configuration)|$(Platform)'=='or|Win32'" "FIRST"

def secondOptions : Element := options "'$(Configuration)|$(Platform)'=='!f(|x64'" "SECOND"

/-- The project with its groups in another order, and with more in it. -/
def rearranged : Element :=
  .mk "Project" [] none
    [secondOptions, properties, .mk "ItemGroup" [] none [readme, source], firstOptions, variants]

/-- The same in a file in UTF-16, with a default namespace. -/
def text : List Char :=
  List.flatMap String.toList
    ["<Project xmlns='m'>",
      "<ItemDefinitionGroup Condition=\"'$(Configuration)|$(Platform)'=='!f(|x64'\">",
      "<ClCompile><PreprocessorDefinitions>SECOND</PreprocessorDefinitions></ClCompile>",
      "</ItemDefinitionGroup>",
      "<PropertyGroup></PropertyGroup>",
      "<ItemGroup>",
      "<None Include='b.txt'></None>",
      "<ClCompile Include='a.c'></ClCompile>",
      "</ItemGroup>",
      "<ItemDefinitionGroup Condition=\"'$(Configuration)|$(Platform)'=='or|Win32'\">",
      "<ClCompile><PreprocessorDefinitions>FIRST</PreprocessorDefinitions></ClCompile>",
      "</ItemDefinitionGroup>",
      "<ItemGroup Label='ProjectConfigurations'>",
      "<ProjectConfiguration>",
      "<Configuration>or</Configuration><Platform>Win32</Platform>",
      "</ProjectConfiguration>",
      "<ProjectConfiguration>",
      "<Configuration>!f(</Configuration><Platform>x64</Platform>",
      "</ProjectConfiguration>",
      "</ItemGroup>",
      "</Project>"]

def bytes : List UInt8 := 0xFE :: 0xFF :: text.flatMap fun c => [0, c.toUInt8]

def files : FileSystem := ⟨fun _ => .ok (.file ⟨bytes.toArray⟩)⟩

theorem readFile_eq : Xml.readFile files Sample.path = .ok (.ok (rearranged.inNamespace "m")) :=
  Xml.readFile_of_parse (by rfl)
    (show Xml.parse bytes = .ok (rearranged.inNamespace "m") by decide +kernel)

theorem sameLayout : SameLayout Sample.root (rearranged.inNamespace "m") := by
  have horder : Edit Sample.root (.mk "Project" [] none
      ([secondOptions] ++ [.mk "ItemGroup" [] none [source], firstOptions, variants])) :=
    .order (by decide +kernel) (by decide +kernel) (by decide +kernel) (by decide +kernel)
  have hchild : Edit _ (.mk "Project" [] none
      ([secondOptions] ++ properties ::
        [.mk "ItemGroup" [] none [source], firstOptions, variants])) :=
    .child ⟨by decide, by decide⟩
  have hitem : Edit
      (.mk "Project" [] none
        ([secondOptions, properties] ++ .mk "ItemGroup" [] none ([] ++ [source]) ::
          [firstOptions, variants]))
      (.mk "Project" [] none
        ([secondOptions, properties] ++ .mk "ItemGroup" [] none ([] ++ readme :: [source]) ::
          [firstOptions, variants])) :=
    .item (by decide) (by decide)
  have hnamespace : Edit rearranged (rearranged.inNamespace "m") :=
    .namespaces (Element.renamed_inNamespace _ rearranged)
  exact ((Relation.EqvGen.rel _ _ horder).trans _ _ _ (.rel _ _ hchild)).trans _ _ _
    ((Relation.EqvGen.rel _ _ hitem).trans _ _ _ (.rel _ _ hnamespace))

end LayoutSample

/-- The sample and its other layout give the same two units. -/
theorem importUnits_otherLayout :
    SameLayout Sample.root (LayoutSample.rearranged.inNamespace "m") ∧
      (importUnits { path := Sample.path } LayoutSample.files .standard).map
          (fun imported => imported.value.1) =
        .ok [{ file := "a.c", defines := ["FIRST"], platform := some .win32W },
          { file := "a.c", defines := ["SECOND"], platform := some .win64 }] := by
  refine ⟨LayoutSample.sameLayout, ?_⟩
  have hsame : importUnits { path := Sample.path } Sample.files .standard =
      importUnits { path := Sample.path } LayoutSample.files .standard :=
    (units_of_sameLayout { path := Sample.path } .standard LayoutSample.sameLayout).2 _ _
      Sample.readFile_eq LayoutSample.readFile_eq
  obtain ⟨log, himport⟩ :=
    importUnits_of_root (p := { path := Sample.path }) .standard Sample.readFile_eq
  have hunits : Project.units (extend { path := Sample.path } Sample.root) .standard =
      [{ file := "a.c", defines := ["FIRST"], platform := some .win32W },
        { file := "a.c", defines := ["SECOND"], platform := some .win64 }] := by
    rw [extend, Sample.ofRoot_eq]
    decide +kernel
  rw [← hsame, himport, hunits]
  rfl

end Project

end BuildDescriptor
