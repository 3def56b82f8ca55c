import BuildDescriptor.Text.Blank
import BuildDescriptor.Variant
import BuildDescriptor.Xml.Element

/-!
# The contents of a project

What matters of a project file are the variants that the project is built in, the source files, and
the groups of compile options:

```
<Project>
  <ItemGroup Label="ProjectConfigurations">
    <ProjectConfiguration Include="Debug|Win32">
      <Configuration>Debug</Configuration>
      <Platform>Win32</Platform>
    </ProjectConfiguration>
  </ItemGroup>
  <ItemDefinitionGroup Condition="'$(Configuration)|$(Platform)'=='Debug|Win32'">
    <ClCompile>
      <PreprocessorDefinitions>WIN32;%(PreprocessorDefinitions)</PreprocessorDefinitions>
      <AdditionalIncludeDirectories>include</AdditionalIncludeDirectories>
    </ClCompile>
  </ItemDefinitionGroup>
  <ItemGroup>
    <ClCompile Include="main.cpp" />
  </ItemGroup>
</Project>
```

Elements are told apart by their local names. Everything else in the file is passed over.

## Main definitions

* `Project.OptionGroup`, `Project.Contents`
* `Project.Contents.ofRoot` — the contents of a project file, by its root element
-/

namespace BuildDescriptor

namespace Project

/-- Compile options for the variants that satisfy a condition. -/
structure OptionGroup where
  condition : String := ""
  definitions : String := ""
  includes : String := ""
deriving DecidableEq, Repr

/-- What matters of a project file. -/
structure Contents where
  variants : List Variant := []
  sources : List String := []
  groups : List OptionGroup := []
deriving DecidableEq, Repr

instance : Append Contents where
  append a b := ⟨a.variants ++ b.variants, a.sources ++ b.sources, a.groups ++ b.groups⟩

/-! ### Elements -/

/-- The character data of the last child with a name, empty if there is none. -/
def lastText (e : Xml.Element) (name : String) : String :=
  match (e.childrenNamed name).getLast? with
  | some child => child.content
  | none => ""

/-- The variant that an element describes. -/
def variantOf (e : Xml.Element) : Variant where
  configuration := Text.strip (lastText e "Configuration")
  platform := Text.strip (lastText e "Platform")

/-- The group of options that an element describes. Only the first set of compiler options in it
counts. -/
def groupOf (e : Xml.Element) : OptionGroup :=
  let condition := (e.attribute? "Condition").getD ""
  match e.childrenNamed "ClCompile" with
  | [] => { condition := condition }
  | options :: _ =>
    { condition := condition
      definitions := lastText options "PreprocessorDefinitions"
      includes := lastText options "AdditionalIncludeDirectories" }

/-- Whether an element lists the variants of the project. -/
def listsVariants (e : Xml.Element) : Bool :=
  e.localName = "ItemGroup" && e.attribute? "Label" = some "ProjectConfigurations"

/-- Whether an element lists items of the project, source files among them. -/
def listsItems (e : Xml.Element) : Bool :=
  e.localName = "ItemGroup" && e.attribute? "Label" ≠ some "ProjectConfigurations"

/-- The variants that a child of the root element lists. -/
def variantsIn (e : Xml.Element) : List Variant :=
  if listsVariants e then (e.childrenNamed "ProjectConfiguration").map variantOf else []

/-- The source files that a child of the root element lists. -/
def sourcesIn (e : Xml.Element) : List String :=
  if listsItems e then
    ((e.childrenNamed "ClCompile").filterMap (·.attribute? "Include")).filter (· ≠ "")
  else []

/-- The group of options that a child of the root element describes, if it does. -/
def groupsIn (e : Xml.Element) : List OptionGroup :=
  if e.localName = "ItemDefinitionGroup" then [groupOf e] else []

/-- The contents of a project file. -/
def Contents.ofRoot (root : Xml.Element) : Contents where
  variants := root.children.flatMap variantsIn
  sources := root.children.flatMap sourcesIn
  groups := root.children.flatMap groupsIn

end Project

end BuildDescriptor
