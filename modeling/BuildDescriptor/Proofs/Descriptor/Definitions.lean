import BuildDescriptor.Proofs.Database.Elements
import BuildDescriptor.Proofs.Descriptor.Units

/-!
# Definitions in one text

A preprocessor is given the definitions of a unit in one text, each with a semicolon after it. There
is no way to write a semicolon that belongs to a definition, so cutting the text at the semicolons
gives back the pieces of the definitions, and these are the definitions only if no definition has a
semicolon in it.

Projects keep to that by themselves: their lists are cut at semicolons to begin with. A command is
cut at spaces only, and whatever follows the kind of a flag is its argument. So a unit of a database
has its definitions in the text as they are unless the command defines something with a semicolon.

## Main definitions

* `CompileUnit.Separable` — no definition has a semicolon in it
* `CompileUnit.definesIn` — the definitions that a text seems to give

## Main results

* `CompileUnit.splitAt_definesText` — the pieces of the text are those of the definitions
* `CompileUnit.definesIn_definesText_iff` — when they are the definitions
* `definesIn_of_importDescriptor` — the units of a descriptor
* `definesText_of_semicolon` — two lists of definitions in one text
-/

namespace BuildDescriptor

/-! ### Any unit -/

namespace CompileUnit

variable {u u' : CompileUnit}

/-- No definition has a semicolon in it. -/
def Separable (u : CompileUnit) : Prop := ∀ define ∈ u.defines, ';' ∉ define.toList

/-- What is between the semicolons of a text, without the piece behind the last one. -/
def definesIn (text : String) : List String := (Text.splitAt ';' text).dropLast

/-- What the pieces of the definitions are is told by the text. By induction on the definitions,
each of which ends at its semicolon. -/
theorem splitAt_definesText (u : CompileUnit) :
    Text.splitAt ';' u.definesText = u.defines.flatMap (Text.splitAt ';') ++ [""] := by
  unfold definesText
  induction u.defines with
  | nil => rfl
  | cons define defines ih =>
    rw [List.map_cons, String.join_cons, Text.splitAt_append rfl, ih, List.flatMap_cons,
      List.append_assoc]

theorem definesIn_definesText (u : CompileUnit) :
    definesIn u.definesText = u.defines.flatMap (Text.splitAt ';') := by
  rw [definesIn, splitAt_definesText, List.dropLast_concat]

theorem Separable.flatMap_splitAt (h : u.Separable) :
    u.defines.flatMap (Text.splitAt ';') = u.defines := by
  have hpieces : u.defines.flatMap (Text.splitAt ';') = u.defines.flatMap fun define => [define] :=
    List.flatMap_congr fun define hdefine => Text.splitAt_of_not_mem (h define hdefine)
  rw [hpieces, List.flatMap_singleton']

/-- The definitions are given back exactly if none has a semicolon in it, for no piece has. -/
theorem definesIn_definesText_iff : definesIn u.definesText = u.defines ↔ u.Separable := by
  rw [definesIn_definesText]
  refine ⟨fun heq define hdefine => ?_, Separable.flatMap_splitAt⟩
  rw [← heq] at hdefine
  obtain ⟨_, -, hpiece⟩ := List.mem_flatMap.mp hdefine
  exact Text.not_mem_of_mem_splitAt hpiece

theorem Separable.defines_eq (h : u.Separable) (h' : u'.Separable)
    (htext : u.definesText = u'.definesText) : u.defines = u'.defines := by
  rw [← definesIn_definesText_iff.mpr h, htext, definesIn_definesText_iff.mpr h']

/-- The definitions of a command are arguments of its flags. -/
theorem separable_ofCommand_iff {file command : String} :
    (ofCommand file command).Separable ↔
      ∀ f ∈ Flag.scan command, f.kind = 'D' → ';' ∉ f.argument.toList := by
  have hdefines (define : String) : define ∈ (ofCommand file command).defines ↔
      ∃ f ∈ Flag.scan command, f.kind = 'D' ∧ f.argument ≠ "" ∧ f.argument = define := by
    simp only [ofCommand, Flag.argumentsOf, List.mem_map, List.mem_filter, Bool.and_eq_true,
      decide_eq_true_eq, and_assoc]
  constructor
  · intro h f hf hkind
    by_cases hempty : f.argument = ""
    · rw [hempty]
      exact List.not_mem_nil
    · exact h _ ((hdefines _).mpr ⟨f, hf, hkind, hempty, rfl⟩)
  · intro h define hdefine
    obtain ⟨f, hf, hkind, -, rfl⟩ := (hdefines define).mp hdefine
    exact h f hf hkind

end CompileUnit

/-! ### Descriptors -/

/-- The lists of a project are cut at semicolons to begin with. -/
theorem Project.separable_unitOf (p : Project) (source : String) (v : Variant)
    (g : Project.OptionGroup) : (p.unitOf source v g).Separable :=
  fun _ h => (Project.isListItem_of_mem_splitList h).not_mem

/-- **The definitions of an imported unit, from their text.** The text ends with a semicolon, and
cutting it gives back the definitions exactly if none of them has a semicolon in it. No unit of a
project has such a definition, and one of a database has it only if a flag of its command does. Two
units without such definitions have the same text only if they have the same definitions. -/
theorem definesIn_of_importDescriptor [Json.Capacity] {fs : FileSystem} {r : Condition.Rule}
    {path : Path}
    {out : Logged (List CompileUnit)} {u : CompileUnit} (h : importDescriptor fs r path = .ok out)
    (hu : u ∈ out.value) :
    (Text.splitAt ';' u.definesText).getLast? = some "" ∧
      (CompileUnit.definesIn u.definesText = u.defines ↔ u.Separable) ∧
      (IsProject path → u.Separable) ∧
      (IsDatabase path → ∃ file command, u = .ofCommand file command ∧
        (u.Separable ↔ ∀ f ∈ Flag.scan command, f.kind = 'D' → ';' ∉ f.argument.toList)) ∧
      ∀ {fs' : FileSystem} {r' : Condition.Rule} {path' : Path} {out' : Logged (List CompileUnit)}
        {u' : CompileUnit}, importDescriptor fs' r' path' = .ok out' → u' ∈ out'.value →
        u.Separable → u'.Separable → u.definesText = u'.definesText → u.defines = u'.defines := by
  refine ⟨?_, CompileUnit.definesIn_definesText_iff, fun hpath => ?_, fun hpath => ?_,
    fun _ _ hu hu' => hu.defines_eq hu'⟩
  · rw [CompileUnit.splitAt_definesText, List.getLast?_concat]
  · cases origin_of_importDescriptor h hu with
    | command hdatabase _ => exact absurd hpath hdatabase.not_isProject
    | source _ => exact Project.separable_unitOf _ _ _ _
  · cases origin_of_importDescriptor h hu with
    | command _ _ => exact ⟨_, _, rfl, CompileUnit.separable_ofCommand_iff⟩
    | source hproject => exact absurd hproject hpath.not_isProject

theorem Database.textOf_toUTF8 (text : String) :
    Database.textOf text.toUTF8 = .ok (String.ofList (Text.unifyNewlines text.toList)) := by
  have hdecode : String.fromUTF8? text.toUTF8 = some text := dif_pos text.isValidUTF8
  simp only [Database.textOf, hdecode]

namespace SemicolonSample

/-- The first command defines one macro, with a semicolon in its name, and the second one two. -/
def text : String :=
  r#"[{"file":"a.c","command":"cc -DA;B"},{"file":"b.c","command":"cc -DA -DB"}]"#

def records : List Json :=
  [.object [("file", .string "a.c"), ("command", .string "cc -DA;B")],
    .object [("file", .string "b.c"), ("command", .string "cc -DA -DB")]]

def files : FileSystem := ⟨fun _ => .ok (.file text.toUTF8)⟩

def path : Path := ⟨"", ["compile_commands.json"]⟩

def one : CompileUnit := { file := "a.c", defines := ["A;B"] }

def two : CompileUnit := { file := "b.c", defines := ["A", "B"] }

theorem importDescriptor_eq : importDescriptor files .standard path =
    .ok ⟨[one, two], [.databaseImported 2 2]⟩ := by
  have hbytes : files.load path = .ok (.ok text.toUTF8) := by rfl
  have hlines : String.ofList (Text.unifyNewlines text.toList) = text := by decide +kernel
  have hdecode : Json.decode text = .ok (.array records) := by decide +kernel
  have hunits : Database.unitsOf records = [one, two] := by decide +kernel
  have hskipped : Database.skipped records = [] := by decide +kernel
  rw [importDescriptor_of_isDatabase hbytes rfl, Database.textOf_toUTF8, hlines,
    Database.importText_of_array hdecode, hunits, hskipped]
  rfl

end SemicolonSample

open SemicolonSample in
/-- Of the two units in the sample, one has its definitions in the text as they are. -/
theorem definesIn_sample :
    importDescriptor files .standard path = .ok ⟨[one, two], [.databaseImported 2 2]⟩ ∧
      CompileUnit.definesIn one.definesText ≠ one.defines ∧
      CompileUnit.definesIn two.definesText = two.defines := by
  have hone := definesIn_of_importDescriptor importDescriptor_eq (u := one) (by decide)
  have htwo := definesIn_of_importDescriptor importDescriptor_eq (u := two) (by decide)
  refine ⟨importDescriptor_eq, mt hone.2.1.mp fun h => ?_, htwo.2.1.mpr ?_⟩
  · exact h "A;B" (by decide) (by decide)
  · unfold CompileUnit.Separable
    decide

open SemicolonSample in
/-- Two units of one database have different definitions and the same text of them. -/
theorem definesText_of_semicolon : ∃ u u' log,
    importDescriptor files .standard path = .ok ⟨[u, u'], log⟩ ∧
      CompileUnit.definesIn u.definesText ≠ u.defines ∧
      u.defines ≠ u'.defines ∧ u.definesText = u'.definesText :=
  ⟨one, two, _, importDescriptor_eq, by decide +kernel, by decide, by decide +kernel⟩

end BuildDescriptor
