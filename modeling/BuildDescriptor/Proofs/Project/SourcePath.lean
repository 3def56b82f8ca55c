import BuildDescriptor.Proofs.Descriptor.Units
import BuildDescriptor.Proofs.Path.NormalForm
import Mathlib.Data.List.Forall2

/-!
# Where a source file is

A project may spell the name of a source file in many ways, and two spellings of one file should not
make two files. The path that is made of a name has a normal form. It is the same for every way in
which the slashes of the name may lean, and it is the same if the name is simplified first. So what
is left of the spelling is what it says about the file. A name that begins with a slash says all,
and the directory of the project has no part in it.

That `..` takes away the component before it is right only where that component is a directory and
no link. It is what the normal form of a text does, which does not look at the file system.

## Main definitions

* `Path.SameButSlashes` — texts that differ in the way their slashes lean

## Main results

* `Project.sourcePath_canonical`
-/

namespace BuildDescriptor

namespace Path

variable {s t : String}

/-- A slash that leans either way. -/
def IsSlash (c : Char) : Prop := c = '/' ∨ c = '\\'

/-- Two texts that differ at most in the way their slashes lean. -/
def SameButSlashes (s t : String) : Prop :=
  List.Forall₂ (fun c d => c = d ∨ IsSlash c ∧ IsSlash d) s.toList t.toList

theorem forwardSlashes_eq_of_sameButSlashes (h : SameButSlashes s t) :
    forwardSlashes s = forwardSlashes t := by
  rw [forwardSlashes, forwardSlashes, ← String.toList_inj, String.toList_map, String.toList_map,
    ← List.forall₂_eq_eq_eq, List.forall₂_map_left_iff, List.forall₂_map_right_iff]
  refine h.imp ?_
  rintro c d (rfl | ⟨rfl | rfl, rfl | rfl⟩) <;> rfl

theorem forwardSlashes_eq_self (h : '\\' ∉ s.toList) : forwardSlashes s = s := by
  rw [forwardSlashes, ← String.toList_inj, String.toList_map]
  conv_rhs => rw [← List.map_id s.toList]
  refine List.map_congr_left fun c hc => if_neg ?_
  rintro rfl
  exact h hc

/-- The normal form of a text without backslashes has none. -/
theorem not_mem_normalize (h : '\\' ∉ s.toList) : '\\' ∉ (normalize s).toList := by
  intro hmem
  rcases mem_normalize hmem with hmem | hdot | hslash
  · exact h hmem
  · exact absurd hdot (by decide)
  · exact absurd hslash (by decide)

theorem head?_forwardSlashes {c : Char} (h : s.toList.head? = some c) (hc : IsSlash c) :
    (forwardSlashes s).toList.head? = some '/' := by
  rw [forwardSlashes, String.toList_map, List.head?_map, h]
  rcases hc with rfl | rfl <;> rfl

end Path

namespace Project

open BuildDescriptor.Path (IsSlash NormalForm SameButSlashes forwardSlashes normalize)

/-- **Where a source file is.** The path has a normal form and no backslash, and it stays what it is
when it is put into normal form once more. The way in which the slashes of the name lean does not
count, and the name may be simplified first. Where it begins with a slash the path does not depend
on the project. -/
theorem sourcePath_canonical (p : Project) (source : String) :
    (NormalForm (p.sourcePath source) ∧ '\\' ∉ (p.sourcePath source).toList) ∧
      (∀ other, SameButSlashes source other → p.sourcePath other = p.sourcePath source) ∧
      p.sourcePath (normalize (forwardSlashes source)) = p.sourcePath source ∧
      normalize (p.sourcePath source) = p.sourcePath source ∧
      ∀ c, source.toList.head? = some c → IsSlash c →
        ∀ q : Project, q.sourcePath source = p.sourcePath source := by
  refine ⟨⟨Path.normalForm_normalize _, not_mem_sourcePath p source⟩, ?_, ?_,
    Path.normalize_normalize _, ?_⟩
  · intro other hsame
    rw [sourcePath, sourcePath, Path.forwardSlashes_eq_of_sameButSlashes hsame]
  · have hnone : '\\' ∉ (normalize (forwardSlashes source)).toList :=
      Path.not_mem_normalize (Path.not_mem_forwardSlashes source)
    rw [sourcePath, sourcePath, Path.forwardSlashes_eq_self hnone, Path.normalize_join_normalize]
  · intro c hhead hc q
    have hrooted : (forwardSlashes source).toList.head? = some '/' :=
      Path.head?_forwardSlashes hhead hc
    rw [sourcePath, sourcePath, Path.join, if_pos hrooted, Path.join, if_pos hrooted]

namespace SourcePathSample

/-- A project that is two levels down. -/
def nested : Project := ⟨⟨"", ["a", "b", "p.vcxproj"]⟩, {}⟩

/-- A project that is where everything else is looked for from. -/
def top : Project := ⟨⟨"", ["p.vcxproj"]⟩, {}⟩

theorem sameButSlashes_climbing : SameButSlashes "..\\x/./y.c" "../x\\.\\y.c" := by
  unfold SameButSlashes IsSlash
  decide +kernel

end SourcePathSample

open SourcePathSample in
/-- A name that climbs out of the project, with its slashes either way, and a name from the root. -/
theorem sourcePath_canonical_sample :
    SameButSlashes "..\\x/./y.c" "../x\\.\\y.c" ∧
      nested.sourcePath "..\\x/./y.c" = "a/x/y.c" ∧
      nested.sourcePath "../x\\.\\y.c" = nested.sourcePath "..\\x/./y.c" ∧
      nested.sourcePath "\\x.c" = "/x.c" ∧ top.sourcePath "\\x.c" = nested.sourcePath "\\x.c" := by
  obtain ⟨-, hslashes, -, -, -⟩ := sourcePath_canonical nested "..\\x/./y.c"
  obtain ⟨-, -, -, -, hrooted⟩ := sourcePath_canonical nested "\\x.c"
  refine ⟨sameButSlashes_climbing, by decide +kernel, hslashes _ sameButSlashes_climbing,
    by decide +kernel, hrooted '\\' (by decide) (.inr rfl) top⟩

end Project

end BuildDescriptor
