import BuildDescriptor.Proofs.Json.Writing
import BuildDescriptor.Report
import Mathlib.Data.List.Forall2
import Mathlib.Data.List.Nodup

/-!
# The JSON text of a list of units

A list of units is shown as a JSON array with an object for each unit. The text is meant for other
programs, so it has to say all that the units say. It does: it is ASCII whatever the units are, it
is read back as the values of the units, in their order, and no two lists of units share a text.

The undefined names of a unit are a set, which is listed in the order of its code points. So of how
the set came about only the members show. To say this, `Given` holds the parts of a unit with the
names as they were added, in some order and perhaps several times; two of these give the same unit
if and only if they are `Alike`.

## Main definitions

* `CompileUnit.Given`, `CompileUnit.Given.unit` — the parts that a unit is made of
* `CompileUnit.Given.Alike` — the same parts, up to the order of undefined names and repetitions

## Main results

* `CompileUnit.toJson_inj` — a unit is determined by its value
* `Report.unitsJson_faithful`
-/

namespace BuildDescriptor

namespace Platform

theorem Kind.name_inj {k k' : Kind} : k.name = k'.name ↔ k = k' := by
  have hnodup : (all.map name).Nodup := by decide
  exact ⟨List.inj_on_of_nodup_map hnodup (mem_all k) (mem_all k'), congrArg name⟩

end Platform

namespace CompileUnit

/-! ### Values of units -/

theorem legible_strings {levels : Nat} (texts : List String) :
    Json.Legible (levels + 1) (.array (texts.map .string)) := by
  refine .array fun v hv => ?_
  obtain ⟨s, -, rfl⟩ := List.mem_map.mp hv
  exact Json.legible_string s

/-- The value of a unit is written in two levels. -/
theorem legible_toJson (levels : Nat) (u : CompileUnit) : Json.Legible (levels + 2) u.toJson := by
  refine .object ?_
  simp only [List.forall_mem_cons]
  refine ⟨Json.legible_string _, legible_strings _, legible_strings _, legible_strings _, ?_, nofun⟩
  cases u.platform with
  | none => exact Json.legible_null
  | some kind => exact Json.legible_string _

theorem map_string_inj {texts texts' : List String} :
    texts.map Json.string = texts'.map Json.string ↔ texts = texts' :=
  List.map_inj_right fun _ _ => Json.string.inj

/-- **A unit is determined by its value.** -/
theorem toJson_inj {u u' : CompileUnit} : u.toJson = u'.toJson ↔ u = u' := by
  refine ⟨fun h => ?_, congrArg toJson⟩
  obtain ⟨file, defines, ⟨undefs, _⟩, includes, platform⟩ := u
  obtain ⟨file', defines', ⟨undefs', _⟩, includes', platform'⟩ := u'
  simp only [toJson, Json.object.injEq, List.cons.injEq, Prod.mk.injEq, true_and, and_true,
    Json.string.injEq, Json.array.injEq, map_string_inj] at h
  obtain ⟨rfl, rfl, rfl, rfl, hplatform⟩ := h
  have heq : platform = platform' := by
    cases platform with
    | none =>
      cases platform' with
      | none => rfl
      | some kind' => cases hplatform
    | some kind =>
      cases platform' with
      | none => cases hplatform
      | some kind' => rw [Platform.Kind.name_inj.mp (Json.string.inj hplatform)]
  rw [heq]

/-! ### How units are given -/

/-- The parts of a unit, with the undefined names in the order in which they were added. -/
structure Given where
  file : String
  defines : List String
  undefs : List String
  includes : List String
  platform : Option Platform.Kind

/-- The unit with these parts. -/
def Given.unit (g : Given) : CompileUnit where
  file := g.file
  defines := g.defines
  undefs := .ofList g.undefs
  includes := g.includes
  platform := g.platform

/-- The same parts, except that names may be undefined in another order and another number of
times. -/
structure Given.Alike (g g' : Given) : Prop where
  file : g.file = g'.file
  defines : g.defines = g'.defines
  undefs : ∀ name, name ∈ g.undefs ↔ name ∈ g'.undefs
  includes : g.includes = g'.includes
  platform : g.platform = g'.platform

theorem Given.unit_eq_iff {g g' : Given} : g.unit = g'.unit ↔ g.Alike g' := by
  constructor
  · intro h
    have hundefs : NameSet.ofList g.undefs = .ofList g'.undefs := congrArg CompileUnit.undefs h
    refine ⟨congrArg CompileUnit.file h, congrArg CompileUnit.defines h, fun name => ?_,
      congrArg CompileUnit.includes h, congrArg CompileUnit.platform h⟩
    rw [← NameSet.mem_ofList, hundefs, NameSet.mem_ofList]
  · rintro ⟨hfile, hdefines, hundefs, hincludes, hplatform⟩
    have heq : NameSet.ofList g.undefs = .ofList g'.undefs := by
      refine NameSet.ext_mem fun name => ?_
      rw [NameSet.mem_ofList, NameSet.mem_ofList, hundefs]
    rw [unit, unit, hfile, hdefines, heq, hincludes, hplatform]

end CompileUnit

namespace Report

open CompileUnit

variable [Json.Capacity]

theorem legible_units (units : List CompileUnit) :
    Json.Legible Json.maxNesting (.array (units.map toJson)) := by
  obtain ⟨levels, hlevels⟩ := Nat.exists_eq_add_of_le' Json.Capacity.three_le_maxNesting
  rw [hlevels]
  refine .array fun v hv => ?_
  obtain ⟨u, -, rfl⟩ := List.mem_map.mp hv
  exact u.legible_toJson _

/-- **The text of a list of units says what the units are.** It is ASCII, and it is read back as the
values of the units in order. Lists of units have the same text only if they are the same; so the
text shows neither the order in which the undefined names of a unit were added nor repetitions among
them, and it shows everything else. -/
theorem unitsJson_faithful :
    (∀ units : List CompileUnit, (∀ c ∈ (unitsJson units).toList, c.toNat < 128) ∧
        Json.decode (unitsJson units) = .ok (.array (units.map toJson))) ∧
      (∀ units units' : List CompileUnit, unitsJson units = unitsJson units' ↔ units = units') ∧
      ∀ gs gs' : List Given, unitsJson (gs.map Given.unit) = unitsJson (gs'.map Given.unit) ↔
        List.Forall₂ Given.Alike gs gs' := by
  have hinj : ∀ units units' : List CompileUnit,
      unitsJson units = unitsJson units' ↔ units = units' := by
    intro units units'
    rw [unitsJson, unitsJson, (legible_units units).render_inj (legible_units units'),
      Json.array.injEq, List.map_inj_right fun _ _ => toJson_inj.mp]
  refine ⟨fun units => ⟨(legible_units units).isAscii_render, (legible_units units).decode_render⟩,
    hinj, fun gs gs' => ?_⟩
  rw [hinj, ← List.forall₂_eq_eq_eq, List.forall₂_map_left_iff, List.forall₂_map_right_iff]
  simp only [Given.unit_eq_iff]

end Report

end BuildDescriptor
