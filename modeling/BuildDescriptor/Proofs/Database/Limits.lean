import BuildDescriptor.Database.Import
import BuildDescriptor.Proofs.Json.Limits
import BuildDescriptor.Proofs.Json.Salvage

/-!
# Databases that exceed a limit

A malformed database is searched for complete objects, so no damage ends an import. What does end it
is a limit of the reader, which is met in one of two ways. The text as a whole may exceed it. Or the
text is malformed, and the search comes to a brace from which on it exceeds the limit. The second
way may lead through a text that no JSON reader would ever have looked at.

## Main definitions

* `Database.Overruns` — a text that exceeds a limit in one of these ways
* `Database.Lists` — the units that a text lists where it exceeds none

## Main results

* `Database.importText_eq_error_iff` — when the import of a text fails
* `Database.lists_of_importText` — what it gives where it does not
* `Database.importText_of_modest` — a database for which it does not
-/

namespace BuildDescriptor

namespace Database

variable [Json.Capacity] {text : String} {fault : Fault}

/-- A text that exceeds a limit of the reader, be it from its start on or, if it is malformed, from
a brace on to which the search for objects comes. -/
def Overruns (text : String) (failure : Json.Failure) : Prop :=
  Json.Overruns (Json.skipSpaces text.toList) failure ∨
    Json.decode text = .error .malformed ∧
      ∃ more, Json.Reached text.toList ('{' :: more) ∧ Json.Overruns ('{' :: more) failure

omit [Json.Capacity] in
theorem faultOf_eq_none_iff {failure : Json.Failure} :
    faultOf failure = none ↔ failure = .malformed := by
  cases failure <;> simp [faultOf]

omit [Json.Capacity] in
theorem ne_malformed_of_faultOf {failure : Json.Failure} (h : faultOf failure = some fault) :
    failure ≠ .malformed := by
  rintro rfl
  cases h

theorem salvaged_eq_error_iff :
    salvaged text = .error fault ↔ ∃ failure, faultOf failure = some fault ∧
      ∃ more, Json.Reached text.toList ('{' :: more) ∧ Json.Overruns ('{' :: more) failure := by
  constructor
  · intro h
    unfold salvaged at h
    split at h
    · cases h
    · rename_i failure hobjects
      obtain ⟨hfailure, more, hmore, hv⟩ := Json.objectsIn_eq_error_iff.mp hobjects
      split at h
      · rename_i hfault
        cases h
        exact ⟨failure, hfault, more, hmore, (Json.value_eq_error_iff hfailure).mp hv⟩
      · cases h
  · rintro ⟨failure, hfault, more, hmore, hoverruns⟩
    have hfailure := ne_malformed_of_faultOf hfault
    have hobjects : Json.objectsIn text = .error failure :=
      Json.objectsIn_eq_error_iff.mpr
        ⟨hfailure, more, hmore, (Json.value_eq_error_iff hfailure).mpr hoverruns⟩
    simp only [salvaged, hobjects, hfault]

theorem records_eq_error_iff :
    records text = .error fault ↔
      ∃ failure, faultOf failure = some fault ∧ Overruns text failure := by
  constructor
  · intro h
    unfold records at h
    split at h
    · cases h
    · cases h
    · rename_i failure hdecode
      split at h
      · rename_i hfault
        cases h
        have hfailure := ne_malformed_of_faultOf hfault
        exact ⟨failure, hfault, .inl ((Json.decode_eq_error_iff hfailure).mp hdecode)⟩
      · rename_i hnone
        obtain rfl := faultOf_eq_none_iff.mp hnone
        obtain ⟨failure, hfault, hsearch⟩ := salvaged_eq_error_iff.mp h
        exact ⟨failure, hfault, .inr ⟨hdecode, hsearch⟩⟩
  · rintro ⟨failure, hfault, hwhole | ⟨hdecode, hsearch⟩⟩
    · have hdecode := (Json.decode_eq_error_iff (ne_malformed_of_faultOf hfault)).mpr hwhole
      simp only [records, hdecode, hfault]
    · have hmalformed : faultOf .malformed = none := rfl
      simp only [records, hdecode, hmalformed]
      exact salvaged_eq_error_iff.mpr ⟨failure, hfault, hsearch⟩

/-- **When a database fails.** Its text exceeds a limit; nothing else ends the import. -/
theorem importText_eq_error_iff {source : Except StreamFault String} :
    importText source = .error fault ↔
      ∃ text failure, source = .ok text ∧ faultOf failure = some fault ∧ Overruns text failure := by
  cases source with
  | error streamFault =>
    constructor
    · rintro ⟨⟩
    · rintro ⟨_, _, ⟨⟩, _⟩
  | ok text =>
    have hrecords : importText (.ok text) = .error fault ↔ records text = .error fault := by
      simp only [importText, bind_eq_error]
      refine or_iff_left ?_
      rintro ⟨found, -, h⟩
      split at h
      · cases h
      · cases h
    rw [hrecords, records_eq_error_iff]
    constructor
    · rintro ⟨failure, h⟩
      exact ⟨text, failure, rfl, h⟩
    · rintro ⟨_, failure, ⟨⟩, h⟩
      exact ⟨failure, h⟩

/-! ### What is imported otherwise -/

/-- The units that a database lists, given its text or why there is none. -/
inductive Lists : Except StreamFault String → List CompileUnit → Prop
  | noText {fault : StreamFault} : Lists (.error fault) []
  | records {text : String} {rs : List Json} (h : Json.decode text = .ok (.array rs)) :
      Lists (.ok text) (unitsOf rs)
  | noArray {text : String} {v : Json} (h : Json.decode text = .ok v) (hv : ∀ rs, v ≠ .array rs) :
      Lists (.ok text) []
  | salvaged {text : String} {vs : List Json} (h : Json.decode text = .error .malformed)
      (hvs : Json.Salvaged text.toList vs) : Lists (.ok text) (unitsOf vs)

theorem lists_of_records {found : Logged (Option (List Json))} (h : records text = .ok found) :
    Lists (.ok text) ((found.value.map unitsOf).getD []) := by
  unfold records at h
  split at h
  · rename_i hdecode
    cases h
    exact .records hdecode
  · rename_i hv hdecode
    cases h
    exact .noArray hdecode fun rs hrs => hv rs hrs
  · rename_i failure hdecode
    split at h
    · cases h
    · rename_i hnone
      obtain rfl := faultOf_eq_none_iff.mp hnone
      unfold salvaged at h
      split at h
      · rename_i hobjects
        cases h
        exact .salvaged hdecode (Json.objectsIn_eq_ok_iff.mp hobjects)
      · rename_i failure hobjects
        have hfailure := (Json.objectsIn_eq_error_iff.mp hobjects).1
        split at h
        · cases h
        · rename_i hnone
          exact absurd (faultOf_eq_none_iff.mp hnone) hfailure

/-- **What a database gives.** All of its records that can be used, or all of the objects in it. -/
theorem lists_of_importText {source : Except StreamFault String} {out : Logged (List CompileUnit)}
    (h : importText source = .ok out) : Lists source out.value := by
  cases source with
  | error fault =>
    cases h
    exact .noText
  | ok text =>
    simp only [importText, bind_eq_ok] at h
    obtain ⟨found, hfound, h⟩ := h
    have hlists := lists_of_records hfound
    split at h
    · rename_i hnone
      cases h
      rwa [hnone] at hlists
    · rename_i hsome
      cases h
      rwa [hsome] at hlists

/-- A database is imported, whatever else is wrong with it, if it has neither long numerals nor many
containers. -/
theorem importText_of_modest {text : String} (h : Json.Modest text.toList) :
    ∃ out, importText (.ok text) = .ok out ∧ Lists (.ok text) out.value := by
  have hspaces : Json.skipSpaces text.toList <:+ text.toList := List.dropWhile_suffix _
  cases himport : importText (.ok text) with
  | ok out => exact ⟨out, rfl, lists_of_importText himport⟩
  | error fault =>
    obtain ⟨_, failure, ⟨⟩, -, hwhole | ⟨-, more, hmore, hsearch⟩⟩ :=
      importText_eq_error_iff.mp himport
    · exact absurd hwhole (h.of_isSuffix hspaces).not_overruns
    · exact absurd hsearch (h.of_isSuffix hmore.isSuffix).not_overruns

end Database

end BuildDescriptor
