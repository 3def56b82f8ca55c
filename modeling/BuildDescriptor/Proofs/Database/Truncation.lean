import BuildDescriptor.Proofs.Database.Units
import BuildDescriptor.Proofs.Json.Truncation

/-!
# Importing a database that was cut off

A compilation database is written record by record, and the writer may be stopped at any place. What
is imported from the beginning of a database are the units of the records that end there. A record
without a source file has no unit, and the phantoms that the search finds in the record that was cut
off have none.

## Main definitions

* `Database.beginning` — the first characters of a text

## Main results

* `Database.unitsOf_append_phantoms` — phantoms have no units
* `Database.importText_beginning` — what is imported from the beginning of a database
-/

namespace BuildDescriptor

namespace Database

variable {text : String} {rs vs phantoms : List Json}

/-! ### Phantoms -/

theorem toOption_unitOf_phantom {v : Json} (h : v.IsPhantom) : (unitOf 0 v).toOption = none := by
  have hname : ¬ Json.Foreign "file" := by
    rintro ⟨c, cs, heq, hc⟩
    obtain ⟨rfl, -⟩ := List.cons.inj heq
    exact absurd hc (by decide)
  cases hunit : unitOf 0 v with
  | error n => rfl
  | ok u =>
    obtain ⟨file, command, husable, -⟩ := unitOf_eq_ok_iff.mp hunit
    have hfile := husable.hasFile
    rw [h.member?_eq_none hname] at hfile
    cases hfile

theorem unitsOf_append_phantoms (h : ∀ v ∈ phantoms, v.IsPhantom) :
    unitsOf (rs ++ phantoms) = unitsOf rs := by
  have hnone : unitsOf phantoms = [] := by
    rw [unitsOf_eq_filterMap]
    exact List.filterMap_eq_nil_iff.mpr fun v hv => toOption_unitOf_phantom (h v hv)
  rw [unitsOf_append, hnone, List.append_nil]

/-! ### The beginning of a database -/

/-- The first characters of a text. -/
def beginning (text : String) (k : Nat) : String := String.ofList (text.toList.take k)

/-- **A database that was cut off.** From the beginning of the text of an array of records come the
units of the records that end in it, and they are those of the array of these records. -/
theorem importText_beginning [Json.Capacity] (k : Nat) (h : Json.decode text = .ok (.array rs))
    (hrecords : ∀ r ∈ rs, r.IsRecord) (hordinary : Json.Ordinary (beginning text k)) :
    (importText (.ok (beginning text k))).map (·.value) =
        .ok (unitsOf (rs.take (Json.closedRecords (beginning text k).toList))) ∧
      ∀ complete,
        Json.decode complete =
            .ok (.array (rs.take (Json.closedRecords (beginning text k).toList))) →
          (importText (.ok (beginning text k))).map (·.value) =
            (importText (.ok complete)).map (·.value) := by
  have hcut : text.toList = (beginning text k).toList ++ text.toList.drop k := by
    rw [beginning, String.toList_ofList, List.take_append_drop]
  have hunits : (importText (.ok (beginning text k))).map (·.value) =
      .ok (unitsOf (rs.take (Json.closedRecords (beginning text k).toList))) := by
    cases hdecode : Json.decode (beginning text k) with
    | ok v =>
      obtain ⟨rfl, -⟩ := Json.eq_of_decode_cut h rfl hcut hdecode
      rw [importText_of_decode hdecode, Json.closedRecords_of_decode_cut h hrecords hcut hdecode,
        List.take_length]
    | error failure =>
      have hmalformed : failure = .malformed := by
        have := hordinary.decode
        rwa [hdecode] at this
      subst hmalformed
      obtain ⟨vs, hvs⟩ := hordinary.exists_objectsIn
      obtain ⟨phantoms, rfl, hphantoms⟩ :=
        Json.foundIn_of_decode h hrecords hcut (Json.objectsIn_eq_ok_iff.mp hvs)
      rw [importText_of_objectsIn hdecode hvs, unitsOf_append_phantoms hphantoms]
  refine ⟨hunits, ?_⟩
  intro complete hcomplete
  rw [hunits, importText_of_decode hcomplete]

namespace Sample

/-- A database of two records. A brace in the second one begins the phantom `{",":1}`. -/
def database : String :=
  r#"[{"file":"a.c","command":"c -DA"},"# ++
    r#"{"arguments":["{",":1}"],"file":"b.c"}]"#

def records : List Json :=
  [.object [("file", .string "a.c"), ("command", .string "c -DA")],
    .object [("arguments", .array [.string r"{", .string r":1}"]), ("file", .string "b.c")]]

theorem isRecord : ∀ r ∈ records, r.IsRecord := by
  intro r hr
  simp only [records, List.mem_cons, List.not_mem_nil, or_false] at hr
  rcases hr with rfl | rfl
  · refine ⟨_, rfl, ?_⟩
    simp [Json.ObjectFree.string]
  · refine ⟨_, rfl, ?_⟩
    have harray : Json.ObjectFree (.array [.string r"{", .string r":1}"]) :=
      .array (by simp [Json.ObjectFree.string])
    simp [harray, Json.ObjectFree.string]

end Sample

theorem importText_beginning_sample :
    Json.decode Sample.database = .ok (.array Sample.records) ∧
      (∀ r ∈ Sample.records, r.IsRecord) ∧ Json.Ordinary (beginning Sample.database 58) ∧
        (importText (.ok (beginning Sample.database 58))).map (·.value) =
          .ok [{ file := "a.c", defines := ["A"] }] := by
  have hdecode : Json.decode Sample.database = .ok (.array Sample.records) := by decide +kernel
  have hordinary : Json.Ordinary (beginning Sample.database 58) := by decide +kernel
  have hclosed : Json.closedRecords (beginning Sample.database 58).toList = 1 := by decide +kernel
  refine ⟨hdecode, Sample.isRecord, hordinary, ?_⟩
  rw [(importText_beginning 58 hdecode Sample.isRecord hordinary).1, hclosed]
  exact congrArg Except.ok (by decide +kernel)

end Database

end BuildDescriptor
