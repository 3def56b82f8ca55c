import BuildDescriptor.Proofs.Database.Units
import BuildDescriptor.Proofs.Json.Surroundings

/-!
# Importing a database whose separators are damaged

What is imported from a database depends on the texts of its records alone. Lost brackets, commas
too few or too many, a byte order mark and other junk make the text no JSON, and then the search
takes the place of the reader. It finds the same records, as long as nothing that stands around them
has a brace that opens.

## Main results

* `Database.importText_of_listed` — records with the same texts give the same units
-/

namespace BuildDescriptor

namespace Database

variable {text : String} {vs : List Json}

/-- **A database with damaged separators.** The search finds in the text of an array of objects what
reading it gives. The text lists the objects in one way, and from any text that lists the same ones
and is malformed the same units are imported. -/
theorem importText_of_listed [Json.Capacity] (h : Json.decode text = .ok (.array vs))
    (hobjects : ∀ v ∈ vs, v.isObject = true) :
    Json.objectsIn text = .ok vs ∧
      ∃ entries : List (List Char × Json), entries.map (·.2) = vs ∧
        Json.Listed Json.BraceFree entries text.toList ∧
        (∀ entries', Json.Listed Json.BraceFree entries' text.toList → entries' = entries) ∧
        ∀ damaged : String, Json.Listed Json.BraceFree entries damaged.toList →
          Json.decode damaged = .error .malformed →
            (importText (.ok damaged)).map (·.value) = (importText (.ok text)).map (·.value) := by
  obtain ⟨entries, rfl, hidle⟩ := Json.listed_of_decode h hobjects
  have hlisted := hidle.mono fun _ => Json.Idle.not_mem
  refine ⟨Json.objectsIn_of_decode h hobjects, entries, rfl, hlisted,
    fun entries' => hlisted.entries_eq, ?_⟩
  intro damaged hdamaged hmalformed
  have hfound : Json.objectsIn damaged = .ok (entries.map (·.2)) :=
    Json.objectsIn_eq_ok_iff.mpr hdamaged.salvaged
  rw [importText_of_objectsIn hmalformed hfound, importText_of_decode h]

namespace Sample

/-- The text of a record with a brace in a literal. -/
def first : String := r#"{"file":"a.c","command":"c -DA {"}"#

def firstRecord : Json := .object [("file", .string "a.c"), ("command", .string r"c -DA {")]

/-- The text of a record with an object in it. -/
def second : String := r#"{"env":{}, "file":"b.c","command":"c -DB"}"#

def secondRecord : Json :=
  .object [("env", .object []), ("file", .string "b.c"), ("command", .string "c -DB")]

def entries : List (List Char × Json) :=
  [(first.toList, firstRecord), (second.toList, secondRecord)]

/-- The two records, with three texts around them. -/
def around (before between after : String) : String :=
  before ++ first ++ between ++ second ++ after

def intact : String := around "[" ", " "]"

/-- A byte order mark in place of the bracket, no comma between the records, and two behind them. -/
def damaged : String := around "\uFEFF" " x " ",,"

theorem listed_around {before between after : String} (hbefore : Json.BraceFree before.toList)
    (hbetween : Json.BraceFree between.toList) (hafter : Json.BraceFree after.toList) :
    Json.Listed Json.BraceFree entries (around before between after).toList := by
  have hspelled : ∀ {used : List Char} {v : Json}, Json.value Json.maxNesting used = .ok (v, []) →
      Json.Spelled Json.maxNesting (.value v) used := by
    intro used v h
    obtain ⟨text, rfl, hspelled⟩ := Json.spelled_of_value _ _ _ _ h
    rwa [List.append_nil]
  have hlisted : Json.Listed Json.BraceFree entries
      (before.toList ++ (first.toList ++ (between.toList ++ (second.toList ++ after.toList)))) :=
    .object hbefore rfl (hspelled (by decide +kernel))
      (.object hbetween rfl (hspelled (by decide +kernel)) (.last hafter))
  simpa only [around, String.toList_append, List.append_assoc] using hlisted

end Sample

theorem importText_of_listed_sample :
    Json.decode Sample.intact = .ok (.array [Sample.firstRecord, Sample.secondRecord]) ∧
      Json.objectsIn Sample.intact = .ok [Sample.firstRecord, Sample.secondRecord] ∧
      Json.decode Sample.damaged = .error .malformed ∧
      (importText (.ok Sample.damaged)).map (·.value) =
        (importText (.ok Sample.intact)).map (·.value) := by
  have hdecode : Json.decode Sample.intact =
      .ok (.array [Sample.firstRecord, Sample.secondRecord]) := by decide +kernel
  have hmalformed : Json.decode Sample.damaged = .error .malformed := by decide +kernel
  obtain ⟨hfound, entries, -, -, hunique, hsame⟩ := importText_of_listed hdecode (by decide)
  obtain rfl : Sample.entries = entries :=
    hunique _ (Sample.listed_around (by decide) (by decide) (by decide))
  exact ⟨hdecode, hfound, hmalformed,
    hsame _ (Sample.listed_around (by decide) (by decide) (by decide)) hmalformed⟩

end Database

end BuildDescriptor
