import BuildDescriptor.Database.Import
import BuildDescriptor.Proofs.Bind

/-!
# The units of a database

A record has a unit if it states a file and a command, and these two determine the unit. What a
record becomes does not depend on the place it has in a database, which is told only where it
becomes nothing. And what is imported from a text are the units of the records in it, whichever of
the two ways to read the text gave them.

## Main definitions

* `Database.HasCommand`, `Database.Usable` — what a record has to state

## Main results

* `Database.unitOf_eq_ok_iff`, `Database.unitOf_eq_error_iff` — one record
* `Database.unitsOf_eq_filterMap`, `Database.unitsOf_append` — one record after the other
* `Database.importText_of_decode` — a text that is an array
* `Database.importText_of_objectsIn` — a text that is no JSON
-/

namespace BuildDescriptor

theorem Json.string?_eq_some_iff {v : Json} {s : String} : v.string? = some s ↔ v = .string s := by
  cases v <;> simp [Json.string?]

theorem Json.strings?_eq_some_iff {v : Json} {words : List String} :
    v.strings? = some words ↔ v = .array (words.map .string) := by
  have hitems : ∀ items : List Json,
      items.mapM Json.string? = some words ↔ items = words.map .string := by
    induction words with
    | nil =>
      intro items
      cases items <;> simp [Option.bind_eq_some_iff]
    | cons word words ih =>
      intro items
      cases items <;> simp [Option.bind_eq_some_iff, Json.string?_eq_some_iff, ih]
  cases v with
  | array items => rw [Json.strings?, hitems, Json.array.injEq]
  | _ => simp [Json.strings?]

namespace Database

variable {text file command : String} {r : Json} {rs vs : List Json} {u : CompileUnit} {n : Notice}
  {i : Nat}

/-! ### One record -/

/-- The command that a record states. A list of words counts only where there is no text. -/
inductive HasCommand (r : Json) : String → Prop
  | text {command : String} (h : r.member? "command" = some (.string command)) :
      HasCommand r command
  | words {words : List String} (htext : ∀ command, r.member? "command" ≠ some (.string command))
      (h : r.member? "arguments" = some (.array (words.map .string))) :
      HasCommand r (" ".intercalate words)

/-- A record that states a file and a command. -/
structure Usable (r : Json) (file command : String) : Prop where
  hasFile : r.member? "file" = some (.string file)
  hasCommand : HasCommand r command
  file_ne_empty : file ≠ ""
  command_ne_empty : command ≠ ""

theorem file?_eq_some_iff : file? r = some file ↔ r.member? "file" = some (.string file) := by
  rw [file?, Option.bind_eq_some_iff]
  simp only [Json.string?_eq_some_iff, exists_eq_right]

theorem words_eq_some_iff :
    ((r.member? "arguments").bind Json.strings?).map (" ".intercalate ·) = some command ↔
      ∃ words, r.member? "arguments" = some (.array (words.map .string)) ∧
        " ".intercalate words = command := by
  simp only [Option.map_eq_some_iff, Option.bind_eq_some_iff, Json.strings?_eq_some_iff,
    exists_eq_right]

theorem command?_eq_some_iff : command? r = some command ↔ HasCommand r command := by
  constructor
  · intro h
    unfold command? at h
    split at h
    · rename_i htext
      cases h
      exact .text htext
    · rename_i htext
      obtain ⟨words, hwords, rfl⟩ := words_eq_some_iff.mp h
      exact .words htext hwords
  · intro h
    unfold command?
    cases h with
    | text h => rw [h]
    | words htext h =>
      split
      · rename_i hcommand
        exact absurd hcommand (htext _)
      · exact words_eq_some_iff.mpr ⟨_, h, rfl⟩

theorem Usable.isObject (h : Usable r file command) : r.isObject = true := by
  have hfile := h.hasFile
  cases r <;> first | rfl | cases hfile

theorem Usable.unique {file' command' : String} (h : Usable r file command)
    (h' : Usable r file' command') : file = file' ∧ command = command' := by
  have hfile := file?_eq_some_iff.mpr h.hasFile
  have hcommand := command?_eq_some_iff.mpr h.hasCommand
  rw [file?_eq_some_iff.mpr h'.hasFile] at hfile
  rw [command?_eq_some_iff.mpr h'.hasCommand] at hcommand
  exact ⟨(Option.some.inj hfile).symm, (Option.some.inj hcommand).symm⟩

theorem unitOf_eq_ok_iff :
    unitOf i r = .ok u ↔ ∃ file command, Usable r file command ∧ u = .ofCommand file command := by
  constructor
  · intro h
    unfold unitOf at h
    split at h
    · split at h
      · rename_i file command hfile hcommand
        split at h
        · cases h
        · rename_i hempty
          rw [Bool.or_eq_true, decide_eq_true_eq, decide_eq_true_eq, not_or] at hempty
          cases h
          exact ⟨file, command, ⟨file?_eq_some_iff.mp hfile, command?_eq_some_iff.mp hcommand,
            hempty.1, hempty.2⟩, rfl⟩
      · cases h
    · cases h
  · rintro ⟨file, command, h, rfl⟩
    simp [unitOf, h.isObject, file?_eq_some_iff.mpr h.hasFile,
      command?_eq_some_iff.mpr h.hasCommand, h.file_ne_empty, h.command_ne_empty]

/-- The notice of a record that is passed over. -/
def noticeOf (i : Nat) (r : Json) : Notice :=
  if r.isObject then .recordIncomplete i else .recordNoObject i

theorem eq_noticeOf (h : unitOf i r = .error n) : n = noticeOf i r := by
  unfold unitOf at h
  split at h
  · rename_i hobject
    rw [noticeOf, if_pos hobject]
    split at h
    · split at h
      · exact (Except.error.inj h).symm
      · cases h
    · exact (Except.error.inj h).symm
  · rename_i hobject
    rw [noticeOf, if_neg hobject]
    exact (Except.error.inj h).symm

theorem unitOf_eq_error_iff :
    unitOf i r = .error n ↔ (∀ file command, ¬ Usable r file command) ∧ n = noticeOf i r := by
  constructor
  · refine fun h => ⟨fun file command husable => ?_, eq_noticeOf h⟩
    rw [unitOf_eq_ok_iff.mpr ⟨file, command, husable, rfl⟩] at h
    cases h
  · rintro ⟨hnone, rfl⟩
    cases hunit : unitOf i r with
    | ok u =>
      obtain ⟨file, command, husable, -⟩ := unitOf_eq_ok_iff.mp hunit
      exact absurd husable (hnone file command)
    | error n => rw [eq_noticeOf hunit]

/-! ### Units of records -/

/-- The place of a record is told when it has no unit, and only then. -/
theorem toOption_unitOf (i j : Nat) (r : Json) :
    (unitOf i r).toOption = (unitOf j r).toOption := by
  unfold unitOf
  split
  · split
    · split <;> rfl
    · rfl
  · rfl

theorem unitsOf_eq_filterMap (rs : List Json) :
    unitsOf rs = rs.filterMap fun r => (unitOf 0 r).toOption := by
  have hplace : (fun item : Json × Nat => (unitOf item.2 item.1).toOption) =
      (fun r => (unitOf 0 r).toOption) ∘ Prod.fst := by
    funext item
    exact toOption_unitOf _ _ _
  have hunits : unitsOf rs = rs.zipIdx.filterMap fun item => (unitOf item.2 item.1).toOption := by
    rw [unitsOf, outcomes, List.filterMap_map]
    rfl
  rw [hunits, hplace, ← List.filterMap_map, List.zipIdx_map_fst]

theorem unitsOf_append (xs ys : List Json) : unitsOf (xs ++ ys) = unitsOf xs ++ unitsOf ys := by
  rw [unitsOf_eq_filterMap, unitsOf_eq_filterMap, unitsOf_eq_filterMap, List.filterMap_append]

/-! ### Importing a text -/

variable [Json.Capacity]

theorem importText_of_records {log : List Notice} (h : records text = .ok ⟨some rs, log⟩) :
    (importText (.ok text)).map (·.value) = .ok (unitsOf rs) := by
  simp only [importText, h, ok_bind]
  rfl

theorem records_of_decode (h : Json.decode text = .ok (.array rs)) :
    records text = .ok ⟨some rs, []⟩ := by
  rw [records, h]

theorem importText_of_decode (h : Json.decode text = .ok (.array rs)) :
    (importText (.ok text)).map (·.value) = .ok (unitsOf rs) :=
  importText_of_records (records_of_decode h)

theorem importText_of_objectsIn (h : Json.decode text = .error .malformed)
    (hobjects : Json.objectsIn text = .ok vs) :
    (importText (.ok text)).map (·.value) = .ok (unitsOf vs) := by
  have hrecords : records text = .ok ⟨some vs, [.databaseMalformed vs.length]⟩ := by
    simp only [records, h, faultOf, salvaged, hobjects]
  exact importText_of_records hrecords

end Database

end BuildDescriptor
