import BuildDescriptor.Proofs.Database.Limits
import BuildDescriptor.Proofs.Database.Units

/-!
# The elements of a database

A database is an array, and its elements may be any values. Each of them is looked at alone: it
becomes a unit, which its file and its command determine, or it is passed over with a notice, which
its place determines. So nothing that happens to one element can be told from the units of the
others.

Reading the text is another matter. A number with too many digits, or a container too far inside, is
an element that cannot be used, and should be passed over like any other. But there is no array then
at all, and the import ends. One such element takes the others with it.

## Main definitions

* `Database.Becomes` — what becomes of the elements from some place on

## Main results

* `Database.becomes_unitsOf`, `Database.Becomes.unique` — the units and notices of an array
* `Database.importText_elementwise` — the import of a text
-/

namespace BuildDescriptor

namespace Database

variable {text : String} {rs : List Json} {i : Nat}

/-! ### All elements -/

/-- What becomes of the elements from some place on: the units of those that are usable, and the
notices of the others. -/
inductive Becomes : Nat → List Json → List CompileUnit → List Notice → Prop
  | nil {i : Nat} : Becomes i [] [] []
  | unit {i : Nat} {r : Json} {rs : List Json} {units : List CompileUnit} {notices : List Notice}
      {file command : String} (h : Usable r file command)
      (hrest : Becomes (i + 1) rs units notices) :
      Becomes i (r :: rs) (.ofCommand file command :: units) notices
  | notice {i : Nat} {r : Json} {rs : List Json} {units : List CompileUnit} {notices : List Notice}
      (h : ∀ file command, ¬ Usable r file command)
      (hrest : Becomes (i + 1) rs units notices) :
      Becomes i (r :: rs) units (noticeOf i r :: notices)

/-- The outcomes, sorted into units and notices. By induction on the elements, from any place. -/
theorem becomes_outcomes (rs : List Json) (i : Nat) :
    Becomes i rs
      (((rs.zipIdx i).map fun item => unitOf item.2 item.1).filterMap Except.toOption)
      (((rs.zipIdx i).map fun item => unitOf item.2 item.1).filterMap fun o => match o with
        | .ok _ => none
        | .error n => some n) := by
  induction rs generalizing i with
  | nil => exact .nil
  | cons r rs ih =>
    rw [List.zipIdx_cons, List.map_cons]
    cases hunit : unitOf i r with
    | ok u =>
      obtain ⟨file, command, husable, rfl⟩ := unitOf_eq_ok_iff.mp hunit
      exact .unit husable (ih (i + 1))
    | error n =>
      obtain ⟨hnone, rfl⟩ := unitOf_eq_error_iff.mp hunit
      exact .notice hnone (ih (i + 1))

theorem becomes_unitsOf (rs : List Json) : Becomes 0 rs (unitsOf rs) (skipped rs) :=
  becomes_outcomes rs 0

/-- What becomes of the elements is determined. -/
theorem Becomes.unique {units units' : List CompileUnit} {notices notices' : List Notice}
    (h : Becomes i rs units notices) (h' : Becomes i rs units' notices') :
    units = units' ∧ notices = notices' := by
  induction h generalizing units' notices' with
  | nil =>
    cases h'
    exact ⟨rfl, rfl⟩
  | unit husable _ ih =>
    cases h' with
    | unit husable' hrest =>
      obtain ⟨rfl, rfl⟩ := ih hrest
      obtain ⟨rfl, rfl⟩ := husable.unique husable'
      exact ⟨rfl, rfl⟩
    | notice hnone _ => exact absurd husable (hnone _ _)
  | notice hnone _ ih =>
    cases h' with
    | unit husable _ => exact absurd husable (hnone _ _)
    | notice _ hrest =>
      obtain ⟨rfl, rfl⟩ := ih hrest
      exact ⟨rfl, rfl⟩

/-! ### Texts -/

theorem importText_of_array [Json.Capacity] (h : Json.decode text = .ok (.array rs)) :
    importText (.ok text) = .ok ⟨unitsOf rs,
      skipped rs ++ [.databaseImported (unitsOf rs).length rs.length]⟩ := by
  rw [importText, records_of_decode h, ok_bind]
  rfl

/-- **The import of a JSON text.** It fails exactly if the text exceeds a limit of the reader.
Otherwise an array gives the units of its usable elements, in order, and a notice for each of the
others. The elements of any part of the array give the same units in every other array. -/
theorem importText_elementwise [Json.Capacity] (h : Json.decode text ≠ .error .malformed) :
    (∀ fault, importText (.ok text) = .error fault ↔
      ∃ failure, faultOf failure = some fault ∧
        Json.Overruns (Json.skipSpaces text.toList) failure) ∧
    ∀ rs, Json.decode text = .ok (.array rs) →
      importText (.ok text) = .ok ⟨unitsOf rs,
        skipped rs ++ [.databaseImported (unitsOf rs).length rs.length]⟩ ∧
      Becomes 0 rs (unitsOf rs) (skipped rs) ∧
      ∀ before old new after, rs = before ++ old ++ after →
        unitsOf rs = unitsOf before ++ unitsOf old ++ unitsOf after ∧
        unitsOf (before ++ new ++ after) = unitsOf before ++ unitsOf new ++ unitsOf after := by
  refine ⟨fun fault => ?_, fun rs hrs => ⟨importText_of_array hrs, becomes_unitsOf rs, ?_⟩⟩
  · rw [importText_eq_error_iff]
    constructor
    · rintro ⟨_, failure, ⟨⟩, hfault, hwhole | ⟨hmalformed, -⟩⟩
      · exact ⟨failure, hfault, hwhole⟩
      · exact absurd hmalformed h
    · rintro ⟨failure, hfault, hwhole⟩
      exact ⟨text, failure, rfl, hfault, .inl hwhole⟩
  · rintro before old new after rfl
    simp only [unitsOf_append, and_self]

namespace ElementSample

/-- The text of a record. -/
def recordText : String := r#"{"file":"a.c","command":"c -DA"}"#

def record : Json := .object [("file", .string "a.c"), ("command", .string "c -DA")]

/-- An array with two elements that cannot be used. -/
def mixed : String := "[1," ++ recordText ++ r#",{"file":"b.c","arguments":[2]}]"#

def elements : List Json :=
  [.integer 1, record, .object [("file", .string "b.c"), ("arguments", .array [.integer 2])]]

/-- An array of a number with so many digits and the record. -/
def numbered (digits : Nat) : String :=
  "[" ++ String.ofList (List.replicate digits '1') ++ "," ++ recordText ++ "]"

theorem longInteger_replicate {digits : Nat} (h : Text.maxDigits < digits) (more : List Char) :
    Json.LongInteger (List.replicate digits '1') (',' :: more) where
  isNumeral c hc := by
    rw [List.eq_of_mem_replicate hc]
    rfl
  head?_ne hhead := absurd (List.eq_of_mem_replicate (List.mem_of_mem_head? hhead)) (by decide)
  long := by rwa [List.length_replicate]
  ends hmore := by
    cases hmore with
    | digit hd => cases hd
    | exponent he _ _ => exact absurd he (by decide)

theorem overruns_numbered {digits : Nat} (h : Text.maxDigits < digits) :
    Json.Overruns (Json.skipSpaces (numbered digits).toList) (.longInteger digits) := by
  have htext : Json.skipSpaces (numbered digits).toList =
      '[' :: (List.replicate digits '1' ++ ',' :: (recordText.toList ++ [']'])) := by
    simp [numbered, Json.skipSpaces, Json.isSpace]
  have hfront : Json.Front (979 + 1) 979 ('[' :: ([] ++ ([] ++ []))) :=
    .array (by simp [Json.Spaces]) .nil .here
  have hexceeds : Json.Exceeds 979
      ([] ++ (List.replicate digits '1' ++ ',' :: (recordText.toList ++ [']'])))
      (.longInteger (List.replicate digits '1').length) :=
    .integer (.inl rfl) (longInteger_replicate h _)
  rw [List.length_replicate] at hexceeds
  exact ⟨979, _, _, htext, hfront, hexceeds⟩

end ElementSample

open ElementSample in
theorem importText_elementwise_sample :
    Json.decode mixed = .ok (.array elements) ∧
      importText (.ok mixed) = .ok ⟨[{ file := "a.c", defines := ["A"] }],
        [.recordNoObject 0, .recordIncomplete 2, .databaseImported 1 3]⟩ := by
  have hdecode : Json.decode mixed = .ok (.array elements) := by decide +kernel
  have hunits : unitsOf elements = [{ file := "a.c", defines := ["A"] }] := by decide +kernel
  have hskipped : skipped elements = [.recordNoObject 0, .recordIncomplete 2] := by decide +kernel
  have himport := ((importText_elementwise (by rw [hdecode]; nofun)).2 elements hdecode).1
  rw [hunits, hskipped] at himport
  exact ⟨hdecode, himport⟩

open ElementSample in
/-- A number with too many digits takes the record behind it along. -/
theorem importText_longInteger :
    importText (.ok (numbered 1)) = .ok ⟨[{ file := "a.c", defines := ["A"] }],
        [.recordNoObject 0, .databaseImported 1 2]⟩ ∧
      importText (.ok (numbered 4301)) = .error (.longInteger 4301) := by
  constructor
  · have hdecode : Json.decode (numbered 1) = .ok (.array [.integer 1, record]) := by
      decide +kernel
    have hunits : unitsOf [.integer 1, record] = [{ file := "a.c", defines := ["A"] }] := by
      decide +kernel
    have hskipped : skipped [.integer 1, record] = [.recordNoObject 0] := by decide +kernel
    rw [importText_of_array hdecode, hunits, hskipped]
    rfl
  · exact importText_eq_error_iff.mpr
      ⟨_, .longInteger 4301, rfl, rfl, .inl (overruns_numbered (by decide))⟩

end Database

end BuildDescriptor
