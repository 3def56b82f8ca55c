import BuildDescriptor.Proofs.Json.Listing
import BuildDescriptor.Proofs.Json.Quoting
import BuildDescriptor.Proofs.Json.Salvage

/-!
# The search of a text that was cut off

The text of an array of records is cut off at any place. The search finds the records that are
complete, one after the other, since every one ends itself and no brace stands between two of them.
The record that was cut off cannot be read. What the search then finds at the braces in it is read
off the inside of its string literals, and is a *phantom*: an object whose members have names that
begin with a delimiter.

## Main definitions

* `Json.closedRecords` — the number of records that are complete in a text
* `Json.IsPhantom` — an object without a usable name

## Main results

* `Json.Salvaged.phantoms` — what is found inside string literals
* `Json.foundIn_of_decode` — what is found in the beginning of a text
* `Json.closedRecords_of_decode_cut` — the beginning of a text that is the whole array
-/

namespace BuildDescriptor

namespace Json

variable {levels : Nat} {cs rest cut lost used gap tail : List Char} {v : Json}
  {vs rs : List Json} {p : Place} {text whole : String}

/-- The number of records that end in a text: the closing braces outside its string literals. -/
def closedRecords (cs : List Char) : Nat := Place.outside.closings cs

/-! ### Phantoms -/

/-- An object whose members all have names that begin with a delimiter. -/
def IsPhantom (v : Json) : Prop := ∃ ms, v = .object ms ∧ ∀ m ∈ ms, Foreign m.1

theorem lookup_eq_none_of_forall_ne {α : Type} {ms : List (String × α)} {name : String}
    (h : ∀ m ∈ ms, m.1 ≠ name) : ms.lookup name = none := by
  rw [List.lookup_eq_none_iff]
  intro m hm
  rw [bne_iff_ne]
  exact Ne.symm (h m hm)

theorem IsPhantom.member?_eq_none (h : IsPhantom v) {name : String} (hname : ¬ Foreign name) :
    v.member? name = none := by
  obtain ⟨ms, rfl, hms⟩ := h
  refine lookup_eq_none_of_forall_ne fun m hm hm' => hname ?_
  rw [← hm']
  exact hms m (List.mem_reverse.mp hm)

/-- What is read at a brace inside a literal. -/
theorem isPhantom_of_value (h : value levels ('{' :: cs) = .ok (v, rest))
    (hclear : Clear p ('{' :: cs)) : IsPhantom v ∧ ∃ p, Clear p rest := by
  obtain ⟨used, rfl, hspelled⟩ := exists_spelled_of_value h
  have hinside : Clear .inside (used ++ rest) := hclear.of_brace
  rw [clear_append] at hinside
  refine ⟨?_, _, hinside.2⟩
  cases hspelled with
  | bare hbare =>
    exact absurd (by decide) (hbare.plain '{' (List.mem_cons_self ..))
  | emptyObject _ => exact ⟨[], rfl, nofun⟩
  | @object _ ms s body hs hmembers =>
    have hbody : Clear .inside body := by
      have := (clear_append.mp hinside.1).2
      rwa [hs.inside_run] at this
    obtain ⟨-, hforeign⟩ := hmembers.foreign hbody
    exact ⟨ms, rfl, fun m hm => hforeign m.1 (List.mem_map_of_mem hm)⟩

/-- **Inside literals there are phantoms only.** -/
theorem Salvaged.phantoms [Capacity] (h : Salvaged cs vs) (hclear : Clear p cs) :
    ∀ v ∈ vs, IsPhantom v := by
  induction h generalizing p with
  | nil => exact nofun
  | skipped _ _ ih => exact ih hclear.2
  | taken hv _ ih =>
    obtain ⟨hphantom, p, hrest⟩ := isPhantom_of_value hv hclear
    intro w hw
    rcases List.mem_cons.mp hw with rfl | hw
    · exact hphantom
    · exact ih hrest w hw
  | passed _ _ ih => exact ih hclear.2

/-! ### Counting records -/

theorem Idle.closedRecords_append (h : Idle gap) (cs : List Char) :
    closedRecords (gap ++ cs) = closedRecords cs := by
  induction gap with
  | nil => rfl
  | cons c gap ih =>
    obtain ⟨-, hbrace, hquote⟩ := h c (List.mem_cons_self ..)
    have hafter : Place.outside.after c = .outside := Place.after_of_isOutside rfl hquote
    have hcount : (if Place.outside.isOutside && c = '}' then 1 else 0) = 0 := by simp [hbrace]
    rw [List.cons_append, closedRecords, Place.closings, hafter, hcount, Nat.zero_add]
    exact ih fun d hd => h d (List.mem_cons_of_mem _ hd)

theorem Idle.closedRecords_eq_zero (h : Idle gap) : closedRecords gap = 0 := by
  have := h.closedRecords_append []
  rwa [List.append_nil] at this

theorem closings_eq_zero_of_not_mem (h : '}' ∉ cs) : p.closings cs = 0 := by
  induction cs generalizing p with
  | nil => rfl
  | cons c cs ih =>
    rw [List.mem_cons, not_or] at h
    have hcount : (if p.isOutside && c = '}' then 1 else 0) = 0 := by simp [Ne.symm h.1]
    rw [Place.closings, hcount, ih h.2]

/-- A record ends with its one closing brace. -/
theorem IsRecord.closedRecords_append (hrecord : v.IsRecord)
    (h : Spelled levels (.value v) used) (rest : List Char) :
    closedRecords (used ++ rest) = closedRecords rest + 1 := by
  obtain ⟨inner, rfl, hclear, hrun⟩ := hrecord.exists_inner h
  have hopen : closedRecords ('{' :: (inner ++ ['}']) ++ rest) =
      Place.outside.closings (inner ++ '}' :: rest) := by
    rw [closedRecords, List.cons_append, List.append_assoc, List.singleton_append, Place.closings]
    exact Nat.zero_add _
  have hafter : (Place.outside.run inner).after '}' = .outside :=
    Place.after_of_isOutside hrun (by decide)
  rw [hopen, Place.closings_append, hclear.closings_eq_zero, Place.closings, hrun, hafter,
    closedRecords]
  simp [Nat.add_comm]

theorem IsRecord.isObject (hrecord : v.IsRecord) : v.isObject = true := by
  obtain ⟨ms, rfl, -⟩ := hrecord
  rfl

variable [Capacity]

theorem Listed.closedRecords_eq {entries : List (List Char × Json)} (h : Listed Idle entries cs)
    (hrecords : ∀ e ∈ entries, e.2.IsRecord) : closedRecords cs = entries.length := by
  induction h with
  | last hgap => exact hgap.closedRecords_eq_zero
  | @object gap used rest v entries hgap _ hspelled _ ih =>
    have hrecord : v.IsRecord := hrecords (used, v) (List.mem_cons_self ..)
    rw [hgap.closedRecords_append, hrecord.closedRecords_append hspelled,
      ih fun e he => hrecords e (List.mem_cons_of_mem _ he), List.length_cons]

/-! ### One record -/

theorem IsRecord.salvaged_append_iff (hrecord : v.IsRecord)
    (h : Spelled maxNesting (.value v) used) :
    Salvaged (used ++ rest) vs ↔ ∃ more, vs = v :: more ∧ Salvaged rest more := by
  obtain ⟨inner, rfl, -⟩ := hrecord.exists_inner h
  exact salvaged_brace_iff_of_ok (h.value_eq (by decide) rest)

/-- **A record that was cut off.** It is not counted, and only phantoms are found in it. -/
theorem IsRecord.phantoms_of_cut (hrecord : v.IsRecord) (h : Spelled maxNesting (.value v) used)
    (hcut : used = cut ++ lost) (hlost : lost ≠ []) (hs : Salvaged cut vs) :
    closedRecords cut = 0 ∧ ∀ v ∈ vs, IsPhantom v := by
  obtain ⟨inner, rfl, hclear, -⟩ := hrecord.exists_inner h
  cases cut with
  | nil =>
    cases hs
    exact ⟨rfl, nofun⟩
  | cons c cut =>
    rw [List.cons_append, List.cons.injEq] at hcut
    obtain ⟨rfl, hcut⟩ := hcut
    have hprefix : Clear .outside cut := by
      obtain rfl | ⟨lost, c, rfl⟩ := List.eq_nil_or_concat lost
      · exact absurd rfl hlost
      · rw [List.concat_eq_append, ← List.append_assoc] at hcut
        rw [List.append_inj_left' hcut rfl, clear_append] at hclear
        exact hclear.1
    have hunread : ∀ w rest, value maxNesting ('{' :: cut) ≠ .ok (w, rest) := fun w rest =>
      h.value_ne_ok (by decide) hcut hlost
    refine ⟨?_, (hs.of_brace hunread).phantoms hprefix⟩
    have hopen : closedRecords ('{' :: cut) = Place.outside.closings cut := Nat.zero_add _
    rw [hopen, hprefix.closings_eq_zero]

/-! ### The beginning of a text -/

/-- What the search finds in the beginning of a text: the records that end there, and phantoms. -/
def FoundIn (rs : List Json) (cut : List Char) (vs : List Json) : Prop :=
  ∃ phantoms, vs = rs.take (closedRecords cut) ++ phantoms ∧ ∀ v ∈ phantoms, IsPhantom v

theorem foundIn_of_idle (h : Idle cut) (hs : Salvaged cut vs) : FoundIn rs cut vs := by
  refine ⟨[], ?_, nofun⟩
  rw [h.closedRecords_eq_zero, (salvaged_iff_of_not_mem h.not_mem).mp hs]
  rfl

/-- Idle text in front changes nothing. -/
theorem Idle.foundIn_of_append (h : Idle gap) (hcut : gap ++ tail = cut ++ lost)
    (htail : ∀ cut vs, tail = cut ++ lost → Salvaged cut vs → FoundIn rs cut vs)
    (hs : Salvaged cut vs) : FoundIn rs cut vs := by
  rcases List.append_eq_append_iff.mp hcut with ⟨more, rfl, hmore⟩ | ⟨lost', rfl, -⟩
  · rw [FoundIn, h.closedRecords_append]
    exact htail more vs hmore ((salvaged_append_iff h.not_mem).mp hs)
  · exact foundIn_of_idle h.of_append.1 hs

/-- A record in front is found if it is whole, and makes phantoms if it was cut off. -/
theorem IsRecord.foundIn_of_append (hrecord : v.IsRecord) (h : Spelled maxNesting (.value v) used)
    (hcut : used ++ tail = cut ++ lost)
    (htail : ∀ cut vs, tail = cut ++ lost → Salvaged cut vs → FoundIn rs cut vs)
    (hs : Salvaged cut vs) : FoundIn (v :: rs) cut vs := by
  have hbroken : ∀ {lost : List Char}, used = cut ++ lost → lost ≠ [] →
      FoundIn (v :: rs) cut vs := by
    intro lost hcut hlost
    obtain ⟨hclosed, hphantoms⟩ := hrecord.phantoms_of_cut h hcut hlost hs
    exact ⟨vs, by rw [hclosed]; rfl, hphantoms⟩
  have hwhole : ∀ more, cut = used ++ more → tail = more ++ lost → FoundIn (v :: rs) cut vs := by
    rintro more rfl hmore
    obtain ⟨found, rfl, hfound⟩ := (hrecord.salvaged_append_iff h).mp hs
    obtain ⟨phantoms, rfl, hphantoms⟩ := htail more found hmore hfound
    refine ⟨phantoms, ?_, hphantoms⟩
    rw [hrecord.closedRecords_append h, List.take_succ_cons, List.cons_append]
  rcases List.append_eq_append_iff.mp hcut with ⟨more, hcut, htail⟩ | ⟨lost', hused, hlost⟩
  · exact hwhole more hcut htail
  · by_cases hnil : lost' = []
    · subst hnil
      exact hwhole [] (by simpa using hused.symm) (by simpa using hlost.symm)
    · exact hbroken hused hnil

theorem Listed.foundIn {entries : List (List Char × Json)} (h : Listed Idle entries cs)
    (hrecords : ∀ e ∈ entries, e.2.IsRecord) (hcut : cs = cut ++ lost) (hs : Salvaged cut vs) :
    FoundIn (entries.map (·.2)) cut vs := by
  induction h generalizing cut vs with
  | last hgap =>
    rw [hcut] at hgap
    exact foundIn_of_idle hgap.of_append.1 hs
  | @object gap used rest v entries hgap _ hspelled _ ih =>
    have hrecord : v.IsRecord := hrecords (used, v) (List.mem_cons_self ..)
    refine hgap.foundIn_of_append hcut (fun cut vs hcut hs => ?_) hs
    refine hrecord.foundIn_of_append hspelled hcut (fun cut vs hcut hs => ?_) hs
    exact ih (fun e he => hrecords e (List.mem_cons_of_mem _ he)) hcut hs

theorem exists_records_of_decode (h : decode whole = .ok (.array rs))
    (hrecords : ∀ r ∈ rs, r.IsRecord) :
    ∃ entries, entries.map (·.2) = rs ∧ Listed Idle entries whole.toList ∧
      ∀ e ∈ entries, e.2.IsRecord := by
  obtain ⟨entries, rfl, hlisted⟩ := listed_of_decode h fun r hr => (hrecords r hr).isObject
  exact ⟨entries, rfl, hlisted, fun e he => hrecords e.2 (List.mem_map_of_mem he)⟩

/-- **What the search finds in the beginning of the text of an array of records.** -/
theorem foundIn_of_decode (h : decode whole = .ok (.array rs)) (hrecords : ∀ r ∈ rs, r.IsRecord)
    (hcut : whole.toList = cut ++ lost) (hs : Salvaged cut vs) : FoundIn rs cut vs := by
  obtain ⟨entries, rfl, hlisted, hentries⟩ := exists_records_of_decode h hrecords
  exact hlisted.foundIn hentries hcut hs

/-- A beginning of that text that can be read as a whole has all the records. -/
theorem closedRecords_of_decode_cut (h : decode whole = .ok (.array rs))
    (hrecords : ∀ r ∈ rs, r.IsRecord) (hcut : whole.toList = text.toList ++ lost)
    (htext : decode text = .ok v) : closedRecords text.toList = rs.length := by
  obtain ⟨-, hlost⟩ := eq_of_decode_cut h rfl hcut htext
  obtain ⟨entries, rfl, hlisted, hentries⟩ := exists_records_of_decode h hrecords
  have hcount := hlisted.closedRecords_eq hentries
  have hnone : '}' ∉ lost := fun hmem => (hlost.idle _ hmem).2.1 rfl
  rwa [hcut, closedRecords, Place.closings_append, closings_eq_zero_of_not_mem hnone,
    ← List.length_map] at hcount

end Json

end BuildDescriptor
