import BuildDescriptor.Proofs.Json.Listing
import BuildDescriptor.Proofs.Json.Salvage

/-!
# What stands around the objects of a text

An object ends itself, and the search looks for nothing but braces. So what stands before, between
and after the objects of a text does not matter to it, as long as there is no brace that opens: not
the brackets and commas of an array, and not whatever is left of them in a damaged text. The search
finds the objects, and in the text of an array it finds what reading the array gives.

The objects and their texts are settled by the text. A list of them has to begin at the first brace,
go on with what is read there, and so on.

## Main definitions

* `Json.BraceFree` — a text without a brace that opens

## Main results

* `Json.Listed.salvaged` — the search finds the objects, whatever stands around them
* `Json.Listed.entries_eq` — a text lists its objects in one way
* `Json.objectsIn_of_decode` — searching and reading the text of an array of objects
-/

namespace BuildDescriptor

namespace Json

variable {levels : Nat} {cs used gap gap' rest rest' : List Char} {v : Json} {vs : List Json}
  {entries entries' : List (List Char × Json)} {text : String}

variable [Capacity]

/-- A text without a brace that opens. -/
def BraceFree (cs : List Char) : Prop := '{' ∉ cs

instance (cs : List Char) : Decidable (BraceFree cs) := inferInstanceAs (Decidable ('{' ∉ cs))

theorem Listed.mono {between between' : List Char → Prop} (h : Listed between entries cs)
    (himp : ∀ gap, between gap → between' gap) : Listed between' entries cs := by
  induction h with
  | last hgap => exact .last (himp _ hgap)
  | object hgap hv hspelled _ ih => exact .object (himp _ hgap) hv hspelled ih

omit [Capacity] in
/-- The text of an object begins with a brace. -/
theorem Spelled.exists_brace (h : Spelled levels (.value v) used) (hv : v.isObject = true) :
    ∃ inner, used = '{' :: inner := by
  cases h with
  | string _ => cases hv
  | bare hbare =>
    cases v with
    | object ms => cases hbare.isContainer_eq_false
    | _ => cases hv
  | emptyArray _ => cases hv
  | array _ _ => cases hv
  | emptyObject _ => exact ⟨_, rfl⟩
  | object _ _ => exact ⟨_, rfl⟩

/-! ### The search -/

/-- **The search finds the objects, whatever stands around them.** By induction on the objects: the
search comes to the first brace, and takes the object. -/
theorem Listed.salvaged (h : Listed BraceFree entries cs) : Salvaged cs (entries.map (·.2)) := by
  induction h with
  | last hgap => exact (salvaged_iff_of_not_mem hgap).mpr rfl
  | @object gap used rest v entries hgap hv hspelled _ ih =>
    obtain ⟨inner, rfl⟩ := hspelled.exists_brace hv
    rw [salvaged_append_iff hgap, List.cons_append, List.map_cons]
    exact .taken (hspelled.value_eq (by decide) rest) ih

/-- **Searching and reading the text of an array of objects.** -/
theorem objectsIn_of_decode (h : decode text = .ok (.array vs))
    (hobjects : ∀ v ∈ vs, v.isObject = true) : objectsIn text = .ok vs := by
  obtain ⟨entries, rfl, hlisted⟩ := listed_of_decode h hobjects
  exact objectsIn_eq_ok_iff.mpr (hlisted.mono fun _ => Idle.not_mem).salvaged

/-! ### The objects of a text -/

omit [Capacity] in
/-- Up to the first brace there is one way to cut a text. -/
theorem eq_of_append_brace (hgap : BraceFree gap) (hgap' : BraceFree gap')
    (h : gap ++ '{' :: rest = gap' ++ '{' :: rest') : gap = gap' ∧ rest = rest' := by
  rcases List.append_eq_append_iff.mp h with ⟨more, hmore, hcut⟩ | ⟨more, hmore, hcut⟩
  · cases more with
    | nil => exact ⟨by simpa using hmore.symm, by simpa using hcut⟩
    | cons c more =>
      obtain ⟨rfl, -⟩ := List.cons.inj hcut
      exact absurd (hmore ▸ List.mem_append_right _ (List.mem_cons_self ..)) hgap'
  · cases more with
    | nil => exact ⟨by simpa using hmore, by simpa using hcut.symm⟩
    | cons c more =>
      obtain ⟨rfl, -⟩ := List.cons.inj hcut
      exact absurd (hmore ▸ List.mem_append_right _ (List.mem_cons_self ..)) hgap

/-- **A text lists its objects in one way.** -/
theorem Listed.entries_eq (h : Listed BraceFree entries cs) (h' : Listed BraceFree entries' cs) :
    entries' = entries := by
  induction h generalizing entries' with
  | @last gap hgap =>
    cases h' with
    | last _ => rfl
    | object _ hv hspelled _ =>
      obtain ⟨inner, rfl⟩ := hspelled.exists_brace hv
      exact absurd (by simp) hgap
  | @object gap used rest v entries hgap hv hspelled _ ih =>
    obtain ⟨inner, rfl⟩ := hspelled.exists_brace hv
    generalize hcs : gap ++ ('{' :: inner ++ rest) = cs at h'
    cases h' with
    | last hgap' =>
      rw [← hcs] at hgap'
      exact absurd (by simp) hgap'
    | @object gap' used' rest' v' entries' hgap' hv' hspelled' hmore' =>
      obtain ⟨inner', rfl⟩ := hspelled'.exists_brace hv'
      obtain ⟨-, htail⟩ : gap = gap' ∧ inner ++ rest = inner' ++ rest' :=
        eq_of_append_brace hgap hgap' hcs
      -- the same object is read behind the brace, and the same text is left
      have hread := hspelled.value_eq (by decide) rest
      rw [htail, hspelled'.value_eq (by decide) rest'] at hread
      obtain ⟨rfl, rfl⟩ : v' = v ∧ rest' = rest := by simpa using hread
      rw [List.append_cancel_right htail, ih hmore']

end Json

end BuildDescriptor
