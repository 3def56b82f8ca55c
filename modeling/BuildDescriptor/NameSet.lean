/-!
# Sets of names

A finite set of strings, kept as its members in increasing order of their code points. The order is
part of the type, so equal sets are equal values and listing a set is canonical: neither the order
of insertion nor repetition can be seen.

## Main definitions

* `NameSet` — a strictly increasing list of strings
* `NameSet.insert`, `NameSet.ofList` — adding one name, or all names of a list

## Main results

* `NameSet.mem_insert`, `NameSet.mem_ofList` — the members
* `NameSet.ext_mem` — a set is determined by its members
-/

namespace BuildDescriptor

/-- A set of strings, as its members in increasing order. -/
structure NameSet where
  toList : List String
  increasing : toList.Pairwise (· < ·)
deriving DecidableEq

namespace NameSet

/-- The set without members. -/
def empty : NameSet := ⟨[], .nil⟩

instance : Inhabited NameSet := ⟨empty⟩

instance : EmptyCollection NameSet := ⟨empty⟩

instance : Membership String NameSet := ⟨fun set name => name ∈ set.toList⟩

theorem mem_def {name : String} {set : NameSet} : name ∈ set ↔ name ∈ set.toList := Iff.rfl

instance (name : String) (set : NameSet) : Decidable (name ∈ set) :=
  inferInstanceAs (Decidable (name ∈ set.toList))

/-! ### Insertion -/

/-- A name put in its place in an increasing list, unless it is there already. -/
def place (name : String) : List String → List String
  | [] => [name]
  | other :: rest =>
    if name < other then name :: other :: rest
    else if name = other then other :: rest
    else other :: place name rest

theorem mem_place {name other : String} {names : List String} :
    other ∈ place name names ↔ other = name ∨ other ∈ names := by
  induction names with
  | nil => simp [place]
  | cons first rest ih =>
    unfold place
    split
    · simp
    · split
      · rename_i h
        subst h
        simp
      · simp only [List.mem_cons, ih]
        grind

theorem place_increasing {name : String} {names : List String} (h : names.Pairwise (· < ·)) :
    (place name names).Pairwise (· < ·) := by
  induction names with
  | nil => simp [place]
  | cons first rest ih =>
    obtain ⟨hfirst, hrest⟩ := List.pairwise_cons.1 h
    unfold place
    split
    · rename_i hlt
      refine List.pairwise_cons.2 ⟨fun other hmem => ?_, h⟩
      rcases List.mem_cons.1 hmem with rfl | hmem
      · exact hlt
      · exact String.lt_trans hlt (hfirst other hmem)
    · split
      · exact h
      · rename_i hlt hne
        refine List.pairwise_cons.2 ⟨fun other hmem => ?_, ih hrest⟩
        rcases mem_place.1 hmem with rfl | hmem
        · grind
        · exact hfirst other hmem

/-- The set with one more name. -/
def insert (name : String) (set : NameSet) : NameSet :=
  ⟨place name set.toList, place_increasing set.increasing⟩

/-- The set of the names in a list. -/
def ofList (names : List String) : NameSet :=
  names.foldl (fun set name => set.insert name) empty

/-! ### Members -/

@[simp] theorem mem_empty {name : String} : ¬ name ∈ empty := by
  simp [mem_def, empty]

@[simp] theorem mem_insert {name other : String} {set : NameSet} :
    other ∈ set.insert name ↔ other = name ∨ other ∈ set := mem_place

private theorem mem_foldl_insert {name : String} (names : List String) (set : NameSet) :
    name ∈ names.foldl (fun set name => set.insert name) set ↔ name ∈ names ∨ name ∈ set := by
  induction names generalizing set with
  | nil => simp
  | cons first rest ih =>
    rw [List.foldl_cons, ih, mem_insert, List.mem_cons]
    grind

@[simp] theorem mem_ofList {name : String} {names : List String} :
    name ∈ ofList names ↔ name ∈ names := by
  rw [ofList, mem_foldl_insert]
  simp

private theorem eq_of_mem_iff {names others : List String} (h : names.Pairwise (· < ·))
    (h' : others.Pairwise (· < ·)) (hmem : ∀ name, name ∈ names ↔ name ∈ others) :
    names = others := by
  induction names generalizing others with
  | nil =>
    cases others with
    | nil => rfl
    | cons other rest => exact absurd ((hmem other).2 (by simp)) (by simp)
  | cons first names ih =>
    cases others with
    | nil => exact absurd ((hmem first).1 (by simp)) (by simp)
    | cons other others =>
      obtain ⟨hfirst, hnames⟩ := List.pairwise_cons.1 h
      obtain ⟨hother, hothers⟩ := List.pairwise_cons.1 h'
      have heq : first = other := by
        rcases List.mem_cons.1 ((hmem first).1 (by simp)) with rfl | hin
        · rfl
        · rcases List.mem_cons.1 ((hmem other).2 (by simp)) with rfl | hin'
          · rfl
          · exact absurd (hfirst other hin') (String.lt_asymm (hother first hin))
      subst heq
      rw [ih hnames hothers fun name => ?_]
      have := hmem name
      have := hfirst name
      have := hother name
      have := String.lt_irrefl first
      grind

theorem ext_mem {set other : NameSet} (h : ∀ name, name ∈ set ↔ name ∈ other) : set = other := by
  cases set
  cases other
  simpa using eq_of_mem_iff ‹_› ‹_› h

end NameSet

end BuildDescriptor
