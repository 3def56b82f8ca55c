import BuildDescriptor.Proofs.Project.Loading
import BuildDescriptor.Proofs.Project.Pairs
import Mathlib.Algebra.Group.Nat.Defs

/-!
# A project that is asked again

A project may be loaded, and its units listed, any number of times and in any order. Each call adds
the contents of the file to what is there already, so after `n` calls every source file, every
variant and every group of options is there `n` times. The units range over all three at once. In
the list that the next call gives, each unit therefore stands `(n + 1) ^ 3` times as often as in the
list that a new project gives: none is lost, and if there are any at all, then the second list
differs from the first.

## Main definitions

* `Project.Call`, `Project.after`, `Project.afterAll` — a project after one call, or several
* `Project.listed` — the units that a call gives
* `Project.Contents.times` — contents that were added several times

## Main results

* `Project.after_of_root`, `Project.afterAll_of_root` — what is there after one call, or several
* `Project.count_units_times` — how often a unit is listed
* `Project.listed_afterAll` — the list that a project gives, against that of a new one
-/

namespace BuildDescriptor

namespace Project

variable {p : Project} {fs : FileSystem} {r : Condition.Rule} {root : Xml.Element}
  {reason : Xml.Unreadable} {fault : Fault}

/-- What a project can be asked to do. -/
inductive Call
  | load
  | importUnits
deriving DecidableEq, Repr

/-- A project after a call. A fault leaves it as it is. -/
def after (fs : FileSystem) (r : Condition.Rule) (p : Project) : Call → Project
  | .load => match p.load fs with
    | .ok loaded => loaded.value.2
    | .error _ => p
  | .importUnits => match p.importUnits fs r with
    | .ok imported => imported.value.2
    | .error _ => p

/-- A project after several calls. -/
def afterAll (fs : FileSystem) (r : Condition.Rule) (p : Project) (calls : List Call) : Project :=
  calls.foldl (after fs r) p

/-- The units that a call gives. -/
def listed (fs : FileSystem) (r : Condition.Rule) (p : Project) :
    Except Fault (List CompileUnit) :=
  (p.importUnits fs r).map fun imported => imported.value.1

/-! ### Contents that were added several times -/

namespace Contents

/-- Contents that were added several times. -/
def times (n : Nat) (c : Contents) : Contents where
  variants := (List.replicate n c.variants).flatten
  sources := (List.replicate n c.sources).flatten
  groups := (List.replicate n c.groups).flatten

theorem append_assoc (a b c : Contents) : a ++ b ++ c = a ++ (b ++ c) := by
  cases a
  cases b
  cases c
  simp only [HAppend.hAppend, Append.append, mk.injEq]
  exact ⟨List.append_assoc .., List.append_assoc .., List.append_assoc ..⟩

theorem append_empty (c : Contents) : c ++ ({} : Contents) = c := by
  cases c
  simp only [HAppend.hAppend, Append.append, mk.injEq]
  exact ⟨List.append_nil _, List.append_nil _, List.append_nil _⟩

theorem empty_append (c : Contents) : ({} : Contents) ++ c = c := rfl

theorem times_zero (c : Contents) : c.times 0 = {} := rfl

theorem times_succ (n : Nat) (c : Contents) : c.times (n + 1) = c ++ c.times n := by
  simp only [times, List.replicate_succ, List.flatten_cons]
  rfl

end Contents

/-! ### Calls -/

theorem after_of_root (h : Xml.readFile fs p.path = .ok (.ok root)) (call : Call) :
    p.after fs r call = p.extend root := by
  cases call with
  | load =>
    obtain ⟨log, hload⟩ := load_of_root h
    simp only [after, hload]
  | importUnits =>
    obtain ⟨log, himport⟩ := importUnits_of_root r h
    simp only [after, himport]

theorem after_of_unreadable (h : Xml.readFile fs p.path = .ok (.error reason)) (call : Call) :
    p.after fs r call = p := by
  cases call with
  | load => simp only [after, load_of_unreadable h]
  | importUnits => simp only [after, importUnits_of_unreadable r h]

theorem after_of_fault (h : Xml.readFile fs p.path = .error fault) (call : Call) :
    p.after fs r call = p := by
  cases call with
  | load => simp only [after, load_of_fault h]
  | importUnits => simp only [after, importUnits_of_fault r h]

/-- After `n` calls the contents of the file were added `n` times, whichever calls these were. By
induction on the calls, from any project. -/
theorem afterAll_of_root (h : Xml.readFile fs p.path = .ok (.ok root)) (calls : List Call) :
    p.afterAll fs r calls =
      { p with contents := p.contents ++ (Contents.ofRoot root).times calls.length } := by
  induction calls generalizing p with
  | nil =>
    rw [List.length_nil, Contents.times_zero, Contents.append_empty]
    rfl
  | cons call calls ih =>
    have hnext : (p.extend root).afterAll fs r calls = _ := ih (p := p.extend root) h
    rw [afterAll, List.foldl_cons, after_of_root h, ← afterAll, hnext, List.length_cons,
      Contents.times_succ, ← Contents.append_assoc]
    rfl

theorem afterAll_of_after (h : ∀ call, p.after fs r call = p) (calls : List Call) :
    p.afterAll fs r calls = p := by
  induction calls with
  | nil => rfl
  | cons call calls ih => rw [afterAll, List.foldl_cons, h, ← afterAll, ih]

/-! ### Lists -/

theorem listed_of_root (h : Xml.readFile fs p.path = .ok (.ok root)) :
    p.listed fs r = .ok ((p.extend root).units r) := by
  obtain ⟨log, himport⟩ := importUnits_of_root r h
  rw [listed, himport]
  rfl

theorem listed_of_unreadable (h : Xml.readFile fs p.path = .ok (.error reason)) :
    p.listed fs r = .ok [] := by
  rw [listed, importUnits_of_unreadable r h]
  rfl

theorem listed_of_fault (h : Xml.readFile fs p.path = .error fault) :
    p.listed fs r = .error fault := by
  rw [listed, importUnits_of_fault r h]
  rfl

/-- The call behind some calls lists the units of what all of them have added. -/
theorem listed_afterAll_of_root (h : Xml.readFile fs p.path = .ok (.ok root)) (calls : List Call) :
    (p.afterAll fs r calls).listed fs r = .ok (units
      { p with contents := p.contents ++ (Contents.ofRoot root).times (calls.length + 1) } r) := by
  have hpath : (p.afterAll fs r calls).path = p.path := by rw [afterAll_of_root h]
  have hroot : Xml.readFile fs (p.afterAll fs r calls).path = .ok (.ok root) := by rwa [hpath]
  have hall : (p.afterAll fs r calls).extend root = p.afterAll fs r (calls ++ [.importUnits]) := by
    rw [afterAll, afterAll, List.foldl_append, List.foldl_cons, List.foldl_nil, ← afterAll,
      after_of_root hroot]
  rw [listed_of_root hroot, hall, afterAll_of_root h, List.length_append]
  rfl

/-! ### How often a unit is listed -/

section Count

variable {α β : Type} [BEq β] {u : β}

theorem count_flatten_replicate {f : List α → List β} (hnil : f [] = [])
    (happend : ∀ xs ys, f (xs ++ ys) = f xs ++ f ys) (n : Nat) (xs : List α) :
    (f (List.replicate n xs).flatten).count u = n * (f xs).count u := by
  induction n with
  | zero => simp [hnil]
  | succ n ih =>
    rw [List.replicate_succ, List.flatten_cons, happend, List.count_append, ih, Nat.succ_mul,
      Nat.add_comm]

theorem count_flatten_replicate_flatMap (f : α → List β) (n : Nat) (xs : List α) :
    ((List.replicate n xs).flatten.flatMap f).count u = n * (xs.flatMap f).count u :=
  count_flatten_replicate (f := List.flatMap f) rfl (fun _ _ => List.flatMap_append) n xs

theorem count_flatMap_of_count {f g : α → List β} {n : Nat}
    (h : ∀ x, (f x).count u = n * (g x).count u) (xs : List α) :
    (xs.flatMap f).count u = n * (xs.flatMap g).count u := by
  induction xs with
  | nil => rfl
  | cons x xs ih =>
    rw [List.flatMap_cons, List.count_append, h, ih, List.flatMap_cons, List.count_append,
      Nat.mul_add]

end Count

/-- **How often a unit is listed.** Once for each choice of a source file, a variant and a group
that make it, and of each of these there are `n`. -/
theorem count_units_times (p : Project) (r : Condition.Rule) (n : Nat) (u : CompileUnit) :
    (units { p with contents := p.contents.times n } r).count u = n ^ 3 * (p.units r).count u := by
  have hgroups (source : String) (v : Variant) :
      (((List.replicate n p.contents.groups).flatten.filter fun g => g.appliesTo r v).map
          fun g => p.unitOf source v g).count u =
        n * ((p.contents.groups.filter fun g => g.appliesTo r v).map
          fun g => p.unitOf source v g).count u :=
    count_flatten_replicate (f := fun gs => (gs.filter fun g => g.appliesTo r v).map
      fun g => p.unitOf source v g) rfl (by simp) n p.contents.groups
  have hvariants (source : String) :
      ((List.replicate n p.contents.variants).flatten.flatMap fun v =>
          ((List.replicate n p.contents.groups).flatten.filter fun g => g.appliesTo r v).map
            fun g => p.unitOf source v g).count u =
        n * n * (p.contents.variants.flatMap fun v =>
          (p.contents.groups.filter fun g => g.appliesTo r v).map
            fun g => p.unitOf source v g).count u := by
    rw [count_flatten_replicate_flatMap, count_flatMap_of_count (hgroups source), Nat.mul_assoc]
  calc (units { p with contents := p.contents.times n } r).count u
    _ = n * (n * n * (p.units r).count u) := by
        rw [units, Contents.times, count_flatten_replicate_flatMap]
        exact congrArg _ (count_flatMap_of_count hvariants _)
    _ = n ^ 3 * (p.units r).count u := by rw [Nat.pow_succ', Nat.pow_two, Nat.mul_assoc n (n * n)]

/-- Repetition changes a list, unless there is nothing to repeat. -/
theorem eq_iff_of_count {units more : List CompileUnit} {n : Nat}
    (hcount : ∀ u, more.count u = (n + 1) ^ 3 * units.count u) (hzero : n = 0 → more = units) :
    more = units ↔ n = 0 ∨ units = [] := by
  constructor
  · rintro rfl
    refine or_iff_not_imp_right.mpr fun hne => ?_
    obtain ⟨u, hu⟩ := List.exists_mem_of_ne_nil _ hne
    have hpower : (n + 1) ^ 3 = 1 :=
      Nat.eq_of_mul_eq_mul_right (List.count_pos_iff.mpr hu) (by rw [← hcount u, Nat.one_mul])
    exact Nat.succ.inj ((Nat.pow_eq_one.mp hpower).resolve_right (by decide))
  · rintro (hn | rfl)
    · exact hzero hn
    · refine List.eq_nil_iff_forall_not_mem.mpr fun u hu => ?_
      have hpos := List.count_pos_iff.mpr hu
      rw [hcount u, List.count_nil, Nat.mul_zero] at hpos
      exact Nat.lt_irrefl 0 hpos

/-- **Asking again.** Where a new project gives a list of units, a project that was asked before
gives one with the same units, each of them `(n + 1) ^ 3` times as often if it was asked `n` times.
The lists are the same only if nothing was asked before, or if there are no units. Where asking is a
fault, it is the same fault every time. -/
theorem listed_afterAll (fs : FileSystem) (r : Condition.Rule) (path : Path) (calls : List Call) :
    (∃ fault, listed fs r { path := path } = .error fault ∧
        (afterAll fs r { path := path } calls).listed fs r = .error fault) ∨
      ∃ units more, listed fs r { path := path } = .ok units ∧
        (afterAll fs r { path := path } calls).listed fs r = .ok more ∧
        (∀ u, more.count u = (calls.length + 1) ^ 3 * units.count u) ∧
        (more = units ↔ calls = [] ∨ units = []) := by
  generalize hp : ({ path := path } : Project) = p
  have hempty : p.contents = {} := by rw [← hp]
  cases hread : Xml.readFile fs p.path with
  | error fault =>
    have hsame := afterAll_of_after (after_of_fault (r := r) hread) calls
    exact .inl ⟨fault, listed_of_fault hread, by rw [hsame, listed_of_fault hread]⟩
  | ok read =>
    refine .inr ?_
    cases read with
    | error reason =>
      have hsame := afterAll_of_after (after_of_unreadable (r := r) hread) calls
      exact ⟨[], [], listed_of_unreadable hread, by rw [hsame, listed_of_unreadable hread],
        by simp, by simp⟩
    | ok root =>
      have hextend : p.extend root = { p with contents := .ofRoot root } := by
        rw [extend, hempty, Contents.empty_append]
      have hcount (u : CompileUnit) := count_units_times (p.extend root) r (calls.length + 1) u
      have hmore := listed_afterAll_of_root (r := r) hread calls
      rw [hempty, Contents.empty_append] at hmore
      refine ⟨_, _, listed_of_root hread, hmore, ?_⟩
      rw [hextend] at hcount ⊢
      refine ⟨hcount, ?_⟩
      rw [← List.length_eq_zero_iff]
      refine eq_iff_of_count hcount fun hzero => ?_
      rw [hzero, Contents.times_succ, Contents.times_zero, Contents.append_empty]

/-- A project with one source file and a group for each of two variants. A new project lists two
units, and lists sixteen when it is asked once more. -/
theorem listed_again_sample :
    (listed Sample.files .standard { path := Sample.path }).map List.length = .ok 2 ∧
      ((afterAll Sample.files .standard { path := Sample.path } [.importUnits]).listed Sample.files
        .standard).map List.length = .ok 16 := by
  have hroot : Xml.readFile Sample.files ({ path := Sample.path } : Project).path =
      .ok (.ok Sample.root) := Sample.readFile_eq
  constructor
  · rw [listed_of_root hroot, extend, Sample.ofRoot_eq]
    exact congrArg Except.ok (by decide +kernel)
  · rw [listed_afterAll_of_root hroot, Sample.ofRoot_eq]
    exact congrArg Except.ok (by decide +kernel)

end Project

end BuildDescriptor
