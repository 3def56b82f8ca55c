import BuildDescriptor.Json.Salvage
import BuildDescriptor.Proofs.Json.Spelling
import Mathlib.Data.List.Infix

/-!
# The search for objects

The search of a damaged text goes from brace to brace in a number of rounds. Here it is a relation
between a text and what is found in it, one character or one object at a time, and the rounds are
gone: there are as many as the text has braces, and each round takes one.

## Main definitions

* `Json.Salvaged` — what the search finds
* `Json.Reached` — the places that the search gets to
* `Json.OnlyMalformed`, `Json.Ordinary` — nothing but a malformed text stops the reader

## Main results

* `Json.objectsIn_eq_ok_iff` — the search as a relation
* `Json.objectsIn_eq_error_iff` — when the search is stopped
* `Json.Ordinary.exists_objectsIn` — the search ends with a result
-/

namespace BuildDescriptor

namespace Json

variable {cs rest gap : List Char} {c : Char} {v : Json} {vs : List Json} {rounds : Nat}

variable [Capacity]

/-- The objects that the search of a text finds. -/
inductive Salvaged : List Char → List Json → Prop
  | nil : Salvaged [] []
  | skipped {c : Char} {cs : List Char} {vs : List Json} (hc : c ≠ '{') (hmore : Salvaged cs vs) :
      Salvaged (c :: cs) vs
  | taken {cs rest : List Char} {v : Json} {vs : List Json}
      (h : value maxNesting ('{' :: cs) = .ok (v, rest)) (hmore : Salvaged rest vs) :
      Salvaged ('{' :: cs) (v :: vs)
  | passed {cs : List Char} {vs : List Json}
      (h : value maxNesting ('{' :: cs) = .error .malformed) (hmore : Salvaged cs vs) :
      Salvaged ('{' :: cs) vs

/-! ### Between the braces -/

theorem salvaged_cons_iff (hc : c ≠ '{') : Salvaged (c :: cs) vs ↔ Salvaged cs vs := by
  constructor
  · intro h
    cases h with
    | skipped _ hmore => exact hmore
    | taken _ _ => exact absurd rfl hc
    | passed _ _ => exact absurd rfl hc
  · exact .skipped hc

theorem salvaged_append_iff (hgap : '{' ∉ gap) : Salvaged (gap ++ cs) vs ↔ Salvaged cs vs := by
  induction gap with
  | nil => rfl
  | cons c gap ih =>
    rw [List.mem_cons, not_or] at hgap
    rw [List.cons_append, salvaged_cons_iff (Ne.symm hgap.1), ih hgap.2]

theorem salvaged_nil_iff : Salvaged [] vs ↔ vs = [] := by
  constructor
  · intro h
    cases h
    rfl
  · rintro rfl
    exact .nil

theorem salvaged_iff_of_not_mem (h : '{' ∉ cs) : Salvaged cs vs ↔ vs = [] := by
  have hnil : Salvaged (cs ++ []) vs ↔ Salvaged [] vs := salvaged_append_iff h
  rw [← salvaged_nil_iff, ← hnil, List.append_nil]

omit [Capacity] in
/-- A text is its part before the first brace, and the rest. -/
theorem exists_gap (cs : List Char) :
    ∃ gap, '{' ∉ gap ∧ cs = gap ++ cs.dropWhile (· ≠ '{') := by
  refine ⟨cs.takeWhile (· ≠ '{'), ?_, List.takeWhile_append_dropWhile.symm⟩
  intro h
  have := List.mem_takeWhile_imp h
  simp at this

/-! ### At a brace -/

theorem salvaged_brace_iff_of_ok (h : value maxNesting ('{' :: cs) = .ok (v, rest)) :
    Salvaged ('{' :: cs) vs ↔ ∃ more, vs = v :: more ∧ Salvaged rest more := by
  constructor
  · intro hs
    cases hs with
    | skipped hc _ => exact absurd rfl hc
    | taken h' hmore =>
      rw [h] at h'
      cases h'
      exact ⟨_, rfl, hmore⟩
    | passed h' _ =>
      rw [h] at h'
      cases h'
  · rintro ⟨more, rfl, hmore⟩
    exact .taken h hmore

/-- Nothing is found at a brace where no value can be read. -/
theorem Salvaged.of_brace (hs : Salvaged ('{' :: cs) vs)
    (h : ∀ w rest, value maxNesting ('{' :: cs) ≠ .ok (w, rest)) : Salvaged cs vs := by
  cases hs with
  | skipped hc _ => exact absurd rfl hc
  | taken hv _ => exact absurd hv (h _ _)
  | passed _ hmore => exact hmore

/-! ### The rounds -/

/-- Each value takes the brace at which it is read. -/
theorem count_lt_of_value (h : value maxNesting ('{' :: cs) = .ok (v, rest)) :
    rest.count '{' < ('{' :: cs).count '{' := by
  obtain ⟨used, rfl, -⟩ := exists_spelled_of_value h
  rw [List.count_cons_self, List.count_append]
  omega

theorem salvaged_of_objectsFrom (hrounds : cs.count '{' ≤ rounds)
    (h : objectsFrom rounds cs = .ok vs) : Salvaged cs vs := by
  induction rounds generalizing cs vs with
  | zero =>
    cases h
    exact (salvaged_iff_of_not_mem (List.count_eq_zero.mp (Nat.le_zero.mp hrounds))).mpr rfl
  | succ rounds ih =>
    obtain ⟨gap, hgap, hcs⟩ := exists_gap cs
    rw [hcs, salvaged_append_iff hgap]
    have hcount : (cs.dropWhile (· ≠ '{')).count '{' ≤ rounds + 1 := by
      rw [hcs, List.count_append] at hrounds
      omega
    rw [objectsFrom] at h
    split at h
    · rename_i hdrop
      cases h
      rw [hdrop]
      exact .nil
    · rename_i brace more hdrop
      have hbrace : brace = '{' := by
        have := List.head?_dropWhile_not (fun c => decide (c ≠ '{')) cs
        rw [hdrop] at this
        simpa using this
      subst hbrace
      rw [hdrop] at hcount ⊢
      split at h
      · rename_i v rest hv
        rw [bind_eq_ok] at h
        obtain ⟨vs, hvs, hok⟩ := h
        cases hok
        exact .taken hv (ih (by have := count_lt_of_value hv; omega) hvs)
      · rename_i hv
        rw [List.count_cons_self] at hcount
        exact .passed hv (ih (by omega) h)
      · cases h

theorem objectsFrom_cons (hc : c ≠ '{') (cs : List Char) :
    objectsFrom rounds (c :: cs) = objectsFrom rounds cs := by
  cases rounds with
  | zero => rfl
  | succ rounds =>
    have hdrop : (c :: cs).dropWhile (· ≠ '{') = cs.dropWhile (· ≠ '{') :=
      List.dropWhile_cons_of_pos (by simpa using hc)
    rw [objectsFrom, objectsFrom, hdrop]

omit [Capacity] in
theorem dropWhile_brace (cs : List Char) : ('{' :: cs).dropWhile (· ≠ '{') = '{' :: cs :=
  List.dropWhile_cons_of_neg (by simp)

theorem objectsFrom_of_ok (h : value maxNesting ('{' :: cs) = .ok (v, rest))
    (hmore : objectsFrom rounds rest = .ok vs) :
    objectsFrom (rounds + 1) ('{' :: cs) = .ok (v :: vs) := by
  rw [objectsFrom, dropWhile_brace]
  simp only [h, hmore, ok_bind]
  rfl

theorem objectsFrom_of_malformed (h : value maxNesting ('{' :: cs) = .error .malformed) :
    objectsFrom (rounds + 1) ('{' :: cs) = objectsFrom rounds cs := by
  rw [objectsFrom, dropWhile_brace]
  simp only [h]

theorem Salvaged.objectsFrom_eq (h : Salvaged cs vs) (hrounds : cs.count '{' ≤ rounds) :
    objectsFrom rounds cs = .ok vs := by
  induction h generalizing rounds with
  | nil => cases rounds <;> rfl
  | skipped hc _ ih =>
    rw [List.count_cons_of_ne hc] at hrounds
    rw [objectsFrom_cons hc, ih hrounds]
  | taken hv _ ih =>
    have hlt := count_lt_of_value hv
    obtain ⟨rounds, rfl⟩ := Nat.exists_eq_add_one_of_ne_zero (n := rounds) (by omega)
    exact objectsFrom_of_ok hv (ih (by omega))
  | passed hv _ ih =>
    rw [List.count_cons_self] at hrounds
    obtain ⟨rounds, rfl⟩ := Nat.exists_eq_add_one_of_ne_zero (n := rounds) (by omega)
    rw [objectsFrom_of_malformed hv]
    exact ih (by omega)

/-- **The search as a relation.** The rounds are enough. -/
theorem objectsIn_eq_ok_iff {text : String} :
    objectsIn text = .ok vs ↔ Salvaged text.toList vs :=
  ⟨salvaged_of_objectsFrom (Nat.le_refl _), fun h => h.objectsFrom_eq (Nat.le_refl _)⟩

/-! ### When the search ends -/

/-- Nothing but a malformed text has stopped a reader. -/
def OnlyMalformed {α : Type} : Except Failure α → Prop
  | .ok _ => True
  | .error failure => failure = .malformed

instance {α : Type} (x : Except Failure α) : Decidable (OnlyMalformed x) :=
  match x with
  | .ok _ => isTrue trivial
  | .error failure => inferInstanceAs (Decidable (failure = .malformed))

/-- A text in which nothing but its being malformed stops the reader, be it at the start or at a
brace. -/
structure Ordinary (text : String) : Prop where
  decode : OnlyMalformed (decode text)
  value : ∀ cs, '{' :: cs <:+ text.toList → OnlyMalformed (value maxNesting ('{' :: cs))

theorem ordinary_iff {text : String} :
    Ordinary text ↔ OnlyMalformed (Json.decode text) ∧
      ∀ tail ∈ text.toList.tails, tail.head? = some '{' →
        OnlyMalformed (Json.value maxNesting tail) := by
  constructor
  · rintro ⟨hdecode, hvalue⟩
    refine ⟨hdecode, ?_⟩
    intro tail htail hhead
    obtain ⟨cs, rfl⟩ := List.head?_eq_some_iff.mp hhead
    exact hvalue cs ((List.mem_tails ..).mp htail)
  · rintro ⟨hdecode, htails⟩
    exact ⟨hdecode, fun cs hcs => htails _ ((List.mem_tails ..).mpr hcs) rfl⟩

instance (text : String) : Decidable (Ordinary text) := decidable_of_iff' _ ordinary_iff

/-- The places that the search of a text gets to: what was found before is left behind. -/
inductive Reached : List Char → List Char → Prop
  | here {cs : List Char} : Reached cs cs
  | skipped {c : Char} {cs place : List Char} (hc : c ≠ '{') (hmore : Reached cs place) :
      Reached (c :: cs) place
  | taken {cs rest place : List Char} {v : Json}
      (h : value maxNesting ('{' :: cs) = .ok (v, rest)) (hmore : Reached rest place) :
      Reached ('{' :: cs) place
  | passed {cs place : List Char} (h : value maxNesting ('{' :: cs) = .error .malformed)
      (hmore : Reached cs place) : Reached ('{' :: cs) place

theorem Reached.isSuffix {place : List Char} (h : Reached cs place) : place <:+ cs := by
  induction h with
  | here => exact List.suffix_refl _
  | skipped _ _ ih => exact ih.trans (List.suffix_cons _ _)
  | taken h _ ih =>
    obtain ⟨used, rfl, -⟩ := exists_spelled_of_value h
    exact ih.trans ((List.suffix_append _ _).trans (List.suffix_cons _ _))
  | passed _ _ ih => exact ih.trans (List.suffix_cons _ _)

theorem exists_salvaged_of_reached
    (h : ∀ more, Reached cs ('{' :: more) → OnlyMalformed (value maxNesting ('{' :: more))) :
    ∃ vs, Salvaged cs vs := by
  induction hn : cs.length using Nat.strongRecOn generalizing cs with
  | ind n ih =>
    cases cs with
    | nil => exact ⟨[], .nil⟩
    | cons c cs =>
      have hshorter : ∀ rest, rest <:+ cs →
          (∀ place, Reached rest place → Reached (c :: cs) place) →
          ∃ vs, Salvaged rest vs := fun rest hrest hreached =>
        ih rest.length (by have := hrest.length_le; rw [← hn, List.length_cons]; omega)
          (fun more hmore => h more (hreached _ hmore)) rfl
      by_cases hc : c = '{'
      · subst hc
        cases hv : value maxNesting ('{' :: cs) with
        | ok read =>
          obtain ⟨v, rest⟩ := read
          obtain ⟨used, hcs, -⟩ := exists_spelled_of_value hv
          obtain ⟨vs, hvs⟩ := hshorter rest ⟨used, hcs.symm⟩ fun _ => .taken hv
          exact ⟨v :: vs, .taken hv hvs⟩
        | error failure =>
          have honly := h cs .here
          rw [hv] at honly
          cases honly
          obtain ⟨vs, hvs⟩ := hshorter cs (List.suffix_refl _) fun _ => .passed hv
          exact ⟨vs, .passed hv hvs⟩
      · obtain ⟨vs, hvs⟩ := hshorter cs (List.suffix_refl _) fun _ => .skipped hc
        exact ⟨vs, .skipped hc hvs⟩

theorem exists_salvaged
    (h : ∀ more, '{' :: more <:+ cs → OnlyMalformed (value maxNesting ('{' :: more))) :
    ∃ vs, Salvaged cs vs :=
  exists_salvaged_of_reached fun more hmore => h more hmore.isSuffix

theorem Reached.objectsFrom_eq {failure : Failure} {more : List Char}
    (h : Reached cs ('{' :: more)) (hv : value maxNesting ('{' :: more) = .error failure)
    (hfailure : failure ≠ .malformed) (hrounds : cs.count '{' ≤ rounds) :
    objectsFrom rounds cs = .error failure := by
  generalize hplace : '{' :: more = place at h
  induction h generalizing rounds with
  | here =>
    subst hplace
    rw [List.count_cons_self] at hrounds
    obtain ⟨rounds, rfl⟩ := Nat.exists_eq_add_one_of_ne_zero (n := rounds) (by omega)
    rw [objectsFrom, dropWhile_brace]
    simp only [hv]
  | skipped hc _ ih =>
    rw [List.count_cons_of_ne hc] at hrounds
    rw [objectsFrom_cons hc, ih hrounds hplace]
  | taken hv' _ ih =>
    have hlt := count_lt_of_value hv'
    obtain ⟨rounds, rfl⟩ := Nat.exists_eq_add_one_of_ne_zero (n := rounds) (by omega)
    have hmore : objectsFrom rounds _ = .error failure := ih (by omega) hplace
    rw [objectsFrom, dropWhile_brace]
    simp only [hv', hmore, error_bind]
  | passed hv' _ ih =>
    rw [List.count_cons_self] at hrounds
    obtain ⟨rounds, rfl⟩ := Nat.exists_eq_add_one_of_ne_zero (n := rounds) (by omega)
    rw [objectsFrom_of_malformed hv', ih (by omega) hplace]

/-- **When the search is stopped.** It gets to a brace at which the reader fails, but not because
the text is malformed there. -/
theorem objectsIn_eq_error_iff {text : String} {failure : Failure} :
    objectsIn text = .error failure ↔ failure ≠ .malformed ∧
      ∃ more, Reached text.toList ('{' :: more) ∧
        value maxNesting ('{' :: more) = .error failure := by
  constructor
  · intro h
    by_contra hnot
    obtain ⟨vs, hvs⟩ : ∃ vs, Salvaged text.toList vs := by
      refine exists_salvaged_of_reached fun more hmore => ?_
      cases hv : value maxNesting ('{' :: more) with
      | ok read => trivial
      | error e =>
        by_contra hmalformed
        have herror : objectsIn text = .error e :=
          hmore.objectsFrom_eq hv hmalformed (Nat.le_refl _)
        rw [h] at herror
        cases herror
        exact hnot ⟨hmalformed, more, hmore, hv⟩
    rw [objectsIn_eq_ok_iff.mpr hvs] at h
    cases h
  · rintro ⟨hfailure, more, hmore, hv⟩
    exact hmore.objectsFrom_eq hv hfailure (Nat.le_refl _)

theorem Ordinary.exists_objectsIn {text : String} (h : Ordinary text) :
    ∃ vs, objectsIn text = .ok vs := by
  obtain ⟨vs, hvs⟩ := exists_salvaged h.value
  exact ⟨vs, objectsIn_eq_ok_iff.mpr hvs⟩

end Json

end BuildDescriptor
