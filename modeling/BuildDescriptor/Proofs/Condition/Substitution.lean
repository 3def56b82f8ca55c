import BuildDescriptor.Condition.Reference

/-!
# Substitution, piece by piece

The references of a condition can be replaced in its pieces, as long as the text is cut at a
character that no reference contains: no reference lies across such a cut.

## Main results

* `Condition.substituteChars_reference` — a reference becomes its value
* `Condition.substituteChars_append_cons` — a cut at a character that is in no reference
* `Condition.substituteChars_eq_self` — a text without references stays as it is
-/

namespace BuildDescriptor

namespace Condition

variable {v : Variant} {c : Char} {cs as bs rest : List Char}

/-! ### One reference -/

theorem reference?_eq_none_iff :
    reference? cs = none ↔ ∀ a : Axis, ¬ a.reference.toList <+: cs := by
  constructor
  · intro h a ha
    rw [← List.isPrefixOf_iff_prefix] at ha
    unfold reference? at h
    split at h
    · cases h
    · split at h
      · cases h
      · cases a <;> contradiction
  · intro h
    have hnot : ∀ a : Axis, ¬ a.reference.toList.isPrefixOf cs = true := by
      intro a
      rw [List.isPrefixOf_iff_prefix]
      exact h a
    rw [reference?, if_neg (hnot _), if_neg (hnot _)]

theorem exists_reference_eq_cons (a : Axis) : ∃ cs, a.reference.toList = '$' :: cs := by
  cases a <;> exact ⟨_, rfl⟩

theorem reference?_eq_none_of_ne (h : c ≠ '$') : reference? (c :: cs) = none := by
  rw [reference?_eq_none_iff]
  intro a ha
  obtain ⟨tail, htail⟩ := exists_reference_eq_cons a
  rw [htail, List.cons_prefix_cons] at ha
  exact h ha.1.symm

theorem not_infix_of_not_mem_dollar (h : '$' ∉ cs) (a : Axis) : ¬ a.reference.toList <:+: cs := by
  intro ha
  obtain ⟨tail, htail⟩ := exists_reference_eq_cons a
  rw [htail] at ha
  exact h (ha.subset (List.mem_cons_self ..))

theorem reference?_append (a : Axis) (rest : List Char) :
    reference? (a.reference.toList ++ rest) = some (a, rest) := by
  cases a <;> rfl

/-- A reference that starts in front of a character that no reference contains ends there too. -/
theorem exists_of_reference?_append {a : Axis} (hc : ∀ a : Axis, c ∉ a.reference.toList)
    (h : reference? (as ++ c :: bs) = some (a, rest)) :
    ∃ more, as = a.reference.toList ++ more ∧ rest = more ++ c :: bs := by
  have heq : as ++ c :: bs = a.reference.toList ++ rest := eq_append_of_reference? h
  rcases List.append_eq_append_iff.mp heq with ⟨more, hmore, hcons⟩ | ⟨more, hmore, hrest⟩
  · cases more with
    | nil => exact ⟨[], by simpa using hmore.symm, by simpa using hcons.symm⟩
    | cons d more =>
      obtain ⟨rfl, -⟩ := List.cons.inj hcons
      exact absurd (hmore ▸ List.mem_append_right _ (List.mem_cons_self ..)) (hc a)
  · exact ⟨more, hmore, hrest⟩

/-! ### Whole texts -/

@[simp] theorem substituteChars_nil : substituteChars v [] = [] := by
  rw [substituteChars]

theorem substituteChars_of_reference? {a : Axis} (h : reference? cs = some (a, rest)) :
    substituteChars v cs = (v.value a).toList ++ substituteChars v rest := by
  cases cs with
  | nil => cases a <;> simp [reference?, Axis.reference] at h
  | cons c cs =>
    rw [substituteChars]
    split
    · rename_i h'
      rw [h] at h'
      cases h'
      rfl
    · rename_i h'
      rw [h] at h'
      cases h'

theorem substituteChars_cons (h : reference? (c :: cs) = none) :
    substituteChars v (c :: cs) = c :: substituteChars v cs := by
  rw [substituteChars]
  split
  · rename_i h'
    rw [h] at h'
    cases h'
  · rfl

theorem substituteChars_reference (a : Axis) (rest : List Char) :
    substituteChars v (a.reference.toList ++ rest) =
      (v.value a).toList ++ substituteChars v rest :=
  substituteChars_of_reference? (reference?_append a rest)

/-- **Substitution in pieces.** The text is cut at a character that is in no reference. -/
theorem substituteChars_append_cons (hc : ∀ a : Axis, c ∉ a.reference.toList)
    (as bs : List Char) :
    substituteChars v (as ++ c :: bs) = substituteChars v as ++ c :: substituteChars v bs := by
  induction hn : as.length using Nat.strongRecOn generalizing as with
  | ind n ih =>
    cases as with
    | nil =>
      have hne : c ≠ '$' := by
        rintro rfl
        exact hc .platform (by decide)
      rw [List.nil_append, substituteChars_cons (reference?_eq_none_of_ne hne), substituteChars_nil,
        List.nil_append]
    | cons d as =>
      cases h : reference? (d :: as ++ c :: bs) with
      | some r =>
        obtain ⟨a, rest⟩ := r
        obtain ⟨more, hmore, rfl⟩ := exists_of_reference?_append hc h
        have hlt : more.length < n := by
          rw [← hn, hmore, List.length_append]
          cases a <;> simp [Axis.reference]
        rw [substituteChars_of_reference? h, hmore, substituteChars_reference,
          ih more.length hlt more rfl, List.append_assoc]
      | none =>
        have hnone : reference? (d :: as) = none := by
          rw [reference?_eq_none_iff] at h ⊢
          exact fun a ha => h a (ha.trans (List.prefix_append ..))
        rw [List.cons_append] at h ⊢
        rw [substituteChars_cons h, substituteChars_cons hnone,
          ih as.length (by rw [← hn]; exact Nat.lt_succ_self _) as rfl, List.cons_append]

theorem substituteChars_eq_self (h : ∀ a : Axis, ¬ a.reference.toList <:+: cs) :
    substituteChars v cs = cs := by
  induction cs with
  | nil => exact substituteChars_nil
  | cons c cs ih =>
    have hnone : reference? (c :: cs) = none := by
      rw [reference?_eq_none_iff]
      exact fun a ha => h a ha.isInfix
    rw [substituteChars_cons hnone, ih fun a ha => h a (ha.trans (List.suffix_cons c cs).isInfix)]

end Condition

end BuildDescriptor
