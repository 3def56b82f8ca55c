import BuildDescriptor.Proofs.Text.Trimming
import BuildDescriptor.Text.Integer

/-!
# Numerals

A numeral is an optional sign and digits, with single underscores between them and at most
`Text.maxDigits` digits in all. A text writes a number if it is a numeral for that number with
blanks around it, and reading an integer off a text succeeds for these texts only. The decimal
notation of an integer is one of its numerals, as long as it is not too long.

No character of a numeral is blank, so it does not matter how many blanks there are around it, and
trimming finds it again.

## Main definitions

* `Text.Digits`, `Text.Numeral` — digits and their values, numerals and their numbers
* `Text.Writes` — the number that a text writes

## Main results

* `Text.readInteger?_strip_eq_some_iff` — reading finds what a text writes
* `Text.numeral_toString` — decimal notation
-/

namespace BuildDescriptor

namespace Text

variable {c : Char} {cs : List Char} {d m : Nat} {ds : List Nat} {s : String} {n : Int}

/-! ### Digits -/

theorem isBlank_eq_false_of_digitValue? (h : digitValue? c = some d) : isBlank c = false := by
  have htable : ∀ start ∈ digitZeros, ∀ k < 10, isBlank (Char.ofNat (start + k)) = false := by
    decide +kernel
  obtain ⟨start, hfind, -⟩ := Option.map_eq_some_iff.mp h
  have hrange : start ≤ c.toNat ∧ c.toNat < start + 10 := by simpa using List.find?_some hfind
  have hblank := htable start (List.mem_of_find?_eq_some hfind) (c.toNat - start) (by omega)
  rwa [Nat.add_sub_cancel' hrange.1, Char.ofNat_toNat] at hblank

theorem digitValue?_digitChar (h : d < 10) : digitValue? (Nat.digitChar d) = some d := by
  have htable : ∀ d < 10, digitValue? (Nat.digitChar d) = some d := by decide +kernel
  exact htable d h

/-- The values of some digits. A single underscore may stand between two of them. -/
inductive Digits : List Char → List Nat → Prop
  | last {c : Char} {d : Nat} (hc : digitValue? c = some d) : Digits [c] [d]
  | digit {c : Char} {d : Nat} {cs : List Char} {ds : List Nat} (hc : digitValue? c = some d)
      (h : Digits cs ds) : Digits (c :: cs) (d :: ds)
  | underscore {c : Char} {d : Nat} {cs : List Char} {ds : List Nat} (hc : digitValue? c = some d)
      (h : Digits cs ds) : Digits (c :: '_' :: cs) (d :: ds)

theorem Digits.ne_cons {x : Char} (h : Digits cs ds) (hx : digitValue? x = none)
    (rest : List Char) : cs ≠ x :: rest := by
  rintro rfl
  cases h with
  | last hc | digit hc _ | underscore hc _ =>
    rw [hx] at hc
    cases hc

theorem digits_of_digits? (h : digits? cs = some ds) : Digits cs ds := by
  fun_induction digits? cs generalizing ds with
  | case1 => cases h
  | case2 c =>
    obtain ⟨d, hc, rfl⟩ := Option.map_eq_some_iff.mp h
    exact .last hc
  | case3 c cs ih =>
    simp only [Option.bind_eq_bind, Option.bind_eq_some_iff, Option.pure_def,
      Option.some.injEq] at h
    obtain ⟨d, hc, ds, hds, rfl⟩ := h
    exact .underscore hc (ih hds)
  | case4 c cs _ _ ih =>
    simp only [Option.bind_eq_bind, Option.bind_eq_some_iff, Option.pure_def,
      Option.some.injEq] at h
    obtain ⟨d, hc, ds, hds, rfl⟩ := h
    exact .digit hc (ih hds)

theorem Digits.digits?_eq (h : Digits cs ds) : digits? cs = some ds := by
  induction h with
  | last hc => simp [digits?, hc]
  | @digit c d cs ds hc h ih =>
    have hcs : cs ≠ [] := by
      rintro rfl
      cases h
    rw [digits?]
    · simp [hc, ih]
    · exact hcs
    · exact h.ne_cons (by decide +kernel)
  | underscore hc _ ih => simp [digits?, hc, ih]

theorem digits?_eq_some_iff : digits? cs = some ds ↔ Digits cs ds :=
  ⟨digits_of_digits?, Digits.digits?_eq⟩

/-- The numerals for an integer. -/
inductive Numeral : List Char → Int → Prop
  | unsigned {cs : List Char} {ds : List Nat} (h : Digits cs ds) (hlength : ds.length ≤ maxDigits) :
      Numeral cs (ofDigits ds)
  | plus {cs : List Char} {ds : List Nat} (h : Digits cs ds) (hlength : ds.length ≤ maxDigits) :
      Numeral ('+' :: cs) (ofDigits ds)
  | minus {cs : List Char} {ds : List Nat} (h : Digits cs ds) (hlength : ds.length ≤ maxDigits) :
      Numeral ('-' :: cs) (-(ofDigits ds : Int))

/-- A text that writes an integer: a numeral for it with blanks around. -/
def Writes (s : String) (n : Int) : Prop :=
  ∃ before numeral after : String, s = before ++ numeral ++ after ∧ isBlankText before = true ∧
    isBlankText after = true ∧ Numeral numeral.toList n

theorem readNatural?_eq_some_iff :
    readNatural? cs = some m ↔ ∃ ds, Digits cs ds ∧ ds.length ≤ maxDigits ∧ m = ofDigits ds := by
  rw [readNatural?, Option.bind_eq_bind, Option.bind_eq_some_iff]
  refine exists_congr fun ds => and_congr digits?_eq_some_iff ?_
  simp [eq_comm]

theorem readInteger?_eq_some_iff : readInteger? s = some n ↔ Numeral (trim s.toList) n := by
  rw [readInteger?]
  generalize trim s.toList = cs
  constructor
  · intro h
    split at h
    all_goals
      simp only [Option.map_eq_some_iff, Option.bind_eq_bind, Option.bind_eq_some_iff,
        Option.pure_def, Option.some.injEq] at h
      obtain ⟨_, ⟨m, hm, rfl⟩, rfl⟩ := h
      obtain ⟨ds, hds, hlength, rfl⟩ := readNatural?_eq_some_iff.mp hm
    · exact .minus hds hlength
    · exact .plus hds hlength
    · exact .unsigned hds hlength
  · intro h
    cases h with
    | unsigned h hlength =>
      have hread := readNatural?_eq_some_iff.mpr ⟨_, h, hlength, rfl⟩
      split
      · exact absurd rfl (h.ne_cons (by decide +kernel) _)
      · exact absurd rfl (h.ne_cons (by decide +kernel) _)
      · rw [hread]
        rfl
    | plus h hlength | minus h hlength =>
      have hread := readNatural?_eq_some_iff.mpr ⟨_, h, hlength, rfl⟩
      simp [hread]

theorem Digits.isBlank_eq_false (h : Digits cs ds) : ∀ c ∈ cs, isBlank c = false := by
  induction h with
  | last hc => simpa using isBlank_eq_false_of_digitValue? hc
  | digit hc _ ih => exact List.forall_mem_cons.mpr ⟨isBlank_eq_false_of_digitValue? hc, ih⟩
  | underscore hc _ ih =>
    exact List.forall_mem_cons.mpr
      ⟨isBlank_eq_false_of_digitValue? hc, List.forall_mem_cons.mpr ⟨by decide, ih⟩⟩

theorem Numeral.isBlank_eq_false (h : Numeral cs n) : ∀ c ∈ cs, isBlank c = false := by
  cases h with
  | unsigned h _ => exact h.isBlank_eq_false
  | plus h _ | minus h _ => exact List.forall_mem_cons.mpr ⟨by decide, h.isBlank_eq_false⟩

/-- **Reading finds what a text writes.** -/
theorem readInteger?_strip_eq_some_iff : readInteger? (strip s) = some n ↔ Writes s n := by
  rw [readInteger?_eq_some_iff, strip, String.toList_ofList]
  constructor
  · intro h
    obtain ⟨before, after, hs, hbefore, hafter⟩ := exists_trim s.toList
    obtain ⟨before', after', hs', hbefore', hafter'⟩ := exists_trim (trim s.toList)
    generalize trim (trim s.toList) = numeral at h hs'
    have hlist : s.toList = before ++ (before' ++ numeral ++ after') ++ after := by rwa [← hs']
    refine ⟨.ofList (before ++ before'), .ofList numeral, .ofList (after' ++ after), ?_, ?_, ?_,
      by rwa [String.toList_ofList]⟩
    · rw [← String.toList_inj, hlist]
      simp
    · simpa [isBlankText, or_imp, forall_and] using And.intro hbefore hbefore'
    · simpa [isBlankText, or_imp, forall_and] using And.intro hafter' hafter
  · rintro ⟨before, numeral, after, rfl, hbefore, hafter, h⟩
    have hnumeral : trim numeral.toList = numeral.toList :=
      trim_eq_self (isTrimmed_of_forall h.isBlank_eq_false)
    rw [String.toList_append, String.toList_append,
      trim_around (List.all_eq_true.mp hbefore) (List.all_eq_true.mp hafter), hnumeral, hnumeral]
    exact h

/-! ### Decimal notation -/

theorem Digits.append_digit (h : Digits cs ds) (hc : digitValue? c = some d) :
    Digits (cs ++ [c]) (ds ++ [d]) := by
  induction h with
  | last hc' => exact .digit hc' (.last hc)
  | digit hc' _ ih => exact .digit hc' ih
  | underscore hc' _ ih => exact .underscore hc' ih

/-- The digits of a number have its value, and are as many as there are. By induction on the number:
the last digit comes off the end. -/
theorem exists_digits_toDigits (m : Nat) :
    ∃ ds, Digits (Nat.toDigits 10 m) ds ∧ ofDigits ds = m ∧
      ds.length = (Nat.toDigits 10 m).length := by
  induction m using Nat.strong_induction_on with
  | _ m ih =>
    have hlast : digitValue? (Nat.digitChar (m % 10)) = some (m % 10) :=
      digitValue?_digitChar (Nat.mod_lt m (by decide))
    rw [Nat.toDigits_eq_if (by decide)]
    split
    · rename_i hm
      rw [Nat.mod_eq_of_lt hm] at hlast
      exact ⟨[m], .last hlast, by simp [ofDigits], rfl⟩
    · rename_i hm
      obtain ⟨ds, hds, hvalue, hlength⟩ := ih (m / 10) (by omega)
      refine ⟨ds ++ [m % 10], hds.append_digit hlast, ?_, by simp [hlength]⟩
      rw [ofDigits, List.foldl_append, ← ofDigits, hvalue]
      exact Nat.div_add_mod m 10

theorem exists_digits_repr (h : (Nat.toDigits 10 m).length ≤ maxDigits) :
    ∃ ds, Digits m.repr.toList ds ∧ ds.length ≤ maxDigits ∧ ofDigits ds = m := by
  obtain ⟨ds, hds, hvalue, hlength⟩ := exists_digits_toDigits m
  exact ⟨ds, by rwa [Nat.toList_repr], by rwa [hlength], hvalue⟩

theorem toList_toString_negSucc (m : Nat) :
    (toString (Int.negSucc m)).toList = '-' :: (m + 1).repr.toList := by
  rw [Int.toString_eq_repr, Int.repr, String.toList_append]
  rfl

/-- **Decimal notation** is a numeral, if it has no more digits than a numeral may have. -/
theorem numeral_toString (h : (Nat.toDigits 10 n.natAbs).length ≤ maxDigits) :
    Numeral (toString n).toList n := by
  cases n with
  | ofNat m =>
    obtain ⟨ds, hds, hlength, hvalue⟩ := exists_digits_repr h
    have hnumeral := Numeral.unsigned hds hlength
    rwa [hvalue] at hnumeral
  | negSucc m =>
    obtain ⟨ds, hds, hlength, hvalue⟩ := exists_digits_repr h
    have hnumeral := Numeral.minus hds hlength
    rw [hvalue] at hnumeral
    rw [toList_toString_negSucc]
    exact hnumeral

end Text

end BuildDescriptor
