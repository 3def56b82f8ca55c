import BuildDescriptor.Text.Blank
import Mathlib.Data.List.TakeWhile

/-!
# Trimming

Trimming takes the blanks off both ends of a text. What it leaves begins and ends with characters
that are not blank, if it leaves any, and it does not matter how many blanks there were.

## Main definitions

* `Text.IsTrimmed` — a text without blanks at its ends

## Main results

* `Text.exists_trim` — what trimming takes off is blank
* `Text.isTrimmed_trim`, `Text.trim_eq_self` — what it leaves, and when it takes off nothing
* `Text.trim_around` — blanks at the ends do not count
-/

namespace BuildDescriptor

namespace Text

variable {c : Char} {cs before after : List Char}

theorem dropWhile_blank_append (hbefore : ∀ c ∈ before, isBlank c = true)
    (hcs : ∀ c ∈ cs.head?, isBlank c = false) : (before ++ cs).dropWhile isBlank = cs := by
  rw [List.dropWhile_append_of_pos hbefore]
  cases cs with
  | nil => rfl
  | cons c cs => exact List.dropWhile_cons_of_neg (by simp [hcs c rfl])

theorem exists_trimRight (cs : List Char) :
    ∃ after, cs = trimRight cs ++ after ∧ ∀ c ∈ after, isBlank c = true := by
  refine ⟨(cs.reverse.takeWhile isBlank).reverse, ?_,
    fun c hc => List.mem_takeWhile_imp (List.mem_reverse.mp hc)⟩
  rw [trimRight, ← List.reverse_append, List.takeWhile_append_dropWhile, List.reverse_reverse]

/-- What trimming takes off is blank. -/
theorem exists_trim (cs : List Char) :
    ∃ before after, cs = before ++ trim cs ++ after ∧ (∀ c ∈ before, isBlank c = true) ∧
      ∀ c ∈ after, isBlank c = true := by
  obtain ⟨after, hright, hafter⟩ := exists_trimRight (cs.dropWhile isBlank)
  refine ⟨cs.takeWhile isBlank, after, ?_, fun c hc => List.mem_takeWhile_imp hc, hafter⟩
  rw [trim, List.append_assoc, ← hright, List.takeWhile_append_dropWhile]

/-! ### Trimmed texts -/

/-- A text that neither begins nor ends with a blank. -/
structure IsTrimmed (cs : List Char) : Prop where
  head : ∀ c ∈ cs.head?, isBlank c = false
  last : ∀ c ∈ cs.getLast?, isBlank c = false

theorem isTrimmed_of_forall (h : ∀ c ∈ cs, isBlank c = false) : IsTrimmed cs :=
  ⟨fun c hc => h c (List.mem_of_head? hc), fun c hc => h c (List.mem_of_getLast? hc)⟩

theorem isBlank_eq_false_of_mem_head? (h : c ∈ (cs.dropWhile isBlank).head?) :
    isBlank c = false := by
  have hnot := List.head?_dropWhile_not isBlank cs
  rw [Option.mem_def.mp h] at hnot
  exact hnot

theorem isTrimmed_trim (cs : List Char) : IsTrimmed (trim cs) where
  head := by
    intro c hc
    obtain ⟨after, hright, -⟩ := exists_trimRight (cs.dropWhile isBlank)
    have hfirst : c ∈ (cs.dropWhile isBlank).head? := by
      rw [hright, List.head?_append, ← trim, Option.mem_def.mp hc]
      rfl
    exact isBlank_eq_false_of_mem_head? hfirst
  last := by
    intro c hc
    rw [trim, trimRight, List.getLast?_reverse] at hc
    exact isBlank_eq_false_of_mem_head? hc

theorem trim_eq_self (h : IsTrimmed cs) : trim cs = cs := by
  have hleft : cs.dropWhile isBlank = cs := dropWhile_blank_append (List.forall_mem_nil _) h.head
  have hright : cs.reverse.dropWhile isBlank = cs.reverse :=
    dropWhile_blank_append (List.forall_mem_nil _) (by simpa using h.last)
  rw [trim, hleft, trimRight, hright, List.reverse_reverse]

theorem isTrimmed_iff : IsTrimmed cs ↔ trim cs = cs :=
  ⟨trim_eq_self, fun h => h ▸ isTrimmed_trim cs⟩

/-- Trimming goes no further than a character that is not blank: what is in front of it stays. -/
theorem trim_append (hbefore : ∀ c ∈ before, isBlank c = true) (hne : cs ≠ []) (h : IsTrimmed cs)
    (rest : List Char) : trim (before ++ cs ++ rest) = cs ++ trimRight rest := by
  have hhead : ∀ c ∈ (cs ++ rest).head?, isBlank c = false := by
    obtain ⟨c, more, rfl⟩ := List.exists_cons_of_ne_nil hne
    exact h.head
  have hleft : (before ++ cs ++ rest).dropWhile isBlank = cs ++ rest := by
    rw [List.append_assoc, dropWhile_blank_append hbefore hhead]
  have hright : cs.reverse.dropWhile isBlank = cs.reverse :=
    dropWhile_blank_append (List.forall_mem_nil _) (by simpa using h.last)
  rw [trim, hleft, trimRight, List.reverse_append, List.dropWhile_append, trimRight]
  split
  · rename_i hempty
    rw [List.isEmpty_iff.mp hempty, hright, List.reverse_reverse, List.reverse_nil, List.append_nil]
  · rw [List.reverse_append, List.reverse_reverse]

/-- Trimming leaves the first character that is not blank in front. -/
theorem exists_trim_cons (hbefore : ∀ c ∈ before, isBlank c = true) (hc : isBlank c = false)
    (cs : List Char) : ∃ rest, trim (before ++ c :: cs) = c :: rest := by
  have hone : IsTrimmed [c] := isTrimmed_of_forall (by simpa using hc)
  have htrim := trim_append hbefore (List.cons_ne_nil c []) hone cs
  rw [List.append_assoc] at htrim
  exact ⟨trimRight cs, htrim⟩

/-- Blanks at the ends of a text do not count. -/
theorem trim_around (hbefore : ∀ c ∈ before, isBlank c = true)
    (hafter : ∀ c ∈ after, isBlank c = true) : trim (before ++ cs ++ after) = trim cs := by
  have hright (ds : List Char) : trimRight (ds ++ after) = trimRight ds := by
    rw [trimRight, List.reverse_append, List.dropWhile_append_of_pos (by simpa using hafter),
      trimRight]
  rw [trim, List.append_assoc, List.dropWhile_append_of_pos hbefore, List.dropWhile_append, trim]
  split
  · rename_i hempty
    rw [List.isEmpty_iff.mp hempty, List.dropWhile_eq_nil_iff.mpr hafter]
  · exact hright _

end Text

end BuildDescriptor
