/-!
# The pieces between separators

`Text.pieces sep cs` cuts a list of characters at every occurrence of `sep`. There is always one
piece more than there are separators, so the pieces, joined again, are the whole text: none is
dropped for being empty.

## Main definitions

* `Text.pieces` — the pieces of a list of characters
* `Text.splitAt` — the same for strings

## Main results

* `Text.pieces_append_cons`, `Text.splitAt_append` — cutting at one separator cuts at all
* `Text.intercalate_pieces`, `Text.intercalate_splitAt` — nothing but the separators is lost
* `Text.pieces_intercalate`, `Text.splitAt_intercalate` — cutting undoes joining
* `Text.not_mem_of_mem_pieces`, `Text.not_mem_of_mem_splitAt` — no piece contains the separator
-/

namespace BuildDescriptor

namespace Text

variable {sep : Char}

/-- The pieces of a text between the separators, empty ones included. -/
def pieces (sep : Char) : List Char → List (List Char)
  | [] => [[]]
  | c :: cs =>
    if c = sep then [] :: pieces sep cs
    else match pieces sep cs with
      | [] => [[c]]
      | piece :: rest => (c :: piece) :: rest

/-- The pieces of a string between the separators. -/
def splitAt (sep : Char) (s : String) : List String :=
  (pieces sep s.toList).map String.ofList

@[simp] theorem pieces_nil : pieces sep [] = [[]] := rfl

@[simp] theorem pieces_sep_cons (cs : List Char) :
    pieces sep (sep :: cs) = [] :: pieces sep cs := by
  simp [pieces]

theorem pieces_ne_nil (cs : List Char) : pieces sep cs ≠ [] := by
  cases cs with
  | nil => simp
  | cons c cs =>
    unfold pieces
    split
    · simp
    · split <;> simp

theorem pieces_cons_of_ne {c : Char} {cs : List Char} (h : c ≠ sep) :
    pieces sep (c :: cs) = (c :: (pieces sep cs).headD []) :: (pieces sep cs).tail := by
  rw [pieces, if_neg h]
  split
  · rename_i heq
    exact absurd heq (pieces_ne_nil cs)
  · rename_i heq
    simp [heq]

theorem pieces_of_not_mem {cs : List Char} (h : sep ∉ cs) : pieces sep cs = [cs] := by
  induction cs with
  | nil => rfl
  | cons c cs ih =>
    rw [List.mem_cons, not_or] at h
    rw [pieces_cons_of_ne (Ne.symm h.1), ih h.2]
    rfl

theorem pieces_append_cons (as bs : List Char) :
    pieces sep (as ++ sep :: bs) = pieces sep as ++ pieces sep bs := by
  induction as with
  | nil => simp
  | cons a as ih =>
    by_cases h : a = sep
    · subst h
      simp [ih]
    · rw [List.cons_append, pieces_cons_of_ne h, pieces_cons_of_ne h, ih]
      cases hp : pieces sep as with
      | nil => exact absurd hp (pieces_ne_nil as)
      | cons piece rest => simp

theorem splitAt_append {s : String} (hs : s.toList = [sep]) (before after : String) :
    splitAt sep (before ++ s ++ after) = splitAt sep before ++ splitAt sep after := by
  have hlist : (before ++ s ++ after).toList = before.toList ++ sep :: after.toList := by
    simp [hs]
  rw [splitAt, hlist, pieces_append_cons, List.map_append]
  rfl

theorem splitAt_of_not_mem {s : String} (h : sep ∉ s.toList) : splitAt sep s = [s] := by
  rw [splitAt, pieces_of_not_mem h, List.map_singleton, String.ofList_toList]

theorem intercalate_pieces (cs : List Char) : [sep].intercalate (pieces sep cs) = cs := by
  induction cs with
  | nil => rfl
  | cons c cs ih =>
    cases hp : pieces sep cs with
    | nil => exact absurd hp (pieces_ne_nil cs)
    | cons piece rest =>
      rw [hp] at ih
      by_cases h : c = sep
      · subst h
        rw [pieces_sep_cons, hp]
        simpa [List.intercalate, List.intersperse] using ih
      · rw [pieces_cons_of_ne h, hp]
        cases rest <;> simpa [List.intercalate, List.intersperse] using ih

theorem intercalate_splitAt {s : String} (hs : s.toList = [sep]) (text : String) :
    s.intercalate (splitAt sep text) = text := by
  rw [← String.toList_inj, String.toList_intercalate, hs, splitAt, List.map_map]
  simp [intercalate_pieces]

theorem pieces_intercalate {parts : List (List Char)} (hne : parts ≠ [])
    (h : ∀ part ∈ parts, sep ∉ part) : pieces sep ([sep].intercalate parts) = parts := by
  induction parts with
  | nil => exact absurd rfl hne
  | cons part rest ih =>
    have hpart : sep ∉ part := h part (List.mem_cons_self ..)
    cases rest with
    | nil => simpa using pieces_of_not_mem hpart
    | cons next rest =>
      have hrest := ih (List.cons_ne_nil next rest) fun p hp => h p (List.mem_cons_of_mem part hp)
      rw [List.intercalate_cons_cons, List.append_assoc, List.singleton_append,
        pieces_append_cons, pieces_of_not_mem hpart, hrest]
      rfl

theorem splitAt_intercalate {s : String} (hs : s.toList = [sep]) {parts : List String}
    (hne : parts ≠ []) (h : ∀ part ∈ parts, sep ∉ part.toList) :
    splitAt sep (s.intercalate parts) = parts := by
  have hlists : ∀ cs ∈ parts.map String.toList, sep ∉ cs := by simpa using h
  rw [splitAt, String.toList_intercalate, hs, pieces_intercalate (by simpa using hne) hlists,
    List.map_map]
  simp

theorem not_mem_of_mem_pieces {cs piece : List Char} (h : piece ∈ pieces sep cs) : sep ∉ piece := by
  induction cs generalizing piece with
  | nil => simp_all
  | cons c cs ih =>
    by_cases hc : c = sep
    · subst hc
      rw [pieces_sep_cons, List.mem_cons] at h
      rcases h with rfl | h
      · simp
      · exact ih h
    · rw [pieces_cons_of_ne hc] at h
      cases hp : pieces sep cs with
      | nil => exact absurd hp (pieces_ne_nil cs)
      | cons first rest =>
        rw [hp] at h ih
        rcases List.mem_cons.1 h with rfl | h
        · have := ih (List.mem_cons_self ..)
          simp [this, Ne.symm hc]
        · exact ih (List.mem_cons_of_mem _ h)

theorem not_mem_of_mem_splitAt {text piece : String} (h : piece ∈ splitAt sep text) :
    sep ∉ piece.toList := by
  obtain ⟨chars, hchars, rfl⟩ := List.mem_map.mp h
  rw [String.toList_ofList]
  exact not_mem_of_mem_pieces hchars

end Text

end BuildDescriptor
