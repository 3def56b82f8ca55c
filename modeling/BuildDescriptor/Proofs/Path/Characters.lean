import BuildDescriptor.Path.Normal

/-!
# The characters of a path

Turning backslashes around leaves none of them, and no later step brings one back: putting two texts
together adds at most a slash, and the normal form of a text has only characters of that text, dots
and slashes. The normal form is never empty either, since the current directory is written `.`.

The stack of components is what the argument is on. Whatever is pushed, each component on the stack
is one of the text, or it is `..`.

## Main results

* `Path.not_mem_forwardSlashes`, `Path.forwardSlashes_ne_empty`
* `Path.mem_foldl_push` — the components on the stack
* `Path.mem_normalize`, `Path.normalize_ne_empty`
-/

namespace BuildDescriptor

namespace Text

variable {sep c : Char} {parts : List (List Char)}

theorem mem_of_mem_intercalate (h : c ∈ [sep].intercalate parts) :
    c = sep ∨ ∃ part ∈ parts, c ∈ part := by
  induction parts with
  | nil => simp at h
  | cons part rest ih =>
    cases rest with
    | nil => exact .inr ⟨part, by simp, by simpa using h⟩
    | cons next rest =>
      rw [List.intercalate_cons_cons, List.append_assoc, List.mem_append, List.mem_append,
        List.mem_singleton] at h
      rcases h with h | h | h
      · exact .inr ⟨part, by simp, h⟩
      · exact .inl h
      · rcases ih h with hsep | ⟨other, hother, hc⟩
        · exact .inl hsep
        · exact .inr ⟨other, List.mem_cons_of_mem _ hother, hc⟩

theorem mem_intercalate_of_mem {part : List Char} (h : part ∈ parts) (hc : c ∈ part) :
    c ∈ [sep].intercalate parts := by
  induction parts with
  | nil => cases h
  | cons first rest ih =>
    cases rest with
    | nil =>
      obtain rfl := List.mem_singleton.mp h
      simpa using hc
    | cons next rest =>
      rw [List.intercalate_cons_cons, List.mem_append]
      rcases List.mem_cons.mp h with rfl | h
      · exact .inl (List.mem_append_left _ hc)
      · exact .inr (ih h)

/-- A piece of a text has only characters of the text. -/
theorem mem_of_mem_pieces {cs piece : List Char} (h : piece ∈ pieces sep cs) (hc : c ∈ piece) :
    c ∈ cs := by
  have hmem : c ∈ [sep].intercalate (pieces sep cs) := mem_intercalate_of_mem h hc
  rwa [intercalate_pieces] at hmem

end Text

namespace Path

variable {s dir source : String} {c : Char} {part other : String} {stack parts : List String}
  {rooted : Bool}

/-! ### Backslashes -/

theorem not_mem_forwardSlashes (s : String) : '\\' ∉ (forwardSlashes s).toList := by
  rw [forwardSlashes, String.toList_map, List.mem_map]
  rintro ⟨c, -, hc⟩
  split at hc
  · cases hc
  · rename_i hne
    exact hne hc

theorem forwardSlashes_ne_empty (h : s ≠ "") : forwardSlashes s ≠ "" := by
  intro hempty
  have hlist := congrArg String.toList hempty
  rw [forwardSlashes, String.toList_map, String.toList_empty, List.map_eq_nil_iff] at hlist
  exact h (String.toList_eq_nil_iff.mp hlist)

/-! ### Two texts -/

theorem mem_join (h : c ∈ (join dir source).toList) :
    c ∈ dir.toList ∨ c = '/' ∨ c ∈ source.toList := by
  unfold join at h
  split at h
  · exact .inr (.inr h)
  · split at h
    · rw [String.toList_append, List.mem_append] at h
      exact h.imp_right .inr
    · simpa [or_assoc] using h

/-! ### The stack of components -/

theorem mem_push (h : other ∈ push rooted stack part) :
    other ∈ stack ∨ other = part ∨ other = ".." := by
  unfold push at h
  split at h
  · exact .inl h
  · split at h
    · split at h
      · split at h
        · cases h
        · exact .inr (.inr (List.mem_singleton.mp h))
      · split at h
        · exact (List.mem_cons.mp h).elim (.inr ∘ .inr) .inl
        · exact .inl (List.mem_cons_of_mem _ h)
    · exact (List.mem_cons.mp h).elim (.inr ∘ .inl) .inl

theorem mem_foldl_push (h : other ∈ parts.foldl (push rooted) stack) :
    other ∈ stack ∨ other ∈ parts ∨ other = ".." := by
  induction parts generalizing stack with
  | nil => exact .inl h
  | cons part parts ih =>
    rcases ih h with h | h | h
    · rcases mem_push h with h | rfl | h
      · exact .inl h
      · exact .inr (.inl (List.mem_cons_self ..))
      · exact .inr (.inr h)
    · exact .inr (.inl (List.mem_cons_of_mem _ h))
    · exact .inr (.inr h)

/-- A component of a text, or one that climbs, has only characters of the text and dots. -/
theorem mem_of_mem_part (h : part ∈ Text.splitAt '/' s ∨ part = "..") (hc : c ∈ part.toList) :
    c ∈ s.toList ∨ c = '.' := by
  rcases h with h | rfl
  · obtain ⟨piece, hpiece, rfl⟩ := List.mem_map.mp h
    rw [String.toList_ofList] at hc
    exact .inl (Text.mem_of_mem_pieces hpiece hc)
  · exact .inr (by simpa using hc)

/-! ### The normal form -/

/-- A normal form is a dot, or it shows the stack of components, rooted or not. -/
theorem normalize_cases (s : String) :
    normalize s = "." ∨ normalize s ≠ "" ∧ ∃ slashes rooted, normalize s =
      String.ofList (List.replicate slashes '/') ++
        "/".intercalate ((Text.splitAt '/' s).foldl (push rooted) []).reverse := by
  simp only [normalize]
  split
  · exact .inl rfl
  · rename_i h
    exact .inr ⟨h, _, _, rfl⟩

theorem normalize_ne_empty (s : String) : normalize s ≠ "" := by
  rcases normalize_cases s with h | ⟨h, -⟩
  · rw [h]
    decide
  · exact h

/-- **The characters of a normal form.** It has only those of the text, besides dots and slashes. -/
theorem mem_normalize (h : c ∈ (normalize s).toList) : c ∈ s.toList ∨ c = '.' ∨ c = '/' := by
  rcases normalize_cases s with hdot | ⟨-, slashes, rooted, htext⟩
  · rw [hdot] at h
    exact .inr (.inl (by simpa using h))
  · rw [htext, String.toList_append, List.mem_append, String.toList_ofList,
      String.toList_intercalate] at h
    rcases h with h | h
    · exact .inr (.inr (List.eq_of_mem_replicate h))
    · rcases Text.mem_of_mem_intercalate h with hslash | ⟨chars, hchars, hc⟩
      · exact .inr (.inr hslash)
      · obtain ⟨part, hpart, rfl⟩ := List.mem_map.mp hchars
        have hstack := (mem_foldl_push (List.mem_reverse.mp hpart)).resolve_left List.not_mem_nil
        exact (mem_of_mem_part hstack hc).imp_right .inl

end Path

end BuildDescriptor
