import BuildDescriptor.Proofs.Json.Spelling

/-!
# Objects in a text

The text of an array of objects is the texts of the objects, one after the other, with other texts
before, between and after them: spaces, brackets and commas. None of these has a brace or a quote.

## Main definitions

* `Json.Idle` — a text without braces and quotes
* `Json.Listed` — objects in a text, with other texts around them

## Main results

* `Json.listed_of_decode` — the text of an array of objects
* `Json.eq_of_decode_cut` — when the beginning of the text of a container can be read
-/

namespace BuildDescriptor

namespace Json

variable {levels : Nat} {cs rest used body gap tail cut lost : List Char} {v w : Json}
  {vs : List Json} {text whole : String}

/-! ### Whole texts -/

theorem isEmpty_skipSpaces_iff : (skipSpaces rest).isEmpty = true ↔ Spaces rest := by
  rw [List.isEmpty_iff, skipSpaces, List.dropWhile_eq_nil_iff, Spaces]

theorem decode_eq_ok_iff [Capacity] :
    decode text = .ok v ↔
      ∃ rest, value maxNesting (skipSpaces text.toList) = .ok (v, rest) ∧ Spaces rest := by
  rw [decode, bind_eq_ok]
  constructor
  · rintro ⟨⟨w, rest⟩, hvalue, h⟩
    simp only at h
    split at h
    · rename_i hempty
      cases h
      exact ⟨rest, hvalue, isEmpty_skipSpaces_iff.mp hempty⟩
    · cases h
  · rintro ⟨rest, hvalue, hspaces⟩
    refine ⟨_, hvalue, ?_⟩
    simp only [isEmpty_skipSpaces_iff.mpr hspaces]
    rfl

theorem skipSpaces_append_of_ne_nil (h : skipSpaces cut ≠ []) :
    skipSpaces (cut ++ lost) = skipSpaces cut ++ lost := by
  induction cut with
  | nil => exact absurd rfl h
  | cons c cut ih =>
    cases hc : isSpace c with
    | true =>
      have hskip : ∀ cs, skipSpaces (c :: cs) = skipSpaces cs := fun cs =>
        List.dropWhile_cons_of_pos hc
      rw [hskip] at h
      rw [List.cons_append, hskip, hskip, ih h]
    | false =>
      have hkeep : ∀ cs, skipSpaces (c :: cs) = c :: cs := fun cs =>
        List.dropWhile_cons_of_neg (by simp [hc])
      rw [List.cons_append, hkeep, hkeep, List.cons_append]

theorem Spelled.opener_of_isContainer (h : Spelled levels (.value v) used)
    (hv : v.isContainer = true) : ∃ c more, used = c :: more ∧ c ∈ openers := by
  cases h with
  | string _ => cases hv
  | bare hbare =>
    rw [hbare.isContainer_eq_false] at hv
    cases hv
  | emptyArray _ => exact ⟨'[', _, rfl, by decide⟩
  | array _ _ => exact ⟨'[', _, rfl, by decide⟩
  | emptyObject _ => exact ⟨'{', _, rfl, by decide⟩
  | object _ _ => exact ⟨'{', _, rfl, by decide⟩

/-- **When the beginning of the text of a container can be read.** It is that container then, and
nothing but spaces was cut off. -/
theorem eq_of_decode_cut [Capacity] (h : decode whole = .ok v) (hv : v.isContainer = true)
    (hcut : whole.toList = text.toList ++ lost) (htext : decode text = .ok w) :
    w = v ∧ Spaces lost := by
  obtain ⟨rest, hwhole, hrest⟩ := decode_eq_ok_iff.mp h
  obtain ⟨left, hvalue, -⟩ := decode_eq_ok_iff.mp htext
  obtain ⟨used, hused, hspelled⟩ := spelled_of_value _ _ _ _ hvalue
  obtain ⟨d, more, rfl, -⟩ := hspelled.begins
  obtain ⟨used', hused', hspelled'⟩ := spelled_of_value _ _ _ _ hwhole
  obtain ⟨c, more', rfl, hc⟩ := hspelled'.opener_of_isContainer hv
  have hne : skipSpaces text.toList ≠ [] := by
    rw [hused]
    exact List.cons_ne_nil _ _
  -- what is left of the beginning is what is left of the whole text, but for the end
  rw [hcut, skipSpaces_append_of_ne_nil hne, hused] at hwhole hused'
  have hopener : d = c := (List.cons.inj hused').1
  subst hopener
  rw [hused, List.cons_append] at hvalue
  rw [List.cons_append, List.cons_append, value_append hc hvalue lost] at hwhole
  cases hwhole
  exact ⟨rfl, fun c hc => hrest c (List.mem_append_right _ hc)⟩

/-! ### Texts without braces and quotes -/

/-- A text without braces and quotes. -/
def Idle (cs : List Char) : Prop := ∀ c ∈ cs, c ≠ '{' ∧ c ≠ '}' ∧ c ≠ '"'

theorem Idle.not_mem (h : Idle gap) : '{' ∉ gap := fun hmem => (h _ hmem).1 rfl

theorem Idle.of_append (h : Idle (gap ++ tail)) : Idle gap ∧ Idle tail :=
  ⟨fun c hc => h c (List.mem_append_left _ hc), fun c hc => h c (List.mem_append_right _ hc)⟩

theorem Idle.append (h : Idle gap) (htail : Idle tail) : Idle (gap ++ tail) := by
  intro c hc
  rcases List.mem_append.mp hc with hc | hc
  · exact h c hc
  · exact htail c hc

theorem Idle.cons {c : Char} (hc : c ≠ '{' ∧ c ≠ '}' ∧ c ≠ '"') (h : Idle gap) :
    Idle (c :: gap) := by
  intro d hd
  rcases List.mem_cons.mp hd with rfl | hd
  · exact hc
  · exact h d hd

theorem Spaces.idle (h : Spaces cs) : Idle cs := fun c hc =>
  ⟨ne_of_isSpace (h c hc) (by decide), ne_of_isSpace (h c hc) (by decide),
    ne_of_isSpace (h c hc) (by decide)⟩

/-! ### Objects with texts between them -/

variable [Capacity]

/-- The objects in a text, each with its own text, and with other texts of some kind before, between
and after them. -/
inductive Listed (between : List Char → Prop) : List (List Char × Json) → List Char → Prop
  | last {gap : List Char} (hgap : between gap) : Listed between [] gap
  | object {gap used rest : List Char} {v : Json} {entries : List (List Char × Json)}
      (hgap : between gap) (hv : v.isObject = true) (h : Spelled maxNesting (.value v) used)
      (hmore : Listed between entries rest) :
      Listed between ((used, v) :: entries) (gap ++ (used ++ rest))

/-- The items of an array, between idle texts. -/
theorem exists_listed_of_items (h : Spelled levels (.items vs) body) (hlevels : levels ≤ maxNesting)
    (hobjects : ∀ v ∈ vs, v.isObject = true) (hgap : Idle gap) (htail : Idle tail) :
    ∃ entries, entries.map (·.2) = vs ∧ Listed Idle entries (gap ++ (body ++ tail)) := by
  induction vs generalizing body gap with
  | nil => cases h
  | cons v vs ih =>
    have hv : v.isObject = true := hobjects v (List.mem_cons_self ..)
    cases h with
    | @lastItem _ _ used s hspelled hs =>
      have hlast : Idle (s ++ ']' :: tail) := hs.idle.append (.cons (by decide) htail)
      have hlisted := Listed.object hgap hv (hspelled.mono hlevels) (.last hlast)
      exact ⟨_, rfl, by simpa using hlisted⟩
    | @moreItems _ _ _ used s s' body hspelled hs hs' hmore =>
      have hcomma : Idle (s ++ ',' :: s') := hs.idle.append (.cons (by decide) hs'.idle)
      obtain ⟨entries, rfl, hentries⟩ :=
        ih hmore (fun w hw => hobjects w (List.mem_cons_of_mem _ hw)) hcomma
      have hlisted := Listed.object hgap hv (hspelled.mono hlevels) hentries
      exact ⟨_, rfl, by simpa using hlisted⟩

/-- **The text of an array of objects.** -/
theorem listed_of_decode (h : decode text = .ok (.array vs))
    (hobjects : ∀ v ∈ vs, v.isObject = true) :
    ∃ entries, entries.map (·.2) = vs ∧ Listed Idle entries text.toList := by
  obtain ⟨rest, hvalue, hrest⟩ := decode_eq_ok_iff.mp h
  obtain ⟨before, hbefore, htext⟩ := exists_spaces text.toList
  obtain ⟨used, hused, hspelled⟩ := spelled_of_value _ _ _ _ hvalue
  rw [hused] at htext
  rw [htext]
  generalize hlevels : maxNesting = levels at hspelled
  cases hspelled with
  | bare hbare => cases hbare.isContainer_eq_false
  | emptyArray hs =>
    have hgap := hbefore.idle.append
      (.cons (c := '[') (by decide) (hs.idle.append (.cons (c := ']') (by decide) hrest.idle)))
    exact ⟨[], rfl, .last (by simpa using hgap)⟩
  | @array levels _ s body hs hitems =>
    have hgap : Idle (before ++ '[' :: s) := hbefore.idle.append (.cons (by decide) hs.idle)
    obtain ⟨entries, hentries, hlisted⟩ :=
      exists_listed_of_items hitems (by omega) hobjects hgap hrest.idle
    exact ⟨entries, hentries, by simpa using hlisted⟩

end Json

end BuildDescriptor
