import BuildDescriptor.Proofs.Condition.Substitution
import Mathlib.Data.List.Infix

/-!
# Conditions as templates

A condition is plain text with references in it, so it is a template for the conditions of all
variants. To say what substitution does, it is enough to say what the template of a text is: each
reference becomes its value, and the plain text stays.

## One template for each text

Which parts of a text are references is not a matter of the order in which they are looked for. A
reference begins with a dollar sign and has no other, so no reference begins inside another one, and
none lies across the end of a piece of plain text and the reference behind it. A text like
`$($(Configuration)` has therefore one template only, and a value that is put into it has no part in
the decision: what looks like a reference in a value, or in a value together with the text around
it, was no reference in the text.

## Main definitions

* `Condition.Template` — pieces of text with references between them
* `Condition.Template.fill` — the text with something in place of the references
* `Condition.Template.IsPlain` — no piece contains a reference

## Main results

* `Condition.Template.exists_text_eq`, `Condition.Template.text_injective` — each text has one
  template
* `Condition.Template.substituteChars_text` — substitution fills in the values
* `Condition.substitute_eq_fill` — all of this, for a condition
-/

namespace BuildDescriptor

namespace Condition

variable {v : Variant} {c : Char} {cs plain : List Char} {a : Axis}
  {pieces : List (Axis × List Char)}

/-- Nowhere in a text is there a reference. -/
def NoReference (cs : List Char) : Prop := ∀ a : Axis, ¬ a.reference.toList <:+: cs

/-- Pieces of text with references between them. -/
@[ext]
structure Template where
  /-- The text in front of the first reference. -/
  start : List Char
  /-- The references, each with the text behind it. -/
  rest : List (Axis × List Char)

namespace Template

variable {t t' : Template}

/-- The pieces of a template, with something in the place of each reference. -/
def fill (t : Template) (f : Axis → List Char) : List Char :=
  t.start ++ t.rest.flatMap fun piece => f piece.1 ++ piece.2

/-- The text that a template stands for. -/
def text (t : Template) : List Char := t.fill fun a => a.reference.toList

/-- No piece of a template contains a reference. -/
structure IsPlain (t : Template) : Prop where
  start : NoReference t.start
  rest : ∀ piece ∈ t.rest, NoReference piece.2

/-! ### A template from left to right -/

theorem fill_char (f : Axis → List Char) (c : Char) (plain : List Char)
    (pieces : List (Axis × List Char)) :
    fill ⟨c :: plain, pieces⟩ f = c :: fill ⟨plain, pieces⟩ f := rfl

theorem fill_reference (f : Axis → List Char) (a : Axis) (plain : List Char)
    (pieces : List (Axis × List Char)) :
    fill ⟨[], (a, plain) :: pieces⟩ f = f a ++ fill ⟨plain, pieces⟩ f := by
  simp only [fill, List.flatMap_cons, List.nil_append, List.append_assoc]

theorem isPlain_nil : IsPlain ⟨[], []⟩ where
  start a h := by
    obtain ⟨tail, htail⟩ := exists_reference_eq_cons a
    rw [htail, List.infix_nil] at h
    cases h
  rest := nofun

theorem IsPlain.of_char (h : IsPlain ⟨c :: plain, pieces⟩) : IsPlain ⟨plain, pieces⟩ where
  start a ha := h.start a (ha.trans (List.suffix_cons c plain).isInfix)
  rest := h.rest

theorem IsPlain.of_reference (h : IsPlain ⟨[], (a, plain) :: pieces⟩) :
    IsPlain ⟨plain, pieces⟩ where
  start := h.rest _ (List.mem_cons_self ..)
  rest piece hpiece := h.rest piece (List.mem_cons_of_mem _ hpiece)

theorem IsPlain.reference (h : IsPlain ⟨plain, pieces⟩) (a : Axis) :
    IsPlain ⟨[], (a, plain) :: pieces⟩ where
  start := isPlain_nil.start
  rest := List.forall_mem_cons.mpr ⟨h.start, h.rest⟩

/-- A template is empty, or it begins with a character or with a reference, and what follows is a
template too. -/
@[elab_as_elim]
theorem IsPlain.induction {motive : (t : Template) → t.IsPlain → Prop}
    (nil : motive ⟨[], []⟩ isPlain_nil)
    (char : ∀ c plain pieces (h : IsPlain ⟨c :: plain, pieces⟩),
      motive ⟨plain, pieces⟩ h.of_char → motive ⟨c :: plain, pieces⟩ h)
    (reference : ∀ a plain pieces (h : IsPlain ⟨plain, pieces⟩),
      motive ⟨plain, pieces⟩ h → motive ⟨[], (a, plain) :: pieces⟩ (h.reference a))
    (t : Template) (h : t.IsPlain) : motive t h := by
  obtain ⟨plain, pieces⟩ := t
  induction pieces generalizing plain with
  | nil =>
    induction plain with
    | nil => exact nil
    | cons c plain ih => exact char c plain [] h (ih h.of_char)
  | cons piece pieces ihpieces =>
    induction plain with
    | nil => exact reference _ _ _ h.of_reference (ihpieces _ h.of_reference)
    | cons c plain ih => exact char c plain _ h (ih h.of_char)

/-! ### References -/

/-- A reference has one dollar sign, at its start. -/
theorem eq_nil_of_dollar_mem {ds : List Char} (h : plain ++ '$' :: ds = a.reference.toList) :
    plain = [] := by
  cases plain with
  | nil => rfl
  | cons d plain =>
    have hmem : '$' ∈ a.reference.toList.tail := by simp [← h]
    cases a <;> exact absurd hmem (by decide)

/-- No reference begins in plain text, and none lies across its end. -/
theorem IsPlain.reference?_char (h : IsPlain ⟨c :: plain, pieces⟩) :
    reference? (text ⟨c :: plain, pieces⟩) = none := by
  rw [reference?_eq_none_iff]
  intro a ha
  rcases List.prefix_or_prefix_of_prefix ha (List.prefix_append (c :: plain) _) with hin | hacross
  · exact h.start a hin.isInfix
  · obtain ⟨more, hmore⟩ := hacross
    cases pieces with
    | nil => exact h.start a (by simpa [text, fill] using ha.isInfix)
    | cons piece pieces =>
      -- what is left of the reference begins with the dollar sign of the next one
      obtain ⟨tail, htail⟩ := exists_reference_eq_cons piece.1
      cases more with
      | nil => exact h.start a (by rw [← hmore, List.append_nil])
      | cons d more =>
        rw [← hmore, text, fill, List.prefix_append_right_inj, List.flatMap_cons, htail] at ha
        obtain ⟨rfl, -⟩ := List.cons_prefix_cons.mp ha
        cases eq_nil_of_dollar_mem hmore

theorem reference?_reference (a : Axis) (plain : List Char) (pieces : List (Axis × List Char)) :
    reference? (text ⟨[], (a, plain) :: pieces⟩) = some (a, text ⟨plain, pieces⟩) := by
  rw [text, fill_reference, reference?_append]
  rfl

/-! ### The template of a text -/

/-- Each text has a template. By induction on its length, as its references are found. -/
theorem exists_text_eq (cs : List Char) : ∃ t : Template, t.IsPlain ∧ t.text = cs := by
  induction hn : cs.length using Nat.strongRecOn generalizing cs with
  | ind n ih =>
    cases cs with
    | nil => exact ⟨⟨[], []⟩, isPlain_nil, rfl⟩
    | cons c cs =>
      cases href : reference? (c :: cs) with
      | some r =>
        obtain ⟨a, rest⟩ := r
        obtain ⟨⟨plain, pieces⟩, hplain, rfl⟩ :=
          ih rest.length (hn ▸ length_lt_of_reference? href) rest rfl
        refine ⟨⟨[], (a, plain) :: pieces⟩, hplain.reference a, ?_⟩
        rw [eq_append_of_reference? href, text, fill_reference]
        rfl
      | none =>
        obtain ⟨⟨plain, pieces⟩, hplain, rfl⟩ :=
          ih cs.length (by rw [← hn]; exact Nat.lt_succ_self _) cs rfl
        refine ⟨⟨c :: plain, pieces⟩, ⟨fun a ha => ?_, hplain.rest⟩, rfl⟩
        rcases List.infix_cons_iff.mp ha with ha | ha
        · rw [reference?_eq_none_iff] at href
          exact href a (ha.trans (List.prefix_append (c :: plain) _))
        · exact hplain.start a ha

/-- A text has one template. What stands at its start is either a character or a reference, and the
text behind it is shorter. -/
theorem text_injective (h : t.IsPlain) (h' : t'.IsPlain) (heq : t.text = t'.text) : t = t' := by
  induction t, h using IsPlain.induction generalizing t' with
  | nil =>
    cases t', h' using IsPlain.induction with
    | nil => rfl
    | char c plain pieces => cases heq
    | reference a plain pieces =>
      have href := reference?_reference a plain pieces
      rw [← heq] at href
      cases href
  | char c plain pieces hchar ih =>
    cases t', h' using IsPlain.induction with
    | nil => cases heq
    | char c' plain' pieces' hchar' =>
      obtain ⟨rfl, hrest⟩ := List.cons.inj heq
      obtain ⟨rfl, rfl⟩ := Template.mk.inj (ih hchar'.of_char hrest)
      rfl
    | reference a plain' pieces' =>
      have href := reference?_reference a plain' pieces'
      rw [← heq, hchar.reference?_char] at href
      cases href
  | reference a plain pieces hplain ih =>
    have href := reference?_reference a plain pieces
    rw [heq] at href
    cases t', h' using IsPlain.induction with
    | nil => cases href
    | char c plain' pieces' hchar =>
      rw [hchar.reference?_char] at href
      cases href
    | reference a' plain' pieces' hplain' =>
      rw [reference?_reference, Option.some.injEq, Prod.mk.injEq] at href
      obtain ⟨rfl, hrest⟩ := href
      obtain ⟨rfl, rfl⟩ := Template.mk.inj (ih hplain' hrest.symm)
      rfl

/-- Substitution fills in the values, and plain text stays as it is. -/
theorem substituteChars_text (v : Variant) (h : t.IsPlain) :
    substituteChars v t.text = t.fill fun a => (v.value a).toList := by
  induction t, h using IsPlain.induction with
  | nil => exact substituteChars_nil
  | char c plain pieces hchar ih =>
    rw [fill_char, ← ih]
    exact substituteChars_cons hchar.reference?_char
  | reference a plain pieces hplain ih =>
    rw [substituteChars_of_reference? (reference?_reference a plain pieces), ih, fill_reference]

end Template

/-- **What substitution does.** A condition has one template: there is one way to tell its
references from the text between them. Each reference becomes its value, as it is, and the text
between them stays, whatever the values make of it. -/
theorem substitute_eq_fill (condition : String) :
    ∃ t : Template, t.IsPlain ∧ t.text = condition.toList ∧
      (∀ t' : Template, t'.IsPlain → t'.text = condition.toList → t' = t) ∧
      ∀ v : Variant, (substitute condition v).toList = t.fill fun a => (v.value a).toList := by
  obtain ⟨t, hplain, htext⟩ := Template.exists_text_eq condition.toList
  refine ⟨t, hplain, htext, fun t' hplain' htext' => ?_, fun v => ?_⟩
  · exact Template.text_injective hplain' hplain (htext'.trans htext.symm)
  · rw [substitute, String.toList_ofList, ← htext, Template.substituteChars_text v hplain]

/-- A value may complete a reference with the text behind it, and is not searched again. -/
example : substitute "$($(Configuration)form)" ⟨"Plat", "$(Configuration)"⟩ =
    "$(Platform)" := by
  decide +kernel

end Condition

end BuildDescriptor
