import BuildDescriptor.Proofs.Json.Quoting

/-!
# Objects inside a value

A brace that opens stands in the text of a value for one of two reasons. It is a character of a
string literal, or it begins an object that is a part of the value, and then that object ends within
the text of the value. The scan that counts quotes tells the two apart.

The statement is closed under putting texts one after the other, because a text of JSON leads the
scan from a place outside the literals to another one. So it is proved for single characters and for
literals, and everything else is put together from these.

## Main definitions

* `Json.Quoted` — a text that stands inside a literal
* `Json.Nests` — a text whose braces begin objects that end in it

## Main results

* `Json.Spelled.nests` — the text of a phrase is such a text
-/

namespace BuildDescriptor

namespace Json

variable {levels : Nat} {cs ds used body spaces front back : List Char} {c : Char}
  {codes : List Nat}
  {p : Place}

/-! ### Inside a literal -/

/-- A text in which every character stands inside a literal. -/
def Quoted : Place → List Char → Prop
  | _, [] => True
  | p, c :: cs => p.isOutside = false ∧ Quoted (p.after c) cs

@[simp] theorem quoted_nil : Quoted p [] := trivial

@[simp] theorem quoted_cons :
    Quoted p (c :: cs) ↔ p.isOutside = false ∧ Quoted (p.after c) cs := Iff.rfl

/-- The scan is inside at every character of such a text. -/
theorem Quoted.isOutside_run (h : Quoted p (front ++ c :: back)) :
    (p.run front).isOutside = false := by
  induction front generalizing p with
  | nil => exact h.1
  | cons d front ih => exact ih h.2

theorem Place.after_quote (hp : p.isOutside = true) : p.after '"' = .inside := by
  cases p with
  | outside | closed => rfl
  | inside | escaped => cases hp

theorem StringBody.quoted (h : StringBody codes body) : Quoted .inside body := by
  have hinside : Place.inside.isOutside = false := rfl
  have hescaped : Place.escaped.isOutside = false := rfl
  have hslash : Place.inside.after '\\' = .escaped := rfl
  induction h with
  | closing => exact ⟨rfl, trivial⟩
  | unicode h _ ih =>
    simp only [hex4?, Option.bind_eq_bind, Option.bind_eq_some_iff] at h
    obtain ⟨a', ha, b', hb, c', hc, d', hd, -⟩ := h
    have hletter : Place.escaped.after 'u' = .inside := rfl
    simp only [quoted_cons, hslash, hletter, Place.after_hexDigit ha, Place.after_hexDigit hb,
      Place.after_hexDigit hc, Place.after_hexDigit hd, hinside, hescaped, true_and]
    exact ih
  | @escape c e codes body _ _ ih => exact ⟨hinside, hescaped, ih⟩
  | plain hquote hslash _ _ ih =>
    rw [quoted_cons, Place.after_inside hquote hslash]
    exact ⟨hinside, ih⟩

/-! ### Texts one after the other -/

/-- A text that a scan leaves outside the literals if it comes to it outside, and in which every
brace that opens outside the literals begins an object that ends in the text. -/
structure Nests (levels : Nat) (cs : List Char) : Prop where
  run : ∀ p : Place, p.isOutside = true → (p.run cs).isOutside = true
  object : ∀ (p : Place) (front back : List Char), p.isOutside = true → cs = front ++ '{' :: back →
    (p.run front).isOutside = true →
      ∃ inner after v, back = inner ++ after ∧ Spelled levels (.value v) ('{' :: inner)

theorem nests_nil : Nests levels [] where
  run _ hp := hp
  object _ front back _ heq _ := by simp at heq

theorem Nests.append (h : Nests levels cs) (hds : Nests levels ds) : Nests levels (cs ++ ds) where
  run p hp := by
    rw [Place.run_append]
    exact hds.run _ (h.run p hp)
  object p front back hp heq hfront := by
    rcases List.append_eq_append_iff.mp heq with ⟨more, rfl, hmore⟩ | ⟨more, hmore, hrest⟩
    · -- the brace is in the second text
      rw [Place.run_append] at hfront
      exact hds.object _ more back (h.run p hp) hmore hfront
    · cases more with
      | nil =>
        rw [List.append_nil] at hmore
        rw [List.nil_append] at hrest
        subst hmore
        exact hds.object _ [] back (h.run p hp) hrest.symm hfront
      | cons d more =>
        obtain ⟨rfl, rfl⟩ := List.cons.inj hrest
        obtain ⟨inner, after, v, rfl, hspelled⟩ := h.object p front more hp hmore hfront
        exact ⟨inner, after ++ ds, v, List.append_assoc .., hspelled⟩

/-- A character that begins neither a literal nor an object. -/
theorem nests_singleton (hquote : c ≠ '"') (hbrace : c ≠ '{') : Nests levels [c] where
  run p hp := by
    rw [Place.run_cons, Place.after_of_isOutside hp hquote]
    rfl
  object _ front back _ heq _ := by
    obtain ⟨rfl, hcons⟩ | ⟨rfl, hcons⟩ := List.singleton_eq_append_iff.mp heq
    · exact absurd (List.cons.inj hcons).1.symm hbrace
    · cases hcons

theorem Nests.cons (hquote : c ≠ '"') (hbrace : c ≠ '{') (h : Nests levels cs) :
    Nests levels (c :: cs) := (nests_singleton hquote hbrace).append h

theorem nests_of_forall_ne (h : ∀ c ∈ cs, c ≠ '"' ∧ c ≠ '{') : Nests levels cs := by
  induction cs with
  | nil => exact nests_nil
  | cons c cs ih =>
    obtain ⟨hquote, hbrace⟩ := h c (List.mem_cons_self ..)
    exact .cons hquote hbrace (ih fun d hd => h d (List.mem_cons_of_mem _ hd))

theorem Spaces.nests (h : Spaces spaces) : Nests levels spaces :=
  nests_of_forall_ne fun c hc =>
    ⟨ne_of_isSpace (h c hc) (by decide), ne_of_isSpace (h c hc) (by decide)⟩

/-- Braces in a literal are not counted. -/
theorem StringBody.nests (h : StringBody codes body) : Nests levels ('"' :: body) where
  run p hp := by
    rw [Place.run_cons, Place.after_quote hp, h.inside_run.2]
    rfl
  object p front back hp heq hfront := by
    cases front with
    | nil => cases heq
    | cons d front =>
      obtain ⟨rfl, rfl⟩ := List.cons.inj heq
      rw [Place.run_cons, Place.after_quote hp, h.quoted.isOutside_run] at hfront
      cases hfront

/-- More levels do no harm. -/
theorem Nests.succ (h : Nests levels cs) : Nests (levels + 1) cs where
  run := h.run
  object p front back hp heq hfront := by
    obtain ⟨inner, after, v, hback, hspelled⟩ := h.object p front back hp heq hfront
    exact ⟨inner, after, v, hback, hspelled.mono (Nat.le_succ levels)⟩

/-- A brace in front begins the object that the whole text is. -/
theorem Nests.object_cons {v : Json} (h : Nests levels cs)
    (hspelled : Spelled levels (.value v) ('{' :: cs)) : Nests levels ('{' :: cs) where
  run p hp := by
    rw [Place.run_cons, Place.after_of_isOutside hp (by decide)]
    exact h.run _ rfl
  object p front back hp heq hfront := by
    cases front with
    | nil =>
      obtain ⟨-, rfl⟩ := List.cons.inj heq
      exact ⟨cs, [], v, (List.append_nil _).symm, hspelled⟩
    | cons d front =>
      obtain ⟨rfl, rfl⟩ := List.cons.inj heq
      rw [Place.run_cons, Place.after_of_isOutside hp (by decide)] at hfront
      exact h.object _ front back rfl rfl hfront

/-! ### The texts of phrases -/

/-- **The braces in the text of a phrase.** By induction on the phrase: one case puts together the
texts of its parts. -/
theorem Spelled.nests {phrase : Phrase} (h : Spelled levels phrase used) : Nests levels used := by
  have hbracket : ∀ {levels : Nat}, Nests levels [']'] := nests_singleton (by decide) (by decide)
  have hbrace : ∀ {levels : Nat}, Nests levels ['}'] := nests_singleton (by decide) (by decide)
  induction h with
  | string h => exact h.nests
  | bare h =>
    refine nests_of_forall_ne fun c hc => ?_
    have hplain := h.plain c hc
    constructor
    · rintro rfl
      exact hplain (by decide)
    · rintro rfl
      exact hplain (by decide)
  | emptyArray hs => exact .cons (by decide) (by decide) (hs.nests.append hbracket)
  | array hs _ ih => exact .cons (by decide) (by decide) (hs.nests.append ih.succ)
  | emptyObject hs => exact (hs.nests.append hbrace).object_cons (.emptyObject hs)
  | object hs hmembers ih => exact (hs.nests.append ih.succ).object_cons (.object hs hmembers)
  | lastItem _ hs ih => exact ih.append (hs.nests.append hbracket)
  | moreItems _ hs hs' _ ih ihmore =>
    exact ih.append (hs.nests.append (.cons (by decide) (by decide) (hs'.nests.append ihmore)))
  | member hname hs hs' _ ih =>
    exact hname.nests.append
      (hs.nests.append (.cons (by decide) (by decide) (hs'.nests.append ih)))
  | lastMember _ hs ih => exact ih.append (hs.nests.append hbrace)
  | moreMembers _ hs hs' _ ih ihmore =>
    exact ih.append (hs.nests.append (.cons (by decide) (by decide) (hs'.nests.append ihmore)))

end Json

end BuildDescriptor
