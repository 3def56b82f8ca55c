import BuildDescriptor.Proofs.Json.Nesting
import BuildDescriptor.Proofs.Json.Salvage

/-!
# Which objects the search finds

An object occurs in a text where it can be read off the text from one of its braces on. Occurrences
may lie inside one another, and there may be many of them. The search finds a list of occurrences in
the order of the text, no two of which overlap, and misses none: every occurrence begins inside one
of those that are found.

## Where an occurrence ends

What begins inside an object that is found also ends inside it, if its brace is one of the object's
own. A brace that is a character of a string literal is not. An object can be read from there on
that goes on behind the literal: in `{"a":"{"}":1}` the object that is found ends with the first
closing brace, and `{"}":1}` begins with the brace in the literal. It is neither found nor a part of
what is found. The statement tells the two cases apart.

## Main definitions

* `Json.Occurrence` — an object in a text, with the place where it begins and the one where it ends
* `Json.Occurrence.Covers` — a place lies inside an occurrence
* `Json.Occurrence.Quotes` — a place lies inside a string literal of an occurrence

## Main results

* `Json.Occurrence.stop_le_stop` — what begins inside an occurrence ends inside it
* `Json.exists_occurrences_of_salvaged` — what the search finds, from some place on
* `Json.exists_occurrences_of_objectsIn` — what the search of a text finds
* `Json.not_exists_occurrences_around` — an object that is not found, nor a part of one that is
-/

namespace BuildDescriptor

namespace Json

section

variable {levels : Nat} {cs rest front : List Char} {v : Json} {vs : List Json}

variable [Capacity]

/-- An object in a text: the place of the brace that it begins with, the place behind the brace that
it ends with, and the object that is read between the two. -/
structure Occurrence (cs : List Char) where
  start : Nat
  stop : Nat
  content : Json
  opens : cs[start]? = some '{'
  read : value maxNesting (cs.drop start) = .ok (content, cs.drop stop)
  isObject : content.isObject = true
  stop_le : stop ≤ cs.length

omit [Capacity] in
/-- What is read at a brace is an object. -/
theorem isObject_of_value (h : value levels ('{' :: cs) = .ok (v, rest)) : v.isObject = true := by
  obtain ⟨used, -, hspelled⟩ := exists_spelled_of_value h
  cases hspelled with
  | bare hbare => exact absurd (by decide) (hbare.plain '{' (List.mem_cons_self ..))
  | emptyObject _ => rfl
  | object _ _ => rfl

namespace Occurrence

variable (o f : Occurrence cs)

/-- A place inside an occurrence. -/
def Covers (place : Nat) : Prop := o.start ≤ place ∧ place < o.stop

/-- A place behind the beginning of an occurrence where a scan of its text is inside a string
literal. -/
def Quotes (place : Nat) : Prop :=
  (Place.outside.run ((cs.drop o.start).take (place - o.start))).isOutside = false

/-! ### The text of an occurrence -/

theorem start_lt_length : o.start < cs.length :=
  (List.getElem?_eq_some_iff.mp o.opens).1

/-- The text from the brace on. -/
theorem drop_start : cs.drop o.start = '{' :: cs.drop (o.start + 1) := by
  obtain ⟨hlt, hbrace⟩ := List.getElem?_eq_some_iff.mp o.opens
  rw [List.drop_eq_getElem_cons hlt, hbrace]

/-- The text from the brace on is that of the object, and what follows it. -/
theorem exists_used :
    ∃ used, cs.drop o.start = '{' :: used ++ cs.drop o.stop ∧
      Spelled maxNesting (.value o.content) ('{' :: used) := by
  have hread := o.read
  rw [o.drop_start] at hread
  obtain ⟨used, hused, hspelled⟩ := exists_spelled_of_value hread
  exact ⟨used, by rw [o.drop_start, hused, List.cons_append], hspelled⟩

theorem start_lt_stop : o.start < o.stop := by
  obtain ⟨used, hused, -⟩ := o.exists_used
  have hlength := congrArg List.length hused
  have hstart := o.start_lt_length
  have hstop := o.stop_le
  simp only [List.length_drop, List.length_append, List.length_cons] at hlength
  omega

variable {o f}

/-- What is read at a place ends at one place only. -/
theorem stop_eq_stop (h : f.start = o.start) : f.stop = o.stop := by
  have hread := f.read
  rw [h, o.read] at hread
  simp only [Except.ok.injEq, Prod.mk.injEq] at hread
  have hrest := congrArg List.length hread.2
  have hf := f.stop_le
  have ho := o.stop_le
  simp only [List.length_drop] at hrest
  omega

/-! ### Occurrences inside one another -/

/-- **What begins inside an occurrence ends inside it**, unless it begins in a literal. Where the
brace is one of the object's own, the text of the object says what is read there. -/
theorem stop_le_stop (hcovers : f.Covers o.start) (hplain : ¬ f.Quotes o.start) :
    o.stop ≤ f.stop := by
  obtain ⟨used, hused, hspelled⟩ := f.exists_used
  obtain ⟨hstart, hstop⟩ := hcovers
  have hle := f.stop_le
  have hlength : used.length + 1 = f.stop - f.start := by
    have := congrArg List.length hused
    simp only [List.length_drop, List.length_append, List.length_cons] at this
    omega
  -- cut the text of `f` in front of the brace of `o`
  obtain ⟨k, hk⟩ := Nat.exists_eq_add_of_le hstart
  have hfront : (cs.drop f.start).take k = ('{' :: used).take k := by
    rw [hused, List.take_append_of_le_length (by rw [List.length_cons]; omega)]
  have hback : cs.drop o.start = ('{' :: used).drop k ++ cs.drop f.stop := by
    rw [hk, ← List.drop_drop, hused,
      List.drop_append_of_le_length (by rw [List.length_cons]; omega)]
  obtain ⟨back, hcut⟩ : ∃ back, ('{' :: used).drop k = '{' :: back := by
    have hlt : k < ('{' :: used).length := by rw [List.length_cons]; omega
    rw [List.drop_eq_getElem_cons hlt, List.cons_append, o.drop_start] at hback
    exact ⟨_, by rw [List.drop_eq_getElem_cons hlt, ← (List.cons.inj hback).1]⟩
  have houtside : (Place.outside.run (('{' :: used).take k)).isOutside = true := by
    rw [← hfront]
    simpa [Quotes, hk] using hplain
  obtain ⟨inner, after, v, rfl, hinner⟩ :=
    hspelled.nests.object .outside (('{' :: used).take k) back
    rfl (by rw [← hcut, List.take_append_drop]) houtside
  -- so the object that is read there is a part of `f`
  have hread := o.read
  rw [hback, hcut, List.cons_append, List.append_assoc, hinner.value_eq (by decide)] at hread
  simp only [Except.ok.injEq, Prod.mk.injEq] at hread
  have hrest := congrArg List.length hread.2
  have := o.stop_le
  simp only [List.length_append, List.length_drop] at hrest
  omega

/-- No place lies inside two occurrences of which one ends before the other begins. -/
theorem eq_of_covers {found : List (Occurrence cs)} (h : found.Pairwise (·.stop ≤ ·.start))
    {g : Occurrence cs} {place : Nat} (hf : f ∈ found) (hg : g ∈ found) (hfp : f.Covers place)
    (hgp : g.Covers place) : f = g := by
  obtain ⟨i, hi, rfl⟩ := List.getElem_of_mem hf
  obtain ⟨j, hj, rfl⟩ := List.getElem_of_mem hg
  have hapart : ∀ (i j : Nat) (hi : i < found.length) (hj : j < found.length), i < j →
      found[i].stop ≤ found[j].start := List.pairwise_iff_getElem.mp h
  obtain ⟨hfstart, hfstop⟩ := hfp
  obtain ⟨hgstart, hgstop⟩ := hgp
  rcases Nat.lt_trichotomy i j with hij | rfl | hij
  · have := hapart i j hi hj hij
    omega
  · rfl
  · have := hapart j i hj hi hij
    omega

end Occurrence

/-! ### What the search finds -/

/-- An object that is read behind some part of a text, as an occurrence. -/
theorem exists_occurrence (h : value maxNesting ('{' :: cs) = .ok (v, rest)) {text : List Char}
    (htext : text = front ++ '{' :: cs) :
    ∃ o : Occurrence text, o.start = front.length ∧ o.content = v ∧
      o.stop + rest.length = text.length ∧ text.drop o.stop = rest := by
  obtain ⟨used, rfl, -⟩ := exists_spelled_of_value h
  have hstart : text.drop front.length = '{' :: (used ++ rest) := by
    rw [htext, List.drop_left]
  have hstop : text.drop (front.length + (used.length + 1)) = rest := by
    rw [← List.drop_drop, hstart, List.drop_succ_cons, List.drop_left]
  have hlength : front.length + (used.length + 1) + rest.length = text.length := by
    rw [htext]
    simp only [List.length_append, List.length_cons]
    omega
  refine ⟨⟨front.length, front.length + (used.length + 1), v, ?_, ?_, isObject_of_value h, ?_⟩, rfl,
    rfl, hlength, hstop⟩
  · rw [htext, List.getElem?_append_right (Nat.le_refl _), Nat.sub_self]
    rfl
  · rw [hstart, hstop, h]
  · omega

/-- **What the search finds, from some place on.** By induction on the search: an occurrence that
begins there either begins at the next character or behind it. -/
theorem exists_occurrences_of_salvaged (h : Salvaged cs vs) {text : List Char}
    (htext : text = front ++ cs) :
    ∃ found : List (Occurrence text), found.map (·.content) = vs ∧
      found.Pairwise (·.stop ≤ ·.start) ∧ (∀ f ∈ found, front.length ≤ f.start) ∧
      ∀ o : Occurrence text, front.length ≤ o.start → ∃ f ∈ found, f.Covers o.start := by
  induction h generalizing front with
  | nil =>
    refine ⟨[], rfl, .nil, nofun, fun o ho => ?_⟩
    have hlength : text.length = front.length := by rw [htext, List.append_nil]
    have := o.start_lt_length
    omega
  | @skipped c cs vs hc _ ih =>
    have hsplit : text = (front ++ [c]) ++ cs := by rw [htext, List.append_assoc]; rfl
    obtain ⟨found, hvs, happart, hbehind, hall⟩ := ih hsplit
    rw [List.length_append, List.length_singleton] at hbehind hall
    refine ⟨found, hvs, happart, fun f hf => Nat.le_of_succ_le (hbehind f hf), fun o ho => ?_⟩
    refine hall o (Nat.lt_of_le_of_ne ho fun heq => ?_)
    have hopens := o.opens
    rw [← heq, htext, List.getElem?_append_right (Nat.le_refl _), Nat.sub_self] at hopens
    exact hc (Option.some.inj hopens)
  | @taken cs rest v vs hv _ ih =>
    obtain ⟨first, hstart, hcontent, hstop, hrest⟩ := exists_occurrence hv htext
    have hsplit : text = text.take first.stop ++ rest := by
      rw [← hrest, List.take_append_drop]
    have hlength : (text.take first.stop).length = first.stop := by
      rw [List.length_take]
      omega
    obtain ⟨found, hvs, happart, hbehind, hall⟩ := ih hsplit
    rw [hlength] at hbehind hall
    refine ⟨first :: found, by rw [List.map_cons, hcontent, hvs],
      List.pairwise_cons.mpr ⟨hbehind, happart⟩, ?_, fun o ho => ?_⟩
    · intro f hf
      rcases List.mem_cons.mp hf with rfl | hf
      · omega
      · have := hbehind f hf
        have := first.start_lt_stop
        omega
    · rcases Nat.lt_or_ge o.start first.stop with hlt | hge
      · exact ⟨first, List.mem_cons_self .., by omega, hlt⟩
      · obtain ⟨f, hf, hcovers⟩ := hall o hge
        exact ⟨f, List.mem_cons_of_mem _ hf, hcovers⟩
  | @passed cs vs hv _ ih =>
    have hsplit : text = (front ++ ['{']) ++ cs := by rw [htext, List.append_assoc]; rfl
    obtain ⟨found, hvs, happart, hbehind, hall⟩ := ih hsplit
    rw [List.length_append, List.length_singleton] at hbehind hall
    refine ⟨found, hvs, happart, fun f hf => Nat.le_of_succ_le (hbehind f hf), fun o ho => ?_⟩
    refine hall o (Nat.lt_of_le_of_ne ho fun heq => ?_)
    have hdrop : text.drop front.length = '{' :: cs := by rw [htext, List.drop_left]
    have hread := o.read
    rw [← heq, hdrop, hv] at hread
    cases hread

/-- **What the search of a text finds.** It ends with the objects of a list of occurrences in the
order of the text. They do not overlap, and every occurrence begins inside exactly one of them; it
ends there too, unless its brace is a character of a string literal. -/
theorem exists_occurrences_of_objectsIn {text : String}
    (h : ∀ cs, '{' :: cs <:+ text.toList → OnlyMalformed (value maxNesting ('{' :: cs))) :
    ∃ found : List (Occurrence text.toList),
      objectsIn text = .ok (found.map (·.content)) ∧
      found.Pairwise (·.stop ≤ ·.start) ∧
      ∀ o : Occurrence text.toList, ∃ f ∈ found, f.Covers o.start ∧
        (∀ g ∈ found, g.Covers o.start → g = f) ∧ (o.stop ≤ f.stop ∨ f.Quotes o.start) := by
  obtain ⟨vs, hvs⟩ := exists_salvaged h
  have hwhole : text.toList = [] ++ text.toList := rfl
  obtain ⟨found, rfl, happart, -, hall⟩ := exists_occurrences_of_salvaged hvs hwhole
  refine ⟨found, objectsIn_eq_ok_iff.mpr hvs, happart, fun o => ?_⟩
  obtain ⟨f, hf, hcovers⟩ := hall o (Nat.zero_le _)
  refine ⟨f, hf, hcovers,
    fun g hg hgcovers => Occurrence.eq_of_covers happart hg hf hgcovers hcovers, ?_⟩
  by_cases hquotes : f.Quotes o.start
  · exact .inr hquotes
  · exact .inl (Occurrence.stop_le_stop hcovers hquotes)

end

namespace Sample

/-- The record in the middle has a brace in a literal, and the last one has lost its colon. -/
def damaged : String := r#"[{"a":{"b":1}}, {"c":"{"}":1}, {"d" {"e":2}]"#

end Sample

theorem exists_occurrences_sample :
    Ordinary Sample.damaged ∧
      objectsIn Sample.damaged =
        .ok [.object [("a", .object [("b", .integer 1)])], .object [("c", .string r"{")],
          .object [("e", .integer 2)]] ∧
      ∃ found : List (Occurrence Sample.damaged.toList),
        objectsIn Sample.damaged = .ok (found.map (·.content)) ∧
        found.Pairwise (·.stop ≤ ·.start) ∧
        ∀ o : Occurrence Sample.damaged.toList, ∃ f ∈ found, f.Covers o.start ∧
          (∀ g ∈ found, g.Covers o.start → g = f) ∧ (o.stop ≤ f.stop ∨ f.Quotes o.start) := by
  have hordinary : Ordinary Sample.damaged := by decide +kernel
  exact ⟨hordinary, by decide +kernel, exists_occurrences_of_objectsIn hordinary.value⟩

namespace Sample

/-- An object with a brace in a literal, and one that begins with this brace. -/
def straddling : String := r#"{"a":"{"}":1}"#

/-- The object that is found. -/
def outer : Occurrence straddling.toList where
  start := 0
  stop := 9
  content := .object [("a", .string r"{")]
  opens := by decide
  read := by decide +kernel
  isObject := rfl
  stop_le := by decide

/-- The object that begins with the brace in the literal. -/
def inner : Occurrence straddling.toList where
  start := 6
  stop := 13
  content := .object [(r"}", .integer 1)]
  opens := by decide
  read := by decide +kernel
  isObject := rfl
  stop_le := by decide

theorem ordinary_straddling : Ordinary straddling := by
  decide +kernel

theorem objectsIn_straddling : objectsIn straddling = .ok [outer.content] := by
  decide +kernel

end Sample

/-- **Not every object is found or a part of one that is found.** Only one object is found here, and
the one that begins in its literal ends behind it. -/
theorem not_exists_occurrences_around :
    Ordinary Sample.straddling ∧
      ¬ ∃ found : List (Occurrence Sample.straddling.toList),
        objectsIn Sample.straddling = .ok (found.map (·.content)) ∧
        found.Pairwise (·.stop ≤ ·.start) ∧
        ∀ o : Occurrence Sample.straddling.toList, ∃ f ∈ found,
          f.start ≤ o.start ∧ o.stop ≤ f.stop := by
  refine ⟨Sample.ordinary_straddling, ?_⟩
  rintro ⟨found, hfound, -, hall⟩
  rw [Sample.objectsIn_straddling, Except.ok.injEq, eq_comm, List.map_eq_singleton_iff] at hfound
  obtain ⟨f, rfl, -⟩ := hfound
  obtain ⟨f', hf', houter, -⟩ := hall Sample.outer
  obtain ⟨f'', hf'', -, hinner⟩ := hall Sample.inner
  rw [List.mem_singleton] at hf' hf''
  subst hf' hf''
  have hstart : f''.start = Sample.outer.start := Nat.le_antisymm houter (Nat.zero_le _)
  have hstop : f''.stop = 9 := Occurrence.stop_eq_stop hstart
  rw [hstop] at hinner
  exact absurd hinner (by decide)

end Json

end BuildDescriptor
