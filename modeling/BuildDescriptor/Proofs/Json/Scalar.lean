import BuildDescriptor.Json.Reader
import BuildDescriptor.Proofs.Bind
import Mathlib.Data.List.TakeWhile

/-!
# The text of a scalar

A reader takes a value off the front of a text, and what it takes does not depend on what follows.
For a string that is true without a condition, since it ends with its closing quote. A number or a
word ends where the text goes on with something else, so it is true as long as what follows is one
of the delimiters that JSON has between values.

## Main definitions

* `Json.StringBody` — the text of a string, from behind its opening quote
* `Json.delimiters`, `Json.Ends` — what follows a value
* `Json.Bare` — the text of a scalar that is no string

## Main results

* `Json.stringBody_of_stringCodes`, `Json.StringBody.stringCodes_eq`
* `Json.bare_of_scalar`
-/

namespace BuildDescriptor

namespace Json

variable {cs rest body used : List Char} {c : Char}

/-! ### Strings -/

/-- The text of a string with the given code points, from behind its opening quote to its closing
one. -/
inductive StringBody : List Nat → List Char → Prop
  | closing : StringBody [] ['"']
  | unicode {a b c d : Char} {code : Nat} {codes : List Nat} {body : List Char}
      (h : hex4? a b c d = some code) (hbody : StringBody codes body) :
      StringBody (code :: codes) ('\\' :: 'u' :: a :: b :: c :: d :: body)
  | escape {c e : Char} {codes : List Nat} {body : List Char} (h : escape? c = some e)
      (hbody : StringBody codes body) : StringBody (e.toNat :: codes) ('\\' :: c :: body)
  | plain {c : Char} {codes : List Nat} {body : List Char} (hquote : c ≠ '"') (hslash : c ≠ '\\')
      (h : ¬ c.toNat < 0x20) (hbody : StringBody codes body) :
      StringBody (c.toNat :: codes) (c :: body)

theorem stringBody_of_stringCodes {codes : List Nat} (h : stringCodes cs = some (codes, rest)) :
    ∃ body, cs = body ++ rest ∧ StringBody codes body := by
  fun_induction stringCodes cs generalizing codes rest with
  | case1 => cases h
  | case2 cs =>
    cases h
    exact ⟨['"'], rfl, .closing⟩
  | case3 a b c d cs ih =>
    simp only [Option.bind_eq_bind, Option.bind_eq_some_iff, Option.pure_def, Option.some.injEq,
      Prod.mk.injEq] at h
    obtain ⟨code, hcode, ⟨codes, rest⟩, hcodes, rfl, rfl⟩ := h
    obtain ⟨body, rfl, hbody⟩ := ih hcodes
    exact ⟨_, rfl, .unicode hcode hbody⟩
  | case4 c cs _ ih =>
    simp only [Option.bind_eq_bind, Option.bind_eq_some_iff, Option.pure_def, Option.some.injEq,
      Prod.mk.injEq] at h
    obtain ⟨e, he, ⟨codes, rest⟩, hcodes, rfl, rfl⟩ := h
    obtain ⟨body, rfl, hbody⟩ := ih hcodes
    exact ⟨_, rfl, .escape he hbody⟩
  | case5 c cs => cases h
  | case6 c cs hquote _ hslash hlt ih =>
    simp only [Option.bind_eq_bind, Option.bind_eq_some_iff, Option.pure_def, Option.some.injEq,
      Prod.mk.injEq] at h
    obtain ⟨⟨codes, rest⟩, hcodes, rfl, rfl⟩ := h
    have hne : c ≠ '\\' := by
      rintro rfl
      cases cs with
      | nil => cases hcodes
      | cons d cs => exact hslash d cs rfl rfl
    obtain ⟨body, rfl, hbody⟩ := ih hcodes
    exact ⟨_, rfl, .plain hquote hne hlt hbody⟩

/-- A string is read whatever follows it. -/
theorem StringBody.stringCodes_eq {codes : List Nat} (h : StringBody codes body)
    (rest : List Char) : stringCodes (body ++ rest) = some (codes, rest) := by
  induction h with
  | closing => rfl
  | unicode h _ ih =>
    simp only [List.cons_append, stringCodes, h, ih]
    rfl
  | @escape c e codes body h _ ih =>
    have hletter : c ≠ 'u' := by
      rintro rfl
      cases h
    rw [List.cons_append, List.cons_append, stringCodes]
    · simp only [h, ih]
      rfl
    · rintro _ _ _ _ _ rfl
      exact absurd rfl hletter
  | @plain c codes body hquote hslash h _ ih =>
    rw [List.cons_append, stringCodes]
    · simp only [if_neg h, ih]
      rfl
    · exact hquote
    · rintro _ _ _ _ _ rfl
      exact absurd rfl hslash
    · rintro _ _ rfl
      exact absurd rfl hslash

/-- The text of a string, as a text. -/
def textOfCodes (codes : List Nat) : String := String.ofList (joinSurrogates codes)

theorem stringBody_eq_ok_iff {text : String} :
    stringBody cs = .ok (text, rest) ↔
      ∃ codes body, text = textOfCodes codes ∧ cs = body ++ rest ∧ StringBody codes body := by
  constructor
  · intro h
    unfold stringBody at h
    split at h
    · cases h
    · rename_i codes rest' hcodes
      cases h
      obtain ⟨body, rfl, hbody⟩ := stringBody_of_stringCodes hcodes
      exact ⟨codes, body, rfl, rfl, hbody⟩
  · rintro ⟨codes, body, rfl, rfl, hbody⟩
    simp only [stringBody, hbody.stringCodes_eq, textOfCodes]

/-! ### What stops a number -/

/-- A text that does not go on with a character of a class. -/
def Stops (p : Char → Bool) (rest : List Char) : Prop := ∀ c ∈ rest.head?, p c = false

theorem stops_cons {p : Char → Bool} (h : p c = false) : Stops p (c :: cs) := by
  intro d hd
  cases hd
  exact h

theorem Stops.append {p : Char → Bool} (hcs : Stops p cs) (hrest : Stops p rest) :
    Stops p (cs ++ rest) := by
  cases cs with
  | nil => exact hrest
  | cons c cs => exact stops_cons (hcs c rfl)

theorem Stops.mono {p q : Char → Bool} (h : Stops p rest) (hle : ∀ c, q c = true → p c = true) :
    Stops q rest := by
  intro c hc
  have hp : p c = false := h c hc
  rw [Bool.eq_false_iff] at hp ⊢
  exact fun hq => hp (hle c hq)

theorem Stops.takeWhile_append {p : Char → Bool} (hrest : Stops p rest)
    (h : ∀ c ∈ cs, p c = true) : (cs ++ rest).takeWhile p = cs := by
  rw [List.takeWhile_append_of_pos h]
  cases rest with
  | nil => simp
  | cons c rest => rw [List.takeWhile_cons_of_neg (by simp [hrest c rfl]), List.append_nil]

theorem Stops.dropWhile_append {p : Char → Bool} (hrest : Stops p rest)
    (h : ∀ c ∈ cs, p c = true) : (cs ++ rest).dropWhile p = rest := by
  rw [List.dropWhile_append_of_pos h]
  cases rest with
  | nil => rfl
  | cons c rest => rw [List.dropWhile_cons_of_neg (by simp [hrest c rfl])]

/-- The characters that follow a value: spaces, and what separates or closes. -/
def delimiters : List Char := [' ', '\t', '\n', '\r', ',', ':', ']', '}']

/-- Nothing follows, or a delimiter. -/
def Ends (rest : List Char) : Prop := ∀ c ∈ rest.head?, c ∈ delimiters

theorem Ends.stops {p : Char → Bool} (h : Ends rest) (hp : delimiters.all (!p ·) = true) :
    Stops p rest := by
  intro c hc
  simpa using List.all_eq_true.mp hp c (h c hc)

/-! ### The parts of a number -/

/-- A scanner takes a part off the front of every text that stops it behind the part. -/
def Takes (scan : List Char → List Char × List Char) (p : Char → Bool) (part : List Char) : Prop :=
  ∀ rest, Stops p rest → scan (part ++ rest) = (part, rest)

theorem wholeDigits_takes {whole : List Char} (h : wholeDigits cs = (whole, rest)) :
    cs = whole ++ rest ∧ (∀ c ∈ whole, isDigit c = true) ∧ Takes wholeDigits isDigit whole := by
  unfold wholeDigits at h
  split at h
  · cases h
    exact ⟨rfl, by simp [isDigit], fun rest _ => rfl⟩
  · rename_i hzero
    cases h
    have hdigits : ∀ c ∈ cs.takeWhile isDigit, isDigit c = true := fun c hc =>
      List.mem_takeWhile_imp hc
    refine ⟨List.takeWhile_append_dropWhile.symm, hdigits, ?_⟩
    intro rest hrest
    rw [wholeDigits]
    · rw [hrest.takeWhile_append hdigits, hrest.dropWhile_append hdigits]
    · intro more hmore
      cases hwhole : cs.takeWhile isDigit with
      | nil =>
        rw [hwhole, List.nil_append] at hmore
        subst hmore
        exact absurd (hrest '0' rfl) (by decide)
      | cons c whole =>
        rw [hwhole, List.cons_append, List.cons.injEq] at hmore
        obtain ⟨rfl, -⟩ := hmore
        cases cs with
        | nil => cases hwhole
        | cons d cs =>
          rw [List.takeWhile_cons] at hwhole
          split at hwhole
          · rw [List.cons.injEq] at hwhole
            exact hzero cs (by rw [hwhole.1])
          · cases hwhole

/-- The characters that would continue a fraction. -/
def continuesFraction (c : Char) : Bool := isDigit c || c == '.'

/-- The characters that would continue an exponent. -/
def continuesExponent (c : Char) : Bool := isDigit c || c == 'e' || c == 'E'

theorem continuesFraction_of_isDigit (c : Char) (h : isDigit c = true) :
    continuesFraction c = true := by
  simp [continuesFraction, h]

theorem continuesExponent_of_isDigit (c : Char) (h : isDigit c = true) :
    continuesExponent c = true := by
  simp [continuesExponent, h]

/-- The characters of numbers. -/
def isNumberChar (c : Char) : Bool :=
  isDigit c || c == '.' || c == 'e' || c == 'E' || c == '+' || c == '-'

theorem isNumberChar_of_isDigit (h : isDigit c = true) : isNumberChar c = true := by
  simp [isNumberChar, h]

theorem fractionDigits_takes {fraction : List Char} (h : fractionDigits cs = (fraction, rest)) :
    cs = fraction ++ rest ∧ (∀ c ∈ fraction, isNumberChar c = true) ∧
      (∀ c ∈ fraction.head?, c = '.') ∧ Takes fractionDigits continuesFraction fraction := by
  have hnone : Takes fractionDigits continuesFraction [] := by
    intro rest hrest
    rw [List.nil_append, fractionDigits]
    rintro cs rfl
    exact absurd (hrest '.' rfl) (by decide)
  unfold fractionDigits at h
  split at h
  · rename_i cs
    have hall : ∀ c ∈ cs.takeWhile isDigit, isDigit c = true := fun c hc =>
      List.mem_takeWhile_imp hc
    split at h
    · cases h
      exact ⟨rfl, by simp, by simp, hnone⟩
    · rename_i hdigits
      cases h
      refine ⟨by simp, ?_, by simp, ?_⟩
      · intro c hc
        rcases List.mem_cons.mp hc with rfl | hc
        · decide
        · exact isNumberChar_of_isDigit (hall c hc)
      · intro rest hrest
        have hstops : Stops isDigit rest := hrest.mono continuesFraction_of_isDigit
        rw [List.cons_append, fractionDigits, hstops.takeWhile_append hall,
          hstops.dropWhile_append hall, if_neg hdigits]
  · cases h
    exact ⟨rfl, by simp, by simp, hnone⟩

theorem exponentSign_eq {sign : List Char} (h : exponentSign cs = (sign, rest)) :
    cs = sign ++ rest ∧ (∀ c ∈ sign, isNumberChar c = true) ∧
      ∀ d more, isDigit d = true → exponentSign (sign ++ d :: more) = (sign, d :: more) := by
  unfold exponentSign at h
  split at h
  · cases h
    exact ⟨rfl, by simp [isNumberChar], fun _ _ _ => rfl⟩
  · cases h
    exact ⟨rfl, by simp [isNumberChar], fun _ _ _ => rfl⟩
  · cases h
    refine ⟨rfl, by simp, ?_⟩
    intro d more hd
    rw [List.nil_append, exponentSign]
    all_goals
      intro _ heq
      obtain ⟨rfl, -⟩ := List.cons.inj heq
      exact absurd hd (by decide)

theorem exponentDigits_takes {exponent : List Char} (h : exponentDigits cs = (exponent, rest)) :
    cs = exponent ++ rest ∧ (∀ c ∈ exponent, isNumberChar c = true) ∧
      (∀ c ∈ exponent.head?, c = 'e' ∨ c = 'E') ∧
      Takes exponentDigits continuesExponent exponent := by
  have hnone : Takes exponentDigits continuesExponent [] := by
    intro rest hrest
    cases rest with
    | nil => rfl
    | cons c rest =>
      have hletter : c ≠ 'e' ∧ c ≠ 'E' := by
        have := hrest c rfl
        simp only [continuesExponent, Bool.or_eq_false_iff, beq_eq_false_iff_ne] at this
        exact ⟨this.1.2, this.2⟩
      simp [exponentDigits, hletter.1, hletter.2]
  cases cs with
  | nil =>
    cases h
    exact ⟨rfl, by simp, by simp, hnone⟩
  | cons c cs =>
    rcases hs : exponentSign cs with ⟨sign, digits⟩
    obtain ⟨rfl, hsign, hscan⟩ := exponentSign_eq hs
    simp only [exponentDigits, hs] at h
    split at h
    · rename_i hcond
      simp only [Bool.and_eq_true, Bool.or_eq_true, decide_eq_true_eq, Bool.not_eq_true',
        List.isEmpty_eq_false_iff] at hcond
      cases h
      have hall : ∀ c ∈ digits.takeWhile isDigit, isDigit c = true := fun c hc =>
        List.mem_takeWhile_imp hc
      refine ⟨by simp, ?_, by simpa using hcond.1, ?_⟩
      · intro d hd
        simp only [List.cons_append, List.mem_cons, List.mem_append] at hd
        rcases hd with rfl | hd | hd
        · rcases hcond.1 with rfl | rfl <;> decide
        · exact hsign d hd
        · exact isNumberChar_of_isDigit (hall d hd)
      · intro rest hrest
        have hstops : Stops isDigit rest := hrest.mono continuesExponent_of_isDigit
        obtain ⟨d, more, hmore⟩ := List.exists_cons_of_ne_nil hcond.2
        have hd : isDigit d = true := hall d (hmore ▸ List.mem_cons_self ..)
        have hscan' : exponentSign (sign ++ (digits.takeWhile isDigit ++ rest)) =
            (sign, digits.takeWhile isDigit ++ rest) := by
          rw [hmore]
          exact hscan d _ hd
        simp only [List.cons_append, List.append_assoc, exponentDigits, hscan',
          hstops.takeWhile_append hall, hstops.dropWhile_append hall]
        rw [if_pos]
        simpa using hcond
    · cases h
      exact ⟨rfl, by simp, by simp, hnone⟩

/-! ### Numbers -/

/-- The number with the given parts, after its sign. -/
def numberOf (negative : Bool) (whole fraction exponent : List Char) : Except Failure Json :=
  if whole.isEmpty then .error .malformed
  else if !(fraction.isEmpty && exponent.isEmpty) then
    let sign := if negative then ['-'] else []
    .ok (.decimal (String.ofList (sign ++ whole ++ fraction ++ exponent)))
  else if Text.maxDigits < whole.length then .error (.longInteger whole.length)
  else
    let n : Int := digitsValue whole
    .ok (.integer (if negative then -n else n))

variable {negative : Bool} {v : Json}

theorem unsignedNumber_eq {whole fraction exponent afterWhole afterFraction : List Char}
    (hwhole : wholeDigits cs = (whole, afterWhole))
    (hfraction : fractionDigits afterWhole = (fraction, afterFraction))
    (hexponent : exponentDigits afterFraction = (exponent, rest)) :
    unsignedNumber negative cs =
      (numberOf negative whole fraction exponent).map fun v => (v, rest) := by
  simp only [unsignedNumber, numberOf, hwhole, hfraction, hexponent]
  split
  · rfl
  · split
    · rfl
    · split <;> rfl

theorem parts_of_unsignedNumber (h : unsignedNumber negative cs = .ok (v, rest)) :
    ∃ whole fraction exponent afterWhole afterFraction,
      wholeDigits cs = (whole, afterWhole) ∧ fractionDigits afterWhole = (fraction, afterFraction) ∧
        exponentDigits afterFraction = (exponent, rest) ∧
          numberOf negative whole fraction exponent = .ok v := by
  rcases hwhole : wholeDigits cs with ⟨whole, afterWhole⟩
  rcases hfraction : fractionDigits afterWhole with ⟨fraction, afterFraction⟩
  rcases hexponent : exponentDigits afterFraction with ⟨exponent, afterExponent⟩
  rw [unsignedNumber_eq hwhole hfraction hexponent] at h
  cases hnumber : numberOf negative whole fraction exponent with
  | error e =>
    rw [hnumber] at h
    cases h
  | ok n =>
    rw [hnumber] at h
    cases h
    exact ⟨whole, fraction, exponent, afterWhole, afterFraction, rfl, hfraction, hexponent, hnumber⟩

theorem numberOf_ne_ok {fraction exponent : List Char} :
    numberOf negative [] fraction exponent ≠ .ok v := by
  simp [numberOf]

theorem unsignedNumber_takes (h : unsignedNumber negative cs = .ok (v, rest)) :
    ∃ used, cs = used ++ rest ∧ (∃ d more, used = d :: more ∧ isDigit d = true) ∧
      (∀ c ∈ used, isNumberChar c = true) ∧
      ∀ rest, Ends rest → unsignedNumber negative (used ++ rest) = .ok (v, rest) := by
  obtain ⟨whole, fraction, exponent, afterWhole, afterFraction, hwhole, hfraction, hexponent,
    hnumber⟩ := parts_of_unsignedNumber h
  obtain ⟨rfl, hwdigits, hwtakes⟩ := wholeDigits_takes hwhole
  obtain ⟨rfl, hfchars, hfhead, hftakes⟩ := fractionDigits_takes hfraction
  obtain ⟨rfl, hechars, hehead, hetakes⟩ := exponentDigits_takes hexponent
  refine ⟨whole ++ (fraction ++ exponent), by simp, ?_, ?_, ?_⟩
  · cases whole with
    | nil => exact absurd hnumber numberOf_ne_ok
    | cons d whole => exact ⟨d, _, rfl, hwdigits d (List.mem_cons_self ..)⟩
  · intro c hc
    rcases List.mem_append.mp hc with hc | hc
    · exact isNumberChar_of_isDigit (hwdigits c hc)
    · rcases List.mem_append.mp hc with hc | hc
      · exact hfchars c hc
      · exact hechars c hc
  · intro rest hrest
    have hestops : Stops continuesFraction (exponent ++ rest) := by
      refine .append (fun c hc => ?_) (hrest.stops (by decide))
      rcases hehead c hc with rfl | rfl <;> decide
    have hfstops : Stops isDigit (fraction ++ (exponent ++ rest)) := by
      refine .append (fun c hc => ?_) (hestops.mono continuesFraction_of_isDigit)
      rw [hfhead c hc]
      decide
    rw [List.append_assoc, List.append_assoc, unsignedNumber_eq (hwtakes _ hfstops)
      (hftakes _ hestops) (hetakes _ (hrest.stops (by decide))), hnumber]
    rfl

/-! ### Words and numbers -/

/-- The characters that have a meaning of their own. -/
def structural : List Char := delimiters ++ ['"', '\\', '[', '{']

/-- The text of a scalar that is no string. -/
structure Bare (v : Json) (used : List Char) : Prop where
  ne_nil : used ≠ []
  plain : ∀ c ∈ used, c ∉ structural
  scalar_eq : ∀ rest, Ends rest → scalar (used ++ rest) = .ok (v, rest)

theorem not_mem_structural_of_isNumberChar (h : isNumberChar c = true) : c ∉ structural := by
  have hall : structural.all (!isNumberChar ·) = true := by decide
  intro hc
  have hnot := List.all_eq_true.mp hall c hc
  rw [h] at hnot
  cases hnot

theorem find?_words_append {word : String × Json} (hword : word ∈ words) (rest : List Char) :
    (words.find? fun w => w.1.toList.isPrefixOf (word.1.toList ++ rest)) = some word := by
  simp only [words, List.mem_cons, List.not_mem_nil, or_false] at hword
  rcases hword with rfl | rfl | rfl | rfl | rfl | rfl <;> rfl

theorem bare_of_mem_words {word : String × Json} (hword : word ∈ words) :
    Bare word.2 word.1.toList := by
  have hall : (words.all fun w => !w.1.toList.isEmpty &&
      w.1.toList.all fun c => !structural.contains c) = true := by
    decide
  have hletters := List.all_eq_true.mp hall word hword
  simp only [Bool.and_eq_true, Bool.not_eq_true', List.isEmpty_eq_false_iff, List.all_eq_true,
    List.contains_eq_mem, decide_eq_false_iff_not] at hletters
  obtain ⟨hne, hplain⟩ := hletters
  refine ⟨hne, hplain, ?_⟩
  intro rest _
  have hquote : ∀ more, word.1.toList ++ rest ≠ '"' :: more := by
    intro more hmore
    cases hcs : word.1.toList with
    | nil => exact hne hcs
    | cons c cs =>
      rw [hcs, List.cons_append, List.cons.injEq] at hmore
      exact hplain c (hcs ▸ List.mem_cons_self ..) (hmore.1 ▸ by decide)
  rw [scalar]
  · simp only [find?_words_append hword rest, List.drop_left]
  · exact hquote

/-- No word begins with a digit, or with a minus sign and a digit. -/
theorem find?_words_of_isDigit {sign : List Char} (hsign : sign = [] ∨ sign = ['-'])
    (h : isDigit c = true) (cs : List Char) :
    (words.find? fun word => word.1.toList.isPrefixOf (sign ++ c :: cs)) = none := by
  have hfirst : ∀ w ∈ words, ∃ a b more, w.1.toList = a :: b :: more ∧ isDigit a = false ∧
      isDigit b = false := by
    intro w hw
    simp only [words, List.mem_cons, List.not_mem_nil, or_false] at hw
    rcases hw with rfl | rfl | rfl | rfl | rfl | rfl <;> exact ⟨_, _, _, rfl, by decide, by decide⟩
  rw [List.find?_eq_none]
  intro w hw hp
  obtain ⟨a, b, more, hletters, ha, hb⟩ := hfirst w hw
  rw [hletters, List.isPrefixOf_iff_prefix] at hp
  rcases hsign with rfl | rfl
  · obtain ⟨rfl, -⟩ := List.cons_prefix_cons.mp hp
    rw [ha] at h
    cases h
  · obtain ⟨-, hp⟩ := List.cons_prefix_cons.mp hp
    obtain ⟨rfl, -⟩ := List.cons_prefix_cons.mp hp
    rw [hb] at h
    cases h

/-- A number with its sign is read as a scalar. -/
theorem scalar_eq_unsignedNumber {sign : List Char} (h : isDigit c = true) (cs : List Char)
    (hsign : sign = [] ∨ sign = ['-']) :
    scalar (sign ++ c :: cs) = unsignedNumber (sign = ['-']) (c :: cs) := by
  have hne : ∀ d : Char, isDigit d = false → c ≠ d := by
    rintro d hd rfl
    rw [hd] at h
    cases h
  rw [scalar]
  · simp only [find?_words_of_isDigit hsign h]
    rcases hsign with rfl | rfl
    · rw [List.nil_append, number]
      · rfl
      · intro more hmore
        exact hne '-' (by decide) (List.cons.inj hmore).1
    · rfl
  · intro more hmore
    rcases hsign with rfl | rfl
    · exact hne '"' (by decide) (List.cons.inj hmore).1
    · exact absurd (List.cons.inj hmore).1 (by decide)

theorem bare_of_number {sign used : List Char} (hsign : sign = [] ∨ sign = ['-'])
    (hhead : ∃ d more, used = d :: more ∧ isDigit d = true)
    (hchars : ∀ c ∈ used, isNumberChar c = true)
    (h : ∀ rest, Ends rest → unsignedNumber (sign = ['-']) (used ++ rest) = .ok (v, rest)) :
    Bare v (sign ++ used) := by
  obtain ⟨d, more, rfl, hd⟩ := hhead
  refine ⟨by simp, ?_, ?_⟩
  · intro c hc
    refine not_mem_structural_of_isNumberChar ?_
    rcases List.mem_append.mp hc with hc | hc
    · rcases hsign with rfl | rfl
      · cases hc
      · cases List.mem_singleton.mp hc
        decide
    · exact hchars c hc
  · intro rest hrest
    rw [List.append_assoc, List.cons_append, scalar_eq_unsignedNumber hd _ hsign]
    exact h rest hrest

/-- A scalar that is no string ends where the delimiters begin. -/
theorem bare_of_scalar (hquote : ∀ more, cs ≠ '"' :: more) (h : scalar cs = .ok (v, rest)) :
    ∃ used, cs = used ++ rest ∧ Bare v used := by
  rw [scalar] at h
  · split at h
    · rename_i word hfind
      cases h
      have hprefix := List.find?_some hfind
      obtain ⟨more, rfl⟩ := List.isPrefixOf_iff_prefix.mp hprefix
      exact ⟨_, by rw [List.drop_left], bare_of_mem_words (List.mem_of_find?_eq_some hfind)⟩
    · unfold number at h
      split at h
      · obtain ⟨used, rfl, hhead, hchars, htakes⟩ := unsignedNumber_takes h
        exact ⟨_, rfl, bare_of_number (.inr rfl) hhead hchars htakes⟩
      · obtain ⟨used, rfl, hhead, hchars, htakes⟩ := unsignedNumber_takes h
        exact ⟨_, rfl, bare_of_number (.inl rfl) hhead hchars htakes⟩
  · exact hquote

/-! ### Scalars are no containers -/

/-- Whether a value holds other values. -/
def isContainer : Json → Bool
  | array _ => true
  | object _ => true
  | _ => false

theorem isContainer_of_numberOf {whole fraction exponent : List Char}
    (h : numberOf negative whole fraction exponent = .ok v) : v.isContainer = false := by
  unfold numberOf at h
  split at h
  · cases h
  · split at h
    · cases h
      rfl
    · split at h
      · cases h
      · cases h
        rfl

theorem isContainer_of_unsignedNumber (h : unsignedNumber negative cs = .ok (v, rest)) :
    v.isContainer = false := by
  obtain ⟨_, _, _, _, _, _, _, _, hnumber⟩ := parts_of_unsignedNumber h
  exact isContainer_of_numberOf hnumber

theorem isContainer_of_scalar (h : scalar cs = .ok (v, rest)) : v.isContainer = false := by
  unfold scalar at h
  split at h
  · rw [bind_eq_ok] at h
    obtain ⟨_, -, hok⟩ := h
    cases hok
    rfl
  · split at h
    · rename_i hfind
      cases h
      have hwords : ∀ w ∈ words, w.2.isContainer = false := by decide
      exact hwords _ (List.mem_of_find?_eq_some hfind)
    · unfold number at h
      split at h
      · exact isContainer_of_unsignedNumber h
      · exact isContainer_of_unsignedNumber h

theorem Bare.isContainer_eq_false (h : Bare v used) : v.isContainer = false :=
  isContainer_of_scalar (h.scalar_eq [] (by simp [Ends]))

end Json

end BuildDescriptor
