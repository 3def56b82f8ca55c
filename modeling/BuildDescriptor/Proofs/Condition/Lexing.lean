import BuildDescriptor.Proofs.Bind
import BuildDescriptor.Condition.Token
import Mathlib.Data.List.TakeWhile

/-!
# The lexemes of a text, piece by piece

A text has its lexemes with blanks between them. Stated as a relation, that makes no mention of the
length of the text, which the reader carries for the sake of its errors, and two texts can be put
one after the other.

For that the second one has to begin with a character that ends any lexeme: one that is part of no
name and does not make an operator longer. A blank will do, and so will a parenthesis. The reverse
holds too, as long as no string is open at the cut: behind such a character the lexemes begin anew.

## Main definitions

* `Condition.Blanks` — nothing but blanks
* `Condition.Lexed` — a text and its lexemes
* `Condition.IsBoundary` — a character that ends any lexeme in front of it

## Main results

* `Condition.tokensOf_eq_ok_iff`, `Condition.tokenize_eq_ok_iff` — reading the lexemes
* `Condition.lexeme_append_cons` — one lexeme in a longer text
* `Condition.Lexed.append` — two texts one after the other
* `Condition.Lexed.of_append` — the lexemes behind a cut
-/

namespace BuildDescriptor

namespace Condition

variable {total : Nat} {blanks cs ds pre rest : List Char} {c x quote : Char} {t : Token}
  {ts us : List Token}

/-! ### One lexeme -/

/-- The first characters of the operators of two. -/
def IsLead (x : Char) : Prop := x = '=' ∨ x = '!' ∨ x = '<' ∨ x = '>'

/-- A lexeme that is no operator of two characters is settled by its first one. -/
theorem lexeme_cons (h : IsLead x → cs.head? ≠ some '=') :
    lexeme (x :: cs) =
      if x = '\'' || x = '"' then quotedFrom x cs
      else if x = '<' then some (.symbol .lt, cs)
      else if x = '>' then some (.symbol .gt, cs)
      else if x = '!' then some (.symbol .bang, cs)
      else if x = '(' then some (.symbol .lparen, cs)
      else if x = ')' then some (.symbol .rparen, cs)
      else if x = ',' then some (.symbol .comma, cs)
      else if isNameChar x then some (word (x :: cs.takeWhile isNameChar), cs.dropWhile isNameChar)
      else none := by
  rw [lexeme]
  · rintro tail rfl rfl
    exact h (.inl rfl) rfl
  · rintro tail rfl rfl
    exact h (.inr (.inl rfl)) rfl
  · rintro tail rfl rfl
    exact h (.inr (.inr (.inl rfl))) rfl
  · rintro tail rfl rfl
    exact h (.inr (.inr (.inr rfl))) rfl

/-- What begins with a character of no string and of no operator is a word. -/
theorem lexeme_of_not_special (h : isSpecial x = false) :
    lexeme (x :: cs) =
      if isNameChar x then some (word (x :: cs.takeWhile isNameChar), cs.dropWhile isNameChar)
      else none := by
  have hne : ∀ d : Char, isSpecial d = true → x ≠ d := by
    rintro d hd rfl
    rw [h] at hd
    cases hd
  rw [lexeme_cons]
  · simp [hne '\'' (by decide), hne '"' (by decide), hne '<' (by decide), hne '>' (by decide),
      hne '!' (by decide), hne '(' (by decide), hne ')' (by decide), hne ',' (by decide)]
  · rintro (rfl | rfl | rfl | rfl) <;> cases h

/-- A text of nothing but characters of names is one word. -/
theorem lexeme_word (hne : cs ≠ []) (h : ∀ d ∈ cs, isNameChar d = true) :
    lexeme cs = some (word cs, []) := by
  cases cs with
  | nil => exact absurd rfl hne
  | cons x cs =>
    have hx : isNameChar x = true := h x (List.mem_cons_self ..)
    have hcs : ∀ d ∈ cs, isNameChar d = true := fun d hd => h d (List.mem_cons_of_mem _ hd)
    have hspecial : isSpecial x = false := by
      rw [isNameChar, Bool.and_eq_true] at hx
      simpa using hx.2
    rw [lexeme_of_not_special hspecial, if_pos hx, List.takeWhile_eq_self_iff.mpr hcs,
      List.dropWhile_eq_nil_iff.mpr hcs]

/-! ### Blanks -/

/-- Nothing but blanks. -/
def Blanks (cs : List Char) : Prop := ∀ c ∈ cs, Text.isBlank c = true

theorem blanks_nil : Blanks [] := by
  intro c hc
  cases hc

theorem dropWhile_blanks_append (h : Blanks blanks) (cs : List Char) :
    (blanks ++ cs).dropWhile Text.isBlank = cs.dropWhile Text.isBlank :=
  List.dropWhile_append_of_pos h

/-- No lexeme begins with a blank. -/
theorem lexeme_blank (hx : Text.isBlank x = true) (cs : List Char) : lexeme (x :: cs) = none := by
  have hspecial : isSpecial x = false := by
    by_contra h
    simp only [isSpecial, Bool.not_eq_false, Bool.or_eq_true, beq_iff_eq, or_assoc] at h
    rcases h with rfl | rfl | rfl | rfl | rfl | rfl | rfl | rfl | rfl <;>
      exact absurd hx (by decide)
  have hname : isNameChar x = false := by simp [isNameChar, hx]
  rw [lexeme_of_not_special hspecial, hname]
  rfl

/-- Blanks at the end of a text are no lexemes. -/
theorem tokensOf_blanks (h : Blanks cs) : tokensOf total cs = .ok [] := by
  rw [tokensOf, if_pos (List.all_eq_true.mpr h)]

/-- Blanks in front of a lexeme are passed over. -/
theorem tokensOf_lexeme (h : Blanks blanks) (hlexeme : lexeme cs = some (t, rest)) :
    tokensOf total (blanks ++ cs) = (do
      let ts ← tokensOf total rest
      return t :: ts) := by
  cases cs with
  | nil => cases hlexeme
  | cons c cs =>
    have hc : Text.isBlank c = false := by
      by_contra hc
      rw [lexeme_blank (by simpa using hc)] at hlexeme
      cases hlexeme
    have hall : ¬ (blanks ++ c :: cs).all Text.isBlank = true := by simp [hc]
    have hdrop : (blanks ++ c :: cs).dropWhile Text.isBlank = c :: cs := by
      rw [dropWhile_blanks_append h, List.dropWhile_cons_of_neg (by simp [hc])]
    rw [tokensOf, if_neg hall]
    split
    · rename_i hnone
      rw [hdrop, hlexeme] at hnone
      cases hnone
    · rename_i t' rest' hsome
      rw [hdrop, hlexeme] at hsome
      cases hsome
      rfl

/-! ### Texts and lexemes -/

/-- A text and its lexemes, which may have blanks in front of them and behind. -/
inductive Lexed : List Char → List Token → Prop
  | done {cs : List Char} (h : Blanks cs) : Lexed cs []
  | next {blanks cs rest : List Char} {t : Token} {ts : List Token} (h : Blanks blanks)
      (hlexeme : lexeme cs = some (t, rest)) (hmore : Lexed rest ts) :
      Lexed (blanks ++ cs) (t :: ts)

theorem lexed_of_tokensOf (h : tokensOf total cs = .ok ts) : Lexed cs ts := by
  fun_induction tokensOf total cs generalizing ts with
  | case1 cs hblanks =>
    cases h
    exact .done (List.all_eq_true.mp hblanks)
  | case2 => cases h
  | case3 cs _ t rest hlexeme ih =>
    rw [bind_eq_ok] at h
    obtain ⟨more, hmore, hok⟩ := h
    cases hok
    rw [← List.takeWhile_append_dropWhile (p := Text.isBlank) (l := cs)]
    exact .next (fun c hc => List.mem_takeWhile_imp hc) hlexeme (ih hmore)

theorem Lexed.tokensOf_eq (h : Lexed cs ts) (total : Nat) : tokensOf total cs = .ok ts := by
  induction h with
  | done h => exact tokensOf_blanks h
  | next h hlexeme _ ih =>
    rw [tokensOf_lexeme h hlexeme, ih]
    rfl

theorem tokensOf_eq_ok_iff : tokensOf total cs = .ok ts ↔ Lexed cs ts :=
  ⟨lexed_of_tokensOf, fun h => h.tokensOf_eq total⟩

theorem tokenize_eq_ok_iff {text : String} : tokenize text = .ok ts ↔ Lexed text.toList ts :=
  tokensOf_eq_ok_iff

theorem Lexed.unique (h : Lexed cs ts) (h' : Lexed cs us) : ts = us := by
  have heq := h.tokensOf_eq 0
  rw [h'.tokensOf_eq 0] at heq
  exact (Except.ok.inj heq).symm

theorem Lexed.blanks_append (h : Lexed cs ts) (hblanks : Blanks blanks) :
    Lexed (blanks ++ cs) ts := by
  have hboth : ∀ {more : List Char}, Blanks more → Blanks (blanks ++ more) := by
    intro more hmore c hc
    rcases List.mem_append.mp hc with hc | hc
    · exact hblanks c hc
    · exact hmore c hc
  cases h with
  | done h => exact .done (hboth h)
  | next h hlexeme hmore =>
    rw [← List.append_assoc]
    exact .next (hboth h) hlexeme hmore

theorem Lexed.cons (h : Lexed rest ts) (hlexeme : lexeme cs = some (t, rest)) :
    Lexed cs (t :: ts) :=
  .next blanks_nil hlexeme h

/-! ### Strings -/

theorem quotedFrom_append_quote (h : quote ∉ pre) (rest : List Char) :
    quotedFrom quote (pre ++ quote :: rest) =
      some (.quoted (String.ofList (quote :: pre ++ [quote])), rest) := by
  have hne : ∀ c ∈ pre, decide (c ≠ quote) = true := by
    intro c hc
    rw [decide_eq_true_eq]
    rintro rfl
    exact h hc
  have hdrop : (pre ++ quote :: rest).dropWhile (fun c => decide (c ≠ quote)) = quote :: rest := by
    rw [List.dropWhile_append_of_pos hne]
    simp
  have htake : (pre ++ quote :: rest).takeWhile (fun c => decide (c ≠ quote)) = pre := by
    rw [List.takeWhile_append_of_pos hne]
    simp
  rw [quotedFrom, hdrop, htake]

theorem quotedFrom_eq_none (h : quote ∉ cs) : quotedFrom quote cs = none := by
  have hdrop : cs.dropWhile (fun c => decide (c ≠ quote)) = [] := by
    rw [List.dropWhile_eq_nil_iff]
    intro c hc
    rw [decide_eq_true_eq]
    rintro rfl
    exact h hc
  rw [quotedFrom, hdrop]

theorem mem_of_quotedFrom {r : Token × List Char} (h : quotedFrom quote cs = some r) :
    quote ∈ cs := by
  by_contra hnot
  rw [quotedFrom_eq_none hnot] at h
  cases h

/-- A string that is closed in front of a cut, or not at all. -/
theorem quotedFrom_append (h : quote ∈ cs ∨ quote ∉ ds) :
    quotedFrom quote (cs ++ ds) = (quotedFrom quote cs).map fun r => (r.1, r.2 ++ ds) := by
  by_cases hmem : quote ∈ cs
  · obtain ⟨pre, rest, rfl, hpre⟩ := List.eq_append_cons_of_mem hmem
    rw [List.append_assoc, List.cons_append, quotedFrom_append_quote hpre,
      quotedFrom_append_quote hpre]
    rfl
  · rw [quotedFrom_eq_none hmem, quotedFrom_eq_none]
    · rfl
    · rw [List.mem_append, not_or]
      exact ⟨hmem, h.resolve_left hmem⟩

/-! ### Cuts -/

/-- A character that ends any lexeme in front of it. -/
def IsBoundary (c : Char) : Prop := isNameChar c = false ∧ c ≠ '='

theorem takeWhile_append_cons {p : Char → Bool} (hc : p c = false) (cs ds : List Char) :
    (cs ++ c :: ds).takeWhile p = cs.takeWhile p := by
  induction cs with
  | nil => simp [hc]
  | cons d cs ih => cases hd : p d <;> simp [hd, ih]

theorem dropWhile_append_cons {p : Char → Bool} (hc : p c = false) (cs ds : List Char) :
    (cs ++ c :: ds).dropWhile p = cs.dropWhile p ++ c :: ds := by
  induction cs with
  | nil => simp [hc]
  | cons d cs ih => cases hd : p d <;> simp [hd, ih]

/-- **One lexeme in a longer text.** The lexeme in front of a cut stays as it is; a string has to be
closed in front of the cut, or not behind it either. -/
theorem lexeme_append_cons (hc : IsBoundary c)
    (hquote : x = '\'' ∨ x = '"' → x ∈ cs ∨ x ∉ c :: ds) :
    lexeme (x :: (cs ++ c :: ds)) = (lexeme (x :: cs)).map fun r => (r.1, r.2 ++ c :: ds) := by
  by_cases hpair : IsLead x ∧ cs.head? = some '='
  · obtain ⟨hlead, hhead⟩ := hpair
    obtain ⟨tail, rfl⟩ := List.head?_eq_some_iff.mp hhead
    rcases hlead with rfl | rfl | rfl | rfl <;> rfl
  · have hhead : IsLead x → cs.head? ≠ some '=' := fun hlead hhead => hpair ⟨hlead, hhead⟩
    have hhead' : IsLead x → (cs ++ c :: ds).head? ≠ some '=' := by
      intro hlead
      cases cs with
      | nil => simpa using hc.2
      | cons d cs => exact hhead hlead
    rw [lexeme_cons hhead, lexeme_cons hhead', takeWhile_append_cons hc.1,
      dropWhile_append_cons hc.1]
    by_cases hx : x = '\'' ∨ x = '"'
    · have hx' : (decide (x = '\'') || decide (x = '"')) = true := by simpa using hx
      rw [if_pos hx', if_pos hx', quotedFrom_append (hquote hx)]
    · have hx' : ¬ (decide (x = '\'') || decide (x = '"')) = true := by simpa using hx
      rw [if_neg hx', if_neg hx']
      simp only [apply_ite (Option.map fun r : Token × List Char => (r.1, r.2 ++ c :: ds)),
        Option.map_some, Option.map_none]

/-- A lexeme is read in the same way in front of a cut. -/
theorem lexeme_append (hc : IsBoundary c) (h : lexeme cs = some (t, rest)) (ds : List Char) :
    lexeme (cs ++ c :: ds) = some (t, rest ++ c :: ds) := by
  cases cs with
  | nil => cases h
  | cons x cs =>
    rw [List.cons_append, lexeme_append_cons hc, h]
    · rfl
    · intro hx
      have hread : lexeme (x :: cs) = quotedFrom x cs := by
        rw [lexeme_cons, if_pos (by simpa using hx)]
        rintro (rfl | rfl | rfl | rfl) <;> exact absurd hx (by decide)
      rw [hread] at h
      exact .inl (mem_of_quotedFrom h)

/-- **Two texts one after the other.** By induction on the lexemes of the first one. -/
theorem Lexed.append (h : Lexed cs ts) (hc : IsBoundary c) (hmore : Lexed (c :: ds) us) :
    Lexed (cs ++ c :: ds) (ts ++ us) := by
  induction h with
  | done h => exact hmore.blanks_append h
  | next h hlexeme _ ih =>
    rw [List.append_assoc]
    exact .next h (lexeme_append hc hlexeme ds) ih

/-- **The lexemes behind a cut.** Where no string is open, they begin anew. -/
theorem Lexed.of_append (h : Lexed (cs ++ c :: ds) ts) (hc : IsBoundary c)
    (hblank : Text.isBlank c = false) (hquote : '\'' ∉ c :: ds ∧ '"' ∉ c :: ds) :
    ∃ front back, ts = front ++ back ∧ Lexed (c :: ds) back := by
  generalize htext : cs ++ c :: ds = text at h
  induction h generalizing cs with
  | @done text h =>
    have hmem : c ∈ text := by simp [← htext]
    rw [h c hmem] at hblank
    cases hblank
  | @next blanks text rest t ts h hlexeme hmore ih =>
    rcases List.append_eq_append_iff.mp htext with ⟨more, rfl, hcut⟩ | ⟨more, rfl, hcut⟩
    · -- the blanks reach up to the cut, and not across it
      cases more with
      | nil =>
        rw [List.nil_append] at hcut
        exact ⟨[], t :: ts, rfl, by rw [hcut]; exact hmore.cons hlexeme⟩
      | cons d more =>
        obtain ⟨rfl, -⟩ := List.cons.inj hcut
        rw [h c (List.mem_append_right _ (List.mem_cons_self ..))] at hblank
        cases hblank
    · cases more with
      | nil =>
        rw [List.nil_append] at hcut
        exact ⟨[], t :: ts, rfl, by rw [← hcut]; exact hmore.cons hlexeme⟩
      | cons x more =>
        -- the lexeme begins in front of the cut, so it ends there
        rw [hcut, List.cons_append, lexeme_append_cons hc] at hlexeme
        · obtain ⟨⟨t', rest'⟩, -, heq⟩ := Option.map_eq_some_iff.mp hlexeme
          simp only [Prod.mk.injEq] at heq
          obtain ⟨rfl, hrest⟩ := heq
          obtain ⟨front, back, rfl, hback⟩ := ih hrest
          exact ⟨t' :: front, back, rfl, hback⟩
        · rintro (rfl | rfl)
          · exact .inr hquote.1
          · exact .inr hquote.2

end Condition

end BuildDescriptor
