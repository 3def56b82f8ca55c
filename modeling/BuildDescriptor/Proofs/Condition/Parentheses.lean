import BuildDescriptor.Proofs.Condition.Derivation
import BuildDescriptor.Proofs.Condition.Lexing
import BuildDescriptor.Proofs.Condition.Substitution

/-!
# A condition in parentheses

Parentheses are put around a condition before its references are replaced, and a reference ends with
a parenthesis itself. So the one that is put behind a condition could complete a reference, where
the condition ends with `$(Configuration`. No condition does: it would leave a parenthesis open.

## Main definitions

* `Condition.ClosesAll` — a list of tokens that leaves no parenthesis open
* `Condition.openReference` — a reference without the parenthesis that ends it

## Main results

* `Condition.Derives.closesAll` — no phrase leaves a parenthesis open
* `Condition.substituteChars_append_closing` — replacing the references of a condition that is put
  in parentheses
-/

namespace BuildDescriptor

namespace Condition

variable {cs front : List Char} {ts us : List Token} {x : Token} {v : Variant}

/-! ### Open parentheses -/

/-- From every place on, a list of tokens closes as many parentheses as it opens, or more. -/
def ClosesAll : List Token → Prop
  | [] => True
  | x :: ts =>
    (x :: ts).count (.symbol .lparen) ≤ (x :: ts).count (.symbol .rparen) ∧ ClosesAll ts

theorem ClosesAll.count_le (h : ClosesAll ts) :
    ts.count (.symbol .lparen) ≤ ts.count (.symbol .rparen) := by
  cases ts with
  | nil => exact Nat.le_refl _
  | cons x ts => exact h.1

theorem ClosesAll.append (h : ClosesAll ts) (hus : ClosesAll us) : ClosesAll (ts ++ us) := by
  induction ts with
  | nil => exact hus
  | cons x ts ih =>
    refine ⟨?_, ih h.2⟩
    show ((x :: ts) ++ us).count (.symbol .lparen) ≤ ((x :: ts) ++ us).count (.symbol .rparen)
    rw [List.count_append, List.count_append]
    exact Nat.add_le_add h.1 hus.count_le

theorem ClosesAll.of_append (h : ClosesAll (ts ++ us)) : ClosesAll us := by
  induction ts with
  | nil => exact h
  | cons x ts ih => exact ih h.2

theorem closesAll_singleton (hx : x ≠ .symbol .lparen) : ClosesAll [x] := by
  refine ⟨?_, trivial⟩
  rw [List.count_cons_of_ne hx]
  exact Nat.zero_le _

theorem ClosesAll.cons (hx : x ≠ .symbol .lparen) (h : ClosesAll ts) : ClosesAll (x :: ts) :=
  (closesAll_singleton hx).append h

/-- What stands between parentheses may be closed by one more. -/
theorem ClosesAll.enclose (h : ClosesAll ts) :
    ClosesAll (.symbol .lparen :: (ts ++ [.symbol .rparen])) := by
  have hclosed : ClosesAll (ts ++ [.symbol .rparen]) := h.append (closesAll_singleton (by decide))
  refine ⟨?_, hclosed⟩
  have hle := h.count_le
  simp only [List.count_cons, List.count_append, List.count_nil, beq_self_eq_true, if_true,
    show (Token.symbol .lparen == Token.symbol .rparen) = false by decide,
    show (Token.symbol .rparen == Token.symbol .lparen) = false by decide, Bool.false_eq_true,
    if_false]
  omega

theorem closesAll_argumentTokens {args : List Argument} (h : ∀ a ∈ args, ClosesAll a.tokens) :
    ClosesAll (argumentTokens args) := by
  have hmore : ∀ args : List Argument, (∀ a ∈ args, ClosesAll a.tokens) →
      ClosesAll (args.flatMap fun a => .symbol .comma :: a.tokens) := by
    intro args hargs
    induction args with
    | nil => trivial
    | cons a args ih =>
      rw [List.flatMap_cons]
      exact ((hargs a (List.mem_cons_self ..)).cons (by decide)).append
        (ih fun b hb => hargs b (List.mem_cons_of_mem _ hb))
  cases args with
  | nil => trivial
  | cons a args =>
    exact (h a (List.mem_cons_self ..)).append
      (hmore args fun b hb => h b (List.mem_cons_of_mem _ hb))

/-- **No phrase leaves a parenthesis open.** -/
theorem Derives.closesAll {s : Stratum} {d : Nat} {t : Node} (h : Derives s d ts t) :
    ClosesAll ts := by
  induction h with
  | tight _ ih => exact ih
  | @binary s op _ _ _ _ _ _ hop _ _ iht ihu =>
    have hne : Token.symbol op ≠ .symbol .lparen := by
      rintro ⟨⟩
      cases s <;> exact absurd hop (by decide)
    exact iht.append (ihu.cons hne)
  | negation _ ih => exact ih.cons (by decide)
  | parentheses _ ih => exact ih.enclose
  | quoted text => exact closesAll_singleton (by simp)
  | name text => exact closesAll_singleton (by simp)
  | call name args _ ih => exact (closesAll_argumentTokens ih).enclose.cons (by simp)

/-! ### References that are not complete -/

/-- A reference without the parenthesis that ends it. -/
def openReference (a : Axis) : List Char := a.reference.toList.dropLast

theorem reference_eq_append (a : Axis) : a.reference.toList = openReference a ++ [')'] := by
  cases a <;> rfl

theorem substituteChars_openReference (a : Axis) :
    substituteChars v (openReference a) = openReference a := by
  refine substituteChars_eq_self fun b hb => ?_
  have hmem : ')' ∈ b.reference.toList := by cases b <;> decide
  have hnot : ')' ∉ openReference a := by cases a <;> decide
  exact hnot (hb.subset hmem)

/-- A parenthesis behind a text is left as it is, unless it completes a reference that the text ends
with. -/
theorem substituteChars_append_rparen (cs : List Char) :
    substituteChars v (cs ++ [')']) = substituteChars v cs ++ [')'] ∨
      ∃ front a, substituteChars v cs = front ++ openReference a := by
  induction hn : cs.length using Nat.strongRecOn generalizing cs with
  | ind n ih =>
    cases cs with
    | nil =>
      left
      have hnone : reference? [')'] = none := reference?_eq_none_of_ne (by decide)
      rw [List.nil_append, substituteChars_cons hnone, substituteChars_nil]
      rfl
    | cons c cs =>
      cases href : reference? (c :: cs ++ [')']) with
      | some r =>
        obtain ⟨a, rest⟩ := r
        have heq := eq_append_of_reference? href
        obtain rfl | ⟨more, d, rfl⟩ := List.eq_nil_or_concat rest
        · -- the parenthesis completes the reference
          rw [reference_eq_append, List.append_nil] at heq
          right
          refine ⟨[], a, ?_⟩
          rw [List.append_inj_left' heq rfl, substituteChars_openReference, List.nil_append]
        · rw [List.concat_eq_append, ← List.append_assoc] at heq
          obtain ⟨hcs, hd⟩ := List.append_inj' heq rfl
          obtain rfl : ')' = d := by simpa using hd
          have hlt : more.length < n := by
            rw [← hn, hcs, List.length_append]
            cases a <;> simp [Axis.reference]
          rw [substituteChars_of_reference? href, hcs, substituteChars_reference,
            List.concat_eq_append]
          rcases ih more.length hlt more rfl with hmore | ⟨front, b, hfront⟩
          · exact .inl (by rw [hmore, List.append_assoc])
          · exact .inr ⟨(v.value a).toList ++ front, b, by rw [hfront, List.append_assoc]⟩
      | none =>
        have hnone : reference? (c :: cs) = none := by
          rw [reference?_eq_none_iff] at href ⊢
          exact fun a ha => href a (ha.trans (List.prefix_append ..))
        have hlt : cs.length < n := by rw [← hn]; exact Nat.lt_succ_self _
        rw [List.cons_append] at href ⊢
        rw [substituteChars_cons href, substituteChars_cons hnone]
        rcases ih cs.length hlt cs rfl with hmore | ⟨front, b, hfront⟩
        · exact .inl (by rw [hmore, List.cons_append])
        · exact .inr ⟨c :: front, b, by rw [hfront, List.cons_append]⟩

theorem word_ne_rparen (cs : List Char) : word cs ≠ .symbol .rparen := by
  unfold word
  simp only
  split_ifs <;> simp

/-- A text that ends with such a reference leaves a parenthesis open. -/
theorem not_closesAll_of_openReference {a : Axis} (h : Lexed (front ++ openReference a) ts) :
    ¬ ClosesAll ts := by
  obtain ⟨name, hname, hplain, hlexeme⟩ : ∃ name, openReference a = '$' :: '(' :: name ∧
      ('\'' ∉ '(' :: name ∧ '"' ∉ '(' :: name) ∧ lexeme name = some (word name, []) := by
    cases a
    · exact ⟨"Configuration".toList, rfl, by decide, rfl⟩
    · exact ⟨"Platform".toList, rfl, by decide, rfl⟩
  have hcut : front ++ openReference a = (front ++ ['$']) ++ '(' :: name := by
    rw [hname, List.append_assoc]
    rfl
  rw [hcut] at h
  obtain ⟨before, back, rfl, hback⟩ := h.of_append ⟨by decide, by decide⟩ (by decide) hplain
  have htokens : Lexed ('(' :: name) [.symbol .lparen, word name] :=
    .cons (.cons (.done blanks_nil) hlexeme) rfl
  rw [hback.unique htokens]
  intro hcloses
  have hcount := hcloses.of_append.count_le
  have hnone : [Token.symbol .lparen, word name].count (.symbol .rparen) = 0 :=
    List.count_eq_zero.mpr (by simp [(word_ne_rparen name).symm])
  rw [List.count_cons_self, hnone] at hcount
  omega

/-- **A condition in parentheses.** If a text is a condition once its references are replaced, then
the parenthesis behind it is left as it is. -/
theorem substituteChars_append_closing {t : Node}
    (h : parse (String.ofList (substituteChars v cs)) = .ok t) :
    substituteChars v (cs ++ [')']) = substituteChars v cs ++ [')'] := by
  rcases substituteChars_append_rparen cs with hsplit | ⟨front, a, hopen⟩
  · exact hsplit
  · rw [hopen, parse, bind_eq_ok] at h
    obtain ⟨ts, hts, ht⟩ := h
    rw [tokenize_eq_ok_iff, String.toList_ofList] at hts
    obtain ⟨d, -, hd⟩ := parseTokens_eq_ok_iff.mp ht
    exact absurd hd.closesAll (not_closesAll_of_openReference hts)

end Condition

end BuildDescriptor
