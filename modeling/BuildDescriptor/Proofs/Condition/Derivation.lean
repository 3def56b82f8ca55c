import BuildDescriptor.Condition.Truth
import BuildDescriptor.Proofs.Bind
import BuildDescriptor.Proofs.Condition.Grammar

/-!
# The parser decides the grammar

`parseTokens` climbs through operators by their strength, and counts down the levels that are left.
Neither is mentioned by `Derives`. Here both are shown to come to the same: a list of tokens has a
tree if and only if the grammar derives one from it in at most `maxNesting` levels.

## The loop and the strata

The loop holds a left operand and looks at the next operator. What makes it right is a relation
between the two: the operand is a phrase of some stratum `k`, and the operator is no stronger than
the operators of `k`. So the operand never has to be taken apart again. It holds at the start,
because an operand binds more tightly than any operator, and a round keeps it, because the right
operand is read up to an operator that is no stronger than the one in front of it.

In the other direction a phrase is read within a longer list of tokens, and a loop that runs on
behind it may have been started for a looser stratum. So the statement for a phrase is not that it
is read, but that reading it leads to the loop with the phrase as its left operand (`ClimbsTo`).

## Main results

* `Condition.derives_of_expression`, `Condition.derives_of_operandAt` — what is taken is derived
* `Condition.takes_of_derives` — what is derived is taken
* `Condition.parseTokens_eq_ok_iff`, `Condition.Derives.tree_unique`
* `Condition.parsing_decides_derivability` — all of it in one statement
-/

namespace BuildDescriptor

namespace Condition

/-! ### What comes next -/

/-- No binary operator that binds more strongly than `n` comes first. -/
def NoStronger (n : Nat) (ts : List Token) : Prop :=
  ∀ op rest m, ts = .symbol op :: rest → op.strength? = some m → m ≤ n

theorem NoStronger.mono {n m : Nat} {ts : List Token} (h : NoStronger n ts) (hle : n ≤ m) :
    NoStronger m ts := by
  intro op rest k hts hk
  have := h op rest k hts hk
  omega

theorem noStronger_three (ts : List Token) : NoStronger 3 ts := by
  intro op rest m _ hm
  exact Symbol.strength?_le hm

theorem noStronger_nil (n : Nat) : NoStronger n [] := by
  intro op rest m h
  cases h

theorem noStronger_symbol {op : Symbol} {m n : Nat} {ts : List Token}
    (h : op.strength? = some m) (hle : m ≤ n) : NoStronger n (.symbol op :: ts) := by
  intro op' rest m' hts hm'
  obtain ⟨rfl, -⟩ : op = op' ∧ ts = rest := by simpa using hts
  rw [h] at hm'
  have : m = m' := Option.some.inj hm'
  omega

theorem noStronger_of_strength?_eq_none {op : Symbol} {n : Nat} {ts : List Token}
    (h : op.strength? = none) : NoStronger n (.symbol op :: ts) := by
  intro op' rest m hts hm
  obtain ⟨rfl, -⟩ : op = op' ∧ ts = rest := by simpa using hts
  rw [h] at hm
  cases hm

theorem noStronger_or (n : Nat) (ts : List Token) :
    NoStronger n ts ∨ ∃ op rest m, ts = .symbol op :: rest ∧ op.strength? = some m ∧ n < m := by
  by_cases h : ∃ op rest m, ts = .symbol op :: rest ∧ op.strength? = some m ∧ n < m
  · exact .inr h
  · exact .inl fun op rest m hts hm => Nat.le_of_not_lt fun hlt => h ⟨op, rest, m, hts, hm, hlt⟩

/-! ### The loop over binary operators -/

section Climb

variable {least rounds n : Nat} {right : (n : Nat) → least < n → n ≤ 3 → Parse Node}
  {left : Node} {op : Symbol} {ts rest : List Token}

theorem climb_of_noStronger (h : NoStronger least ts) :
    climb least right rounds left ts = .ok (left, ts) := by
  unfold climb
  split
  · rfl
  · split
    · rfl
    · rename_i s ts n hs
      rw [dif_neg (Nat.not_lt.mpr (h s ts n rfl hs))]
  · rfl

theorem climb_symbol (hop : op.strength? = some n) (hlt : least < n) :
    climb least right (rounds + 1) left (.symbol op :: ts) = (do
      let (node, rest) ← right n hlt (Symbol.strength?_le hop) ts
      climb least right rounds (.mk op.text [left, node]) rest) := by
  rw [climb]
  split
  · rename_i hnone
    rw [hop] at hnone
    cases hnone
  · rename_i m hm
    obtain rfl : n = m := Option.some.inj (hop.symm.trans hm)
    rw [dif_pos hlt]

end Climb

/-! ### What the parser takes is derived -/

section Soundness

variable {levels : Nat} {t : Node} {ts rest : List Token}

/-- Whatever a parser takes off the front of a list of tokens is a phrase of stratum `s`, with at
most so many levels. -/
def TakesPhrases (s : Stratum) (levels : Nat) (p : Parse Node) : Prop :=
  ∀ ts t rest, p ts = .ok (t, rest) →
    ∃ d used, d ≤ levels ∧ ts = used ++ rest ∧ Derives s d used t

/-- The loop takes the rest of a phrase whose front is its left operand. That operand is of some
stratum `k`; the tokens in front of the loop hold no operator that would have to bind inside it. -/
theorem derives_of_climb {s : Stratum}
    {right : (n : Nat) → s.least < n → n ≤ 3 → Parse Node}
    (hright : ∀ (k : Stratum) (hlt : s.least < k.least) (hle : k.least ≤ 3),
      TakesPhrases k levels (right k.least hlt hle) ∧
        ∀ ts t rest, right k.least hlt hle ts = .ok (t, rest) → NoStronger k.least rest) :
    ∀ (rounds : Nat) (left : Node) (ts : List Token) (k : Stratum) (d : Nat) (front : List Token),
      ts.length ≤ rounds → s.least ≤ k.least → NoStronger (k.least + 1) ts → d ≤ levels →
      Derives k d front left → climb s.least right rounds left ts = .ok (t, rest) →
      NoStronger s.least rest ∧
        ∃ e used, e ≤ levels ∧ ts = used ++ rest ∧ Derives s e (front ++ used) t := by
  intro rounds
  induction rounds with
  | zero =>
    intro left ts k d front hlen hk hnext hd hleft h
    obtain rfl : ts = [] := List.length_eq_zero_iff.mp (Nat.le_zero.mp hlen)
    obtain ⟨rfl, rfl⟩ : left = t ∧ [] = rest := by simpa [climb] using h
    exact ⟨noStronger_nil _, d, [], hd, rfl, by simpa using hleft.loosen hk⟩
  | succ rounds ih =>
    intro left ts k d front hlen hk hnext hd hleft h
    rcases noStronger_or s.least ts with hstop | ⟨op, ts, n, rfl, hop, hlt⟩
    · rw [climb_of_noStronger hstop] at h
      obtain ⟨rfl, rfl⟩ : left = t ∧ ts = rest := by simpa using h
      exact ⟨hstop, d, [], hd, rfl, by simpa using hleft.loosen hk⟩
    · rw [climb_symbol hop hlt, bind_eq_ok] at h
      obtain ⟨⟨node, more⟩, hnode, h⟩ := h
      -- the operator is one of stratum `j`, whose right operands are of the next stratum
      obtain ⟨j, hj, rfl⟩ := Stratum.exists_mem_operators hop
      have htight : j.tighter.least = j.least + 1 := Stratum.least_tighter hj
      have hjk : j.least ≤ k.least := by
        have := hnext op ts (j.least + 1) rfl hop
        omega
      simp only [← htight] at hnode
      obtain ⟨htakes, hfollow⟩ := hright j.tighter (by omega) (Stratum.least_le _)
      obtain ⟨e, used, he, rfl, hused⟩ := htakes _ _ _ hnode
      have hmore : NoStronger (j.least + 1) more := htight ▸ hfollow _ _ _ hnode
      obtain ⟨hrest, e', used', he', rfl, hused'⟩ :=
        ih (.mk op.text [left, node]) more j (max d e) (front ++ .symbol op :: used)
          (by simp only [List.length_cons, List.length_append] at hlen; omega) (by omega)
          hmore (Nat.max_le.mpr ⟨hd, he⟩) (.binary hj (hleft.loosen hjk) hused) h
      exact ⟨hrest, e', .symbol op :: (used ++ used'), he', by simp, by simpa using hused'⟩

/-- An expression is a phrase of the stratum it is asked for, and it is complete: no operator that
could go on with it is left. -/
theorem derives_of_expression {atom : Parse Node} (hatom : TakesPhrases .unary levels atom)
    (s : Stratum) :
    TakesPhrases s levels (expression atom s.least) ∧
      ∀ ts t rest, expression atom s.least ts = .ok (t, rest) → NoStronger s.least rest := by
  -- the recursion is on stronger operators
  induction hm : 3 - s.least using Nat.strongRecOn generalizing s with
  | ind m ih =>
    have hboth : ∀ ts t rest, expression atom s.least ts = .ok (t, rest) →
        NoStronger s.least rest ∧
          ∃ d used, d ≤ levels ∧ ts = used ++ rest ∧ Derives s d used t := by
      intro ts t rest h
      rw [expression, bind_eq_ok] at h
      obtain ⟨⟨left, more⟩, hleft, h⟩ := h
      obtain ⟨d, front, hd, rfl, hfront⟩ := hatom _ _ _ hleft
      obtain ⟨hrest, e, used, he, rfl, hused⟩ :=
        derives_of_climb (fun k hlt hle => ih (3 - k.least) (by omega) k rfl) more.length left more
          .unary d front (Nat.le_refl _) s.least_le ((noStronger_three more).mono (by decide)) hd
          hfront h
      exact ⟨hrest, e, front ++ used, he, by simp, hused⟩
    exact ⟨fun ts t rest h => (hboth ts t rest h).2, fun ts t rest h => (hboth ts t rest h).1⟩

theorem closing_eq_ok (h : closing ts = .ok ((), rest)) : ts = .symbol .rparen :: rest := by
  unfold closing at h
  split at h
  · simpa using h
  · cases h
  · cases h

/-- Arguments that the grammar derives within so many levels. -/
def DerivesAll (levels : Nat) (args : List Argument) : Prop :=
  ∀ a ∈ args, a.levels ≤ levels ∧ Derives .disjunction a.levels a.tokens a.tree

theorem derivesAll_cons {a : Argument} {args : List Argument} (ha : a.levels ≤ levels)
    (h : Derives .disjunction a.levels a.tokens a.tree) (hargs : DerivesAll levels args) :
    DerivesAll levels (a :: args) := by
  intro b hb
  rcases List.mem_cons.mp hb with rfl | hb
  · exact ⟨ha, h⟩
  · exact hargs b hb

theorem derives_of_moreArguments {atom : Parse Node}
    (hexpr : TakesPhrases .disjunction levels (expression atom 0)) :
    ∀ (rounds : Nat) (ts : List Token) (trees : List Node) (rest : List Token),
      moreArguments atom rounds ts = .ok (trees, rest) →
      ∃ args, DerivesAll levels args ∧
        ts = (args.flatMap fun b => .symbol .comma :: b.tokens) ++ rest ∧
        trees = args.map (·.tree) := by
  intro rounds
  induction rounds with
  | zero =>
    intro ts trees rest h
    obtain ⟨rfl, rfl⟩ : [] = trees ∧ ts = rest := by simpa [moreArguments] using h
    exact ⟨[], by simp [DerivesAll], rfl, rfl⟩
  | succ rounds ih =>
    intro ts trees rest h
    unfold moreArguments at h
    split at h
    · rename_i ts heq
      cases heq
      rw [bind_eq_ok] at h
      obtain ⟨⟨tree, more⟩, htree, h⟩ := h
      rw [bind_eq_ok] at h
      obtain ⟨⟨others, final⟩, hothers, h⟩ := h
      obtain ⟨rfl, rfl⟩ : tree :: others = trees ∧ final = rest := by
        simpa [pure, Except.pure] using h
      obtain ⟨d, used, hd, rfl, hused⟩ := hexpr _ _ _ htree
      obtain ⟨args, hargs, rfl, rfl⟩ := ih _ _ _ hothers
      exact ⟨⟨d, used, tree⟩ :: args, derivesAll_cons hd hused hargs, by simp, rfl⟩
    · obtain ⟨rfl, rfl⟩ : [] = trees ∧ _ = rest := by simpa using h
      exact ⟨[], by simp [DerivesAll], rfl, rfl⟩

theorem derives_of_callArguments {atom : Parse Node}
    (hexpr : TakesPhrases .disjunction levels (expression atom 0)) {trees : List Node}
    (h : callArguments atom ts = .ok (trees, rest)) :
    ∃ args, DerivesAll levels args ∧ ts = argumentTokens args ++ rest ∧
      trees = args.map (·.tree) := by
  unfold callArguments at h
  split at h
  · obtain ⟨rfl, rfl⟩ : [] = trees ∧ _ = rest := by simpa using h
    exact ⟨[], by simp [DerivesAll], rfl, rfl⟩
  · rw [bind_eq_ok] at h
    obtain ⟨⟨tree, more⟩, htree, h⟩ := h
    rw [bind_eq_ok] at h
    obtain ⟨⟨others, final⟩, hothers, h⟩ := h
    obtain ⟨rfl, rfl⟩ : tree :: others = trees ∧ final = rest := by
      simpa [pure, Except.pure] using h
    obtain ⟨d, used, hd, rfl, hused⟩ := hexpr _ _ _ htree
    obtain ⟨args, hargs, rfl, rfl⟩ := derives_of_moreArguments hexpr _ _ _ _ hothers
    exact ⟨⟨d, used, tree⟩ :: args, derivesAll_cons hd hused hargs, by simp [argumentTokens], rfl⟩

/-- An operand takes one level more than what is inside of it. -/
theorem derives_of_operand {inner : Parse Node} (hinner : TakesPhrases .unary levels inner) :
    TakesPhrases .unary (levels + 1) (operand inner) := by
  have hexpr : TakesPhrases .disjunction levels (expression inner 0) :=
    (derives_of_expression hinner .disjunction).1
  intro ts t rest h
  unfold operand at h
  split at h
  · cases h
  · rw [bind_eq_ok] at h
    obtain ⟨⟨node, more⟩, hnode, h⟩ := h
    obtain ⟨rfl, rfl⟩ : Node.mk Symbol.bang.text [node] = t ∧ more = rest := by
      simpa [pure, Except.pure] using h
    obtain ⟨d, used, hd, rfl, hused⟩ := hinner _ _ _ hnode
    exact ⟨d + 1, .symbol .bang :: used, by omega, rfl, .negation hused⟩
  · rw [bind_eq_ok] at h
    obtain ⟨⟨node, more⟩, hnode, h⟩ := h
    rw [bind_eq_ok] at h
    obtain ⟨⟨_, final⟩, hclosing, h⟩ := h
    obtain ⟨rfl, rfl⟩ : node = t ∧ final = rest := by simpa [pure, Except.pure] using h
    obtain ⟨d, used, hd, rfl, hused⟩ := hexpr _ _ _ hnode
    obtain rfl := closing_eq_ok hclosing
    exact ⟨d + 1, .symbol .lparen :: (used ++ [.symbol .rparen]), by omega, by simp,
      .parentheses hused⟩
  · cases h
  · rename_i name ts
    rw [bind_eq_ok] at h
    obtain ⟨⟨trees, more⟩, htrees, h⟩ := h
    rw [bind_eq_ok] at h
    obtain ⟨⟨_, final⟩, hclosing, h⟩ := h
    obtain ⟨rfl, rfl⟩ : Node.mk "()" (.mk name [] :: trees) = t ∧ final = rest := by
      simpa [pure, Except.pure] using h
    obtain ⟨args, hargs, rfl, rfl⟩ := derives_of_callArguments hexpr htrees
    obtain rfl := closing_eq_ok hclosing
    exact ⟨callLevels args, _, callLevels_le_iff.mpr fun a ha => (hargs a ha).1, by simp,
      .call name args fun a ha => (hargs a ha).2⟩
  · obtain ⟨rfl, rfl⟩ : _ = t ∧ _ = rest := by simpa using h
    exact ⟨1, [.name _], by omega, rfl, .name _⟩
  · obtain ⟨rfl, rfl⟩ : _ = t ∧ _ = rest := by simpa using h
    exact ⟨1, [.quoted _], by omega, rfl, .quoted _⟩

theorem derives_of_operandAt (levels : Nat) : TakesPhrases .unary levels (operandAt levels) := by
  induction levels with
  | zero =>
    intro ts t rest h
    cases h
  | succ levels ih => exact derives_of_operand ih

end Soundness

/-! ### What is derived the parser takes -/

section Completeness

variable {levels : Nat} {t : Node} {ts rest : List Token}

/-- No parenthesis opens here, so that a name in front is no call. -/
def NotCall (ts : List Token) : Prop := ∀ rest, ts ≠ .symbol .lparen :: rest

theorem notCall_nil : NotCall [] := by
  intro rest h
  cases h

theorem notCall_symbol {op : Symbol} (h : op ≠ .lparen) (ts : List Token) :
    NotCall (.symbol op :: ts) := by
  intro rest heq
  simp [h] at heq

theorem ne_lparen_of_strength? {op : Symbol} {n : Nat} (h : op.strength? = some n) :
    op ≠ .lparen := by
  rintro rfl
  cases h

/-- An operand is taken whole, whatever follows it. -/
def TakesOperand (levels : Nat) (ts : List Token) (t : Node) : Prop :=
  ∀ rest, NotCall rest → operandAt levels (ts ++ rest) = .ok (t, rest)

/-- Reading a phrase of stratum `s` leads to the loop with the phrase as its left operand. The `m`
rounds on top of those that are needed are left over from the tokens of the phrase. -/
def ClimbsTo (levels : Nat) (s : Stratum) (ts : List Token) (t : Node) : Prop :=
  ∀ least, least ≤ s.least → ∃ m, ∀ rest, NotCall rest → NoStronger (s.least + 1) rest →
    expression (operandAt levels) least (ts ++ rest) =
      climb least (fun n _ _ => expression (operandAt levels) n) (rest.length + m) t rest

theorem TakesOperand.climbsTo (h : TakesOperand levels ts t) (s : Stratum) :
    ClimbsTo levels s ts t := by
  intro least _
  refine ⟨0, fun rest hcall _ => ?_⟩
  rw [expression, h rest hcall]
  rfl

/-- A phrase is taken whole if no operator follows that could go on with it. -/
theorem ClimbsTo.expression_eq {s : Stratum} (h : ClimbsTo levels s ts t) (hcall : NotCall rest)
    (hnext : NoStronger s.least rest) :
    expression (operandAt levels) s.least (ts ++ rest) = .ok (t, rest) := by
  obtain ⟨m, hm⟩ := h s.least (Nat.le_refl _)
  rw [hm rest hcall (hnext.mono (Nat.le_succ _)), climb_of_noStronger hnext]

theorem ClimbsTo.binary {s : Stratum} {op : Symbol} {us : List Token} {u : Node}
    (hop : op ∈ s.operators) (hleft : ClimbsTo levels s ts t)
    (hright : ClimbsTo levels s.tighter us u) :
    ClimbsTo levels s (ts ++ .symbol op :: us) (.mk op.text [t, u]) := by
  intro least hle
  have hs : op.strength? = some (s.least + 1) := Stratum.mem_operators_iff.mp hop
  have htight : s.tighter.least = s.least + 1 := Stratum.least_tighter hop
  obtain ⟨m, hm⟩ := hleft least hle
  refine ⟨us.length + m, fun rest hcall hnext => ?_⟩
  have hu : expression (operandAt levels) (s.least + 1) (us ++ rest) = .ok (u, rest) := by
    rw [← htight]
    exact hright.expression_eq hcall (htight ▸ hnext)
  have hlen : (Token.symbol op :: (us ++ rest)).length + m = rest.length + (us.length + m) + 1 := by
    simp only [List.length_cons, List.length_append]
    omega
  rw [List.append_assoc, List.cons_append,
    hm _ (notCall_symbol (ne_lparen_of_strength? hs) _) (noStronger_symbol hs (Nat.le_refl _)),
    hlen, climb_symbol hs (by omega), hu]
  rfl

/-! #### Calls -/

theorem operandAt_rparen_ne_ok (levels : Nat) (ts : List Token) (r : Node × List Token) :
    operandAt levels (.symbol .rparen :: ts) ≠ .ok r := by
  cases levels <;> exact fun h => nomatch h

/-- An argument is read as an expression up to a comma or a closing parenthesis. -/
def TakesArgument (levels : Nat) (a : Argument) : Prop :=
  ∀ rest, NotCall rest → NoStronger 0 rest →
    expression (operandAt levels) 0 (a.tokens ++ rest) = .ok (a.tree, rest)

/-- What follows an argument: the other arguments, and the parenthesis that closes the call. -/
def afterArgument (args : List Argument) (rest : List Token) : List Token :=
  (args.flatMap fun b => .symbol .comma :: b.tokens) ++ .symbol .rparen :: rest

theorem afterArgument_cons (a : Argument) (args : List Argument) (rest : List Token) :
    afterArgument (a :: args) rest = .symbol .comma :: (a.tokens ++ afterArgument args rest) := by
  simp [afterArgument]

theorem notCall_afterArgument (args : List Argument) (rest : List Token) :
    NotCall (afterArgument args rest) := by
  cases args with
  | nil => exact notCall_symbol (by decide) _
  | cons a args =>
    rw [afterArgument_cons]
    exact notCall_symbol (by decide) _

theorem noStronger_afterArgument (n : Nat) (args : List Argument) (rest : List Token) :
    NoStronger n (afterArgument args rest) := by
  cases args with
  | nil => exact noStronger_of_strength?_eq_none rfl
  | cons a args =>
    rw [afterArgument_cons]
    exact noStronger_of_strength?_eq_none rfl

theorem length_le_afterArgument (args : List Argument) (rest : List Token) :
    args.length ≤ (afterArgument args rest).length := by
  induction args with
  | nil => exact Nat.zero_le _
  | cons a args ih =>
    rw [afterArgument_cons, List.length_cons, List.length_cons, List.length_append]
    omega

theorem moreArguments_eq {args : List Argument} (h : ∀ a ∈ args, TakesArgument levels a) :
    ∀ rounds, args.length ≤ rounds →
      moreArguments (operandAt levels) rounds (afterArgument args rest) =
        .ok (args.map (·.tree), .symbol .rparen :: rest) := by
  induction args with
  | nil =>
    intro rounds _
    cases rounds <;> rfl
  | cons a args ih =>
    intro rounds hle
    cases rounds with
    | zero => exact absurd hle (Nat.not_succ_le_zero _)
    | succ rounds =>
      have ha := h a (List.mem_cons_self ..) (afterArgument args rest)
        (notCall_afterArgument args rest) (noStronger_afterArgument 0 args rest)
      have hargs := ih (fun b hb => h b (List.mem_cons_of_mem _ hb)) rounds
        (Nat.le_of_succ_le_succ hle)
      rw [afterArgument_cons, moreArguments, ha]
      simp only [ok_bind, hargs]
      rfl

theorem callArguments_eq {args : List Argument} (h : ∀ a ∈ args, TakesArgument levels a) :
    callArguments (operandAt levels) (argumentTokens args ++ .symbol .rparen :: rest) =
      .ok (args.map (·.tree), .symbol .rparen :: rest) := by
  cases args with
  | nil => rfl
  | cons a args =>
    have ha := h a (List.mem_cons_self ..) (afterArgument args rest)
      (notCall_afterArgument args rest) (noStronger_afterArgument 0 args rest)
    have htokens : argumentTokens (a :: args) ++ .symbol .rparen :: rest =
        a.tokens ++ afterArgument args rest := by
      simp [argumentTokens, afterArgument]
    rw [htokens]
    unfold callArguments
    split
    · -- an argument does not begin with the parenthesis that closes the call
      rename_i heq
      rw [heq, expression, bind_eq_ok] at ha
      obtain ⟨r, hr, -⟩ := ha
      exact absurd hr (operandAt_rparen_ne_ok levels _ r)
    · have hargs : moreArguments (operandAt levels) (afterArgument args rest).length
          (afterArgument args rest) = .ok (args.map (·.tree), .symbol .rparen :: rest) :=
        moreArguments_eq (fun b hb => h b (List.mem_cons_of_mem _ hb)) _
          (length_le_afterArgument args rest)
      rw [ha]
      simp only [ok_bind, hargs]
      rfl

/-! #### All phrases -/

/-- By induction on the derivation. An operand is read by itself, as behind `!`, and any phrase as
the left operand of a loop. -/
theorem takes_of_derives {s : Stratum} {d : Nat} (h : Derives s d ts t) :
    ∀ levels, d ≤ levels → (s = .unary → TakesOperand levels ts t) ∧ ClimbsTo levels s ts t := by
  have hoperand : ∀ {levels : Nat} {ts : List Token} {t : Node}, TakesOperand levels ts t →
      (Stratum.unary = .unary → TakesOperand levels ts t) ∧ ClimbsTo levels .unary ts t :=
    fun h => ⟨fun _ => h, h.climbsTo .unary⟩
  induction h with
  | @tight s d ts t _ ih =>
    intro levels hd
    obtain ⟨hunary, hclimbs⟩ := ih levels hd
    refine ⟨fun hs => hunary (by rw [hs]; rfl), fun least hle => ?_⟩
    obtain ⟨m, hm⟩ := hclimbs least (Nat.le_trans hle s.least_le_tighter)
    exact ⟨m, fun rest hcall hnext =>
      hm rest hcall (hnext.mono (Nat.succ_le_succ s.least_le_tighter))⟩
  | @binary s op d ts t e us u hop _ _ ihleft ihright =>
    intro levels hd
    refine ⟨?_, .binary hop (ihleft levels (by omega)).2 (ihright levels (by omega)).2⟩
    rintro rfl
    cases hop
  | @negation d ts t _ ih =>
    intro levels hd
    obtain ⟨levels, rfl⟩ : ∃ n, levels = n + 1 := ⟨levels - 1, by omega⟩
    refine hoperand fun rest hcall => ?_
    rw [List.cons_append, operandAt, operand, (ih levels (by omega)).1 rfl rest hcall]
    rfl
  | @parentheses d ts t _ ih =>
    intro levels hd
    obtain ⟨levels, rfl⟩ : ∃ n, levels = n + 1 := ⟨levels - 1, by omega⟩
    refine hoperand fun rest _ => ?_
    have hinner : expression (operandAt levels) 0 (ts ++ .symbol .rparen :: rest) =
        .ok (t, .symbol .rparen :: rest) :=
      (ih levels (by omega)).2.expression_eq (s := .disjunction) (notCall_symbol (by decide) _)
        (noStronger_of_strength?_eq_none rfl)
    rw [List.cons_append, List.append_assoc, List.singleton_append, operandAt, operand, hinner]
    rfl
  | quoted text =>
    intro levels hd
    obtain ⟨levels, rfl⟩ : ∃ n, levels = n + 1 := ⟨levels - 1, by omega⟩
    exact hoperand fun rest _ => rfl
  | name text =>
    intro levels hd
    obtain ⟨levels, rfl⟩ : ∃ n, levels = n + 1 := ⟨levels - 1, by omega⟩
    refine hoperand fun rest hcall => ?_
    rw [List.singleton_append, operandAt]
    unfold operand
    split <;> simp_all [NotCall]
  | call name args _ ih =>
    intro levels hd
    obtain ⟨levels, rfl⟩ : ∃ n, levels = n + 1 := by
      refine ⟨levels - 1, ?_⟩
      cases args <;> simp [callLevels] at hd <;> omega
    have hargs : ∀ a ∈ args, TakesArgument levels a := fun a ha rest hcall hnext =>
      (ih a ha levels (callLevels_le_iff.mp hd a ha)).2.expression_eq (s := .disjunction) hcall
        hnext
    refine hoperand fun rest _ => ?_
    rw [List.cons_append, List.cons_append, List.append_assoc, List.singleton_append, operandAt,
      operand, callArguments_eq hargs]
    rfl

end Completeness

/-! ### Whole conditions -/

theorem expression_of_derives {d levels : Nat} {ts : List Token} {t : Node}
    (h : Derives .disjunction d ts t) (hd : d ≤ levels) :
    expression (operandAt levels) 0 ts = .ok (t, []) := by
  have := (takes_of_derives h levels hd).2.expression_eq notCall_nil (noStronger_nil _)
  rwa [List.append_nil] at this

theorem parseTokens_eq_ok_iff {ts : List Token} {t : Node} :
    parseTokens ts = .ok t ↔ ∃ d, d ≤ maxNesting ∧ Derives .disjunction d ts t := by
  constructor
  · intro h
    rw [parseTokens, bind_eq_ok] at h
    obtain ⟨⟨node, rest⟩, hnode, h⟩ := h
    cases rest with
    | cons _ _ => cases h
    | nil =>
      obtain rfl : node = t := by simpa [pure, Except.pure] using h
      obtain ⟨d, used, hd, rfl, hused⟩ :=
        (derives_of_expression (derives_of_operandAt maxNesting) .disjunction).1 _ _ _ hnode
      exact ⟨d, hd, by simpa using hused⟩
  · rintro ⟨d, hd, h⟩
    rw [parseTokens, expression_of_derives h hd]
    rfl

/-- The grammar is unambiguous, at any depth: with levels enough the parser finds every tree. -/
theorem Derives.tree_unique {d e : Nat} {ts : List Token} {t u : Node}
    (ht : Derives .disjunction d ts t) (hu : Derives .disjunction e ts u) : t = u := by
  have htake := expression_of_derives ht (Nat.le_max_left d e)
  rw [expression_of_derives hu (Nat.le_max_right d e)] at htake
  simpa using htake.symm

theorem standard_holds_iff {condition : String} {v : Variant} :
    Reader.standard.holds condition v = true ↔
      ∃ t, parse (substitute condition v) = .ok t ∧ t.holds = true := by
  cases h : parse (substitute condition v) <;>
    simp [Reader.holds, Reader.standard, h, Except.toOption]

/-- **The parser decides the grammar.** A list of tokens has the tree that the grammar derives from
it in at most `maxNesting` levels, there is no more than one, and every other list of tokens is
refused with an error. A text with these tokens has the same tree, or none. -/
theorem parsing_decides_derivability (ts : List Token) :
    (∀ t, parseTokens ts = .ok t ↔ ∃ d, d ≤ maxNesting ∧ Derives .disjunction d ts t) ∧
      ((∃ e, parseTokens ts = .error e) ↔ ¬ ∃ t d, d ≤ maxNesting ∧ Derives .disjunction d ts t) ∧
      (∀ t u d e, Derives .disjunction d ts t → Derives .disjunction e ts u → t = u) ∧
      ∀ text, tokenize text = .ok ts →
        (∀ t, Reader.standard.tree? text = some t ↔
          ∃ d, d ≤ maxNesting ∧ Derives .disjunction d ts t) ∧
        (Reader.standard.tree? text = none ↔
          ¬ ∃ t d, d ≤ maxNesting ∧ Derives .disjunction d ts t) := by
  have herror : (∃ e, parseTokens ts = .error e) ↔
      ¬ ∃ t d, d ≤ maxNesting ∧ Derives .disjunction d ts t := by
    simp only [← parseTokens_eq_ok_iff]
    cases parseTokens ts <;> simp
  refine ⟨fun t => parseTokens_eq_ok_iff, herror, fun t u d e => Derives.tree_unique, ?_⟩
  intro text htext
  have htree : Reader.standard.tree? text = (parseTokens ts).toOption := by
    show (parse text).toOption = _
    rw [parse, htext, ok_bind]
  rw [htree, ← herror]
  simp only [← parseTokens_eq_ok_iff]
  cases parseTokens ts <;> simp [Except.toOption]

end Condition

end BuildDescriptor
