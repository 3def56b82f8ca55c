import BuildDescriptor.Proofs.Condition.Derivation
import BuildDescriptor.Proofs.Condition.Descent

/-!
# How many calls are open at a time

Nothing bounds a list of tokens, and still the parser needs a stack of limited height. Only the
unaries are counted, but an expression that calls an expression asks for stronger operators each
time, and there are three strengths. So between one level and the next there are at most four
expressions, the unary and its operand: six calls for each level. The unary that the limit stops
calls nothing, and neither does the expression around it get as far as an operator.

In the budget of this size the three functions do what `parseTokens` does, on every list of tokens.
The budget that is enough depends on the strength and on the levels that are left, which is what the
induction is on. The bound is reached: there are tokens that go through all the strengths on each
level.

## Main definitions

* `Condition.Follows` — a part of the parser that does what a reader does
* `Condition.OpensCalls` — the number of calls that are open at a time
* `Condition.staircase` — tokens that open as many calls as possible

## Main results

* `Condition.parseWithin_of_le` — with calls enough, the parser ends as `parseTokens` does
* `Condition.parseWithin_staircase` — fewer calls are not enough
* `Condition.parseWithin_eq_parseTokens` — both, and what becomes of the counter
-/

namespace BuildDescriptor

namespace Condition

open Descent

/-- How the parser ends beside how a reader ends: with the same value in front of the same tokens
and the counter as it was, or with the same error. -/
inductive Matches {α : Type} (depth : Nat) :
    EStateM.Result Stop Cursor α → Except SyntaxError (α × List Token) → Prop
  | ok (a : α) (rest : List Token) : Matches depth (.ok a ⟨rest, depth⟩) (.ok (a, rest))
  | refused (e : SyntaxError) (c : Cursor) : Matches depth (.error (.refused e) c) (.error e)

/-- A part of the parser that does what a reader does, when the counter shows `depth`. -/
def Follows {α : Type} (depth : Nat) (p : Descent α) (q : Parse α) : Prop :=
  ∀ ts, Matches depth (p.run ⟨ts, depth⟩) (q ts)

/-! ### The steps and the loops -/

section Follows

variable {α β : Type} {depth : Nat} {call : Call → Descent Node} {atom : Parse Node}

theorem Matches.bind {p : Descent α} {f : α → Descent β} {ts : List Token}
    {x : Except SyntaxError (α × List Token)}
    {g : α × List Token → Except SyntaxError (β × List Token)}
    (h : Matches depth (p.run ⟨ts, depth⟩) x)
    (hf : ∀ a rest, x = .ok (a, rest) → Matches depth ((f a).run ⟨rest, depth⟩) (g (a, rest))) :
    Matches depth ((p >>= f).run ⟨ts, depth⟩) (x >>= g) := by
  rw [EStateM.run_bind]
  generalize p.run ⟨ts, depth⟩ = r at h
  cases h with
  | ok a rest => exact hf a rest rfl
  | refused e c => exact .refused e c

theorem run_remaining_bind (f : List Token → Descent α) (ts : List Token) :
    (remaining >>= f).run ⟨ts, depth⟩ = (f ts).run ⟨ts, depth⟩ := rfl

theorem run_advance_bind (f : Token → Descent α) (t : Token) (ts : List Token) :
    (advance >>= f).run ⟨t :: ts, depth⟩ = (f t).run ⟨ts, depth⟩ := rfl

theorem follows_expectClosing : Follows depth expectClosing closing := by
  intro ts
  cases ts with
  | nil => exact .refused _ _
  | cons t ts =>
    rw [expectClosing, run_advance_bind]
    split
    · subst t
      exact .ok () ts
    · rename_i ht
      have hclosing : closing (t :: ts) = .error (.expectedClosing t) := by
        unfold closing
        split <;> simp_all
      rw [hclosing]
      exact .refused _ _

theorem stronger?_of_noStronger {least : Nat} {ts : List Token} (h : NoStronger least ts) :
    stronger? least ts = none := by
  unfold stronger?
  split
  · rename_i op rest
    cases hop : op.strength? with
    | none => rfl
    | some n => exact if_neg (Nat.not_lt.mpr (h op rest n rfl hop))
  · rfl

theorem stronger?_symbol {least n : Nat} {op : Symbol} {ts : List Token}
    (hop : op.strength? = some n) (hlt : least < n) :
    stronger? least (.symbol op :: ts) = some (op, n) := by
  rw [stronger?, hop]
  exact if_pos hlt

theorem follows_operators {least : Nat} {right : (n : Nat) → least < n → n ≤ 3 → Parse Node}
    (h : ∀ n hlt hle, Follows depth (call (.expression n)) (right n hlt hle)) (rounds : Nat)
    (left : Node) :
    Follows depth (operators call least rounds left) (climb least right rounds left) := by
  induction rounds generalizing left with
  | zero => exact fun ts => .ok left ts
  | succ rounds ih =>
    intro ts
    rw [operators, run_remaining_bind]
    rcases noStronger_or least ts with hstop | ⟨op, ts, n, rfl, hop, hlt⟩
    · rw [climb_of_noStronger hstop, stronger?_of_noStronger hstop]
      exact .ok left ts
    · rw [climb_symbol hop hlt, stronger?_symbol hop hlt]
      exact Matches.bind (h n hlt _ ts) fun right rest _ => ih _ rest

theorem follows_furtherArguments
    (h : Follows depth (call (.expression 0)) (expression atom 0)) (rounds : Nat) :
    Follows depth (furtherArguments call rounds) (moreArguments atom rounds) := by
  induction rounds with
  | zero => exact fun ts => .ok [] ts
  | succ rounds ih =>
    intro ts
    unfold moreArguments
    split
    · rename_i heq
      cases heq
      exact Matches.bind (h _) fun argument rest _ => Matches.bind (ih rest) fun others rest _ =>
        .ok (argument :: others) rest
    · rename_i hcomma
      rw [furtherArguments, run_remaining_bind]
      split
      · exact (hcomma rounds _ rfl rfl).elim
      · exact .ok [] _

theorem follows_allArguments (h : Follows depth (call (.expression 0)) (expression atom 0)) :
    Follows depth (allArguments call) (callArguments atom) := by
  intro ts
  unfold callArguments
  split
  · exact .ok [] _
  · rename_i hrparen
    rw [allArguments, run_remaining_bind]
    split
    · exact (hrparen _ rfl).elim
    · exact Matches.bind (h ts) fun first rest _ =>
        Matches.bind (follows_furtherArguments h rest.length rest) fun others rest _ =>
          .ok (first :: others) rest

/-! ### The three functions -/

theorem follows_operand (hunary : Follows depth (call .unary) atom)
    (hexpression : Follows depth (call (.expression 0)) (expression atom 0)) :
    Follows depth (Call.operand.body call) (operand atom) := by
  intro ts
  unfold operand
  split
  · exact .refused _ _
  · exact Matches.bind (hunary _) fun node rest _ => .ok _ rest
  · exact Matches.bind (hexpression _) fun node rest _ =>
      Matches.bind (follows_expectClosing rest) fun _ rest _ => .ok node rest
  · rename_i op ts hbang hlparen
    cases op with
    | bang => exact (hbang rfl).elim
    | lparen => exact (hlparen rfl).elim
    | _ => exact .refused _ _
  · exact Matches.bind (follows_allArguments hexpression _) fun arguments rest _ =>
      Matches.bind (follows_expectClosing rest) fun _ rest _ => .ok _ rest
  · rename_i name ts hcall
    rw [Call.body, run_advance_bind]
    dsimp only
    rw [run_remaining_bind]
    split
    · exact (hcall _ rfl).elim
    · exact .ok _ ts
  · exact .ok _ _

/-- One level deeper, where the limit allows it. -/
theorem Follows.nested {p : Descent α} {q : Parse α} (h : Follows (depth + 1) p q)
    (hdepth : depth < maxNesting) : Follows depth (nested p) q := by
  intro ts
  rw [run_nested, if_neg (Nat.not_lt.mpr hdepth)]
  have hts := h ts
  generalize p.run ⟨ts, depth + 1⟩ = r, q ts = x at hts
  cases hts with
  | ok a rest => exact .ok a rest
  | refused e c => exact .refused e _

/-- One level deeper, where the limit does not allow it. -/
theorem follows_nested_maxNesting (p : Descent Node) :
    Follows maxNesting (nested p) (operandAt 0) := by
  intro ts
  rw [run_nested, if_pos (Nat.lt_succ_self _)]
  exact .refused _ _

end Follows

/-! ### How many calls are enough -/

section Enough

variable {levels depth : Nat}

/-- A unary, with so many levels left, in a budget that is enough for it. -/
def UnaryFollows (depth levels : Nat) : Prop :=
  ∀ budget, 1 ≤ budget → 6 * levels ≤ budget + 2 →
    Follows depth (Call.unary.within budget) (operandAt levels)

theorem levels_pos_of_operandAt {ts : List Token} {r : Node × List Token}
    (h : operandAt levels ts = .ok r) : 0 < levels := by
  cases levels with
  | zero => cases h
  | succ levels => exact Nat.succ_pos levels

/-- An expression takes one call more than the unary and the expressions of stronger operators. If
no levels are left, it does not get as far as those. -/
theorem UnaryFollows.expression (hunary : UnaryFollows depth levels) {least budget : Nat}
    (hleast : least ≤ 3) (htwo : 2 ≤ budget) (hbudget : 6 * levels + 2 ≤ budget + least) :
    Follows depth ((Call.expression least).within budget)
      (expression (operandAt levels) least) := by
  -- the recursion is on stronger operators
  induction hm : 3 - least using Nat.strongRecOn generalizing least budget with
  | ind m ih =>
    obtain ⟨budget, rfl⟩ : ∃ n, budget = n + 1 := ⟨budget - 1, by omega⟩
    intro ts
    rw [Condition.expression]
    refine Matches.bind (hunary budget (by omega) (by omega) ts) fun left rest hleft => ?_
    have hlevels := levels_pos_of_operandAt hleft
    refine follows_operators (fun n hlt hle => ?_) rest.length left rest
    exact ih (3 - n) (by omega) hle (by omega) (by omega) rfl

/-- **A unary takes six calls for each level that is left**, by induction on these levels. -/
theorem unaryFollows (h : depth + levels = maxNesting) : UnaryFollows depth levels := by
  induction levels generalizing depth with
  | zero =>
    intro budget hone _
    obtain ⟨budget, rfl⟩ : ∃ n, budget = n + 1 := ⟨budget - 1, by omega⟩
    obtain rfl : depth = maxNesting := h
    exact follows_nested_maxNesting _
  | succ levels ih =>
    intro budget _ hbudget
    obtain ⟨budget, rfl⟩ : ∃ n, budget = n + 2 := ⟨budget - 2, by omega⟩
    have hunary : UnaryFollows (depth + 1) levels := ih (by omega)
    have hoperand : Follows (depth + 1) (Call.operand.within (budget + 1))
        (operandAt (levels + 1)) :=
      follows_operand (hunary budget (by omega) (by omega))
        (hunary.expression (by omega) (by omega) (by omega))
    exact hoperand.nested (by omega)

end Enough

/-- **With calls enough the parser ends as `parseTokens` does.** -/
theorem parseWithin_of_le {budget : Nat} (h : 6 * maxNesting + 2 ≤ budget) (ts : List Token) :
    parseWithin budget ts = (parseTokens ts).mapError Stop.refused := by
  have hmatches := (unaryFollows (Nat.zero_add maxNesting)).expression (Nat.zero_le 3)
    (Nat.le_trans (Nat.le_add_left 2 _) h) h ts
  rw [parseWithin, parseTokens]
  generalize ((Call.expression 0).within budget).run ⟨ts, 0⟩ = r,
    expression (operandAt maxNesting) 0 ts = x at hmatches
  cases hmatches with
  | ok node rest => cases rest <;> rfl
  | refused e c => rfl

theorem parseWithin_ne_outOfCalls {budget : Nat} (h : 6 * maxNesting + 2 ≤ budget)
    (ts : List Token) : parseWithin budget ts ≠ .error .outOfCalls := by
  rw [parseWithin_of_le h]
  cases parseTokens ts with
  | ok t =>
    intro hout
    have hok : (Except.ok t : Except Stop Node) = .error .outOfCalls := hout
    cases hok
  | error e =>
    intro hout
    have hstop : Stop.refused e = .outOfCalls := Except.error.inj hout
    cases hstop

/-! ### How many calls are needed -/

/-- A part of the parser that runs out of calls. -/
def RunsOut {α : Type} (p : Descent α) (ts : List Token) (depth : Nat) : Prop :=
  ∃ c, p.run ⟨ts, depth⟩ = .error .outOfCalls c

section Needed

variable {α β : Type} {p : Descent α} {budget least n depth : Nat} {op : Symbol} {ts : List Token}

theorem RunsOut.bind (h : RunsOut p ts depth) (f : α → Descent β) :
    RunsOut (p >>= f) ts depth := by
  obtain ⟨c, hc⟩ := h
  refine ⟨c, ?_⟩
  rw [EStateM.run_bind, hc]

theorem RunsOut.nested (h : RunsOut p ts (depth + 1)) (hdepth : depth < maxNesting) :
    RunsOut (nested p) ts depth := by
  obtain ⟨c, hc⟩ := h
  refine ⟨{ c with depth := c.depth - 1 }, ?_⟩
  rw [run_nested, if_neg (Nat.not_lt.mpr hdepth), hc]

/-- A name in front of an operator is a whole unary. -/
theorem run_unary_name (hop : op ≠ .lparen) (hdepth : depth < maxNesting) (name : String) :
    (Call.unary.within (budget + 2)).run ⟨.name name :: .symbol op :: ts, depth⟩ =
      .ok (.mk name []) ⟨.symbol op :: ts, depth⟩ := by
  have hoperand : (Call.operand.within (budget + 1)).run
      ⟨.name name :: .symbol op :: ts, depth + 1⟩ =
        .ok (.mk name []) ⟨.symbol op :: ts, depth + 1⟩ := by
    cases op with
    | lparen => exact absurd rfl hop
    | _ => rfl
  rw [Call.within, Call.body, run_nested, if_neg (Nat.not_lt.mpr hdepth), hoperand]
  rfl

/-- An expression is one call more than the right operand of one of its operators. -/
theorem RunsOut.operator (h : RunsOut ((Call.expression n).within (budget + 2)) ts depth)
    (hop : op.strength? = some n) (hlt : least < n) (hdepth : depth < maxNesting) (name : String) :
    RunsOut ((Call.expression least).within (budget + 3)) (.name name :: .symbol op :: ts)
      depth := by
  have hleft : (Call.unary.within (budget + 2)).run ⟨.name name :: .symbol op :: ts, depth⟩ =
      .ok (.mk name []) ⟨.symbol op :: ts, depth⟩ :=
    run_unary_name (ne_lparen_of_strength? hop) hdepth name
  obtain ⟨c, hc⟩ := h.bind fun right =>
    operators (Call.within (budget + 2)) least ts.length (.mk op.text [.mk name [], right])
  refine ⟨c, ?_⟩
  rw [Call.within, Call.body, EStateM.run_bind, hleft]
  dsimp only
  rw [run_remaining_bind, List.length_cons, operators, run_remaining_bind,
    stronger?_symbol hop hlt]
  exact hc

/-- An expression is three calls more than what is in parentheses at its front. -/
theorem RunsOut.parentheses (h : RunsOut ((Call.expression 0).within budget) ts (depth + 1))
    (hdepth : depth < maxNesting) :
    RunsOut ((Call.expression least).within (budget + 3)) (.symbol .lparen :: ts) depth := by
  have hoperand : RunsOut (Call.operand.within (budget + 1)) (.symbol .lparen :: ts) (depth + 1) :=
    h.bind _
  exact (hoperand.nested hdepth).bind _

end Needed

/-- Tokens that lead through all strengths of operators and then one level deeper, so many times. -/
def staircase : Nat → List Token
  | 0 => []
  | levels + 1 => .name "a" :: .symbol .or :: .name "a" :: .symbol .and :: .name "a" ::
      .symbol .eq :: .symbol .lparen :: staircase levels

theorem runsOut_staircase {levels depth : Nat} (h : depth + levels = maxNesting) :
    RunsOut ((Call.expression 0).within (6 * levels + 1)) (staircase levels) depth := by
  induction levels generalizing depth with
  | zero => exact ⟨_, rfl⟩
  | succ levels ih =>
    have hdepth : depth < maxNesting := by omega
    have hdeeper : RunsOut ((Call.expression 0).within (6 * levels + 1)) (staircase levels)
        (depth + 1) := ih (by omega)
    have hparentheses : RunsOut ((Call.expression 3).within (6 * levels + 4))
        (.symbol .lparen :: staircase levels) depth := hdeeper.parentheses hdepth
    have heq : RunsOut ((Call.expression 2).within (6 * levels + 5))
        (.name "a" :: .symbol .eq :: _) depth :=
      hparentheses.operator rfl (by decide) hdepth "a"
    have hand : RunsOut ((Call.expression 1).within (6 * levels + 6))
        (.name "a" :: .symbol .and :: _) depth :=
      heq.operator rfl (by decide) hdepth "a"
    exact hand.operator rfl (by decide) hdepth "a"

/-- **Fewer calls are not enough.** -/
theorem parseWithin_staircase {budget : Nat} (h : budget < 6 * maxNesting + 2) :
    parseWithin budget (staircase maxNesting) = .error .outOfCalls := by
  obtain ⟨c, hc⟩ := runsOut_staircase (Nat.zero_add maxNesting)
  have hout : parseWithin (6 * maxNesting + 1) (staircase maxNesting) = .error .outOfCalls := by
    rw [parseWithin, hc]
  exact parseWithin_outOfCalls_of_le (Nat.le_of_lt_succ h) hout

/-! ### The number of open calls -/

/-- The number of calls that are open at a time while a list of tokens is read, at most. A smaller
budget runs out, and no other one does. -/
def OpensCalls (n : Nat) (ts : List Token) : Prop :=
  ∀ budget, parseWithin budget ts = .error .outOfCalls ↔ budget < n

/-- There is such a number, and a budget that does not run out is at least as large. -/
theorem exists_opensCalls {ts : List Token} {budget : Nat}
    (h : parseWithin budget ts ≠ .error .outOfCalls) : ∃ n, n ≤ budget ∧ OpensCalls n ts := by
  induction budget with
  | zero =>
    refine ⟨0, Nat.le_refl 0, fun b => ⟨fun hb => ?_, fun hlt => absurd hlt (Nat.not_lt_zero b)⟩⟩
    exact absurd (parseWithin_outOfCalls_of_le (Nat.zero_le b) hb) h
  | succ budget ih =>
    by_cases hout : parseWithin budget ts = .error .outOfCalls
    · refine ⟨budget + 1, Nat.le_refl _, fun b => ⟨fun hb => ?_, fun hlt => ?_⟩⟩
      · exact Nat.lt_of_not_le fun hle => h (parseWithin_outOfCalls_of_le hle hb)
      · exact parseWithin_outOfCalls_of_le (Nat.le_of_lt_succ hlt) hout
    · obtain ⟨n, hle, hn⟩ := ih hout
      exact ⟨n, Nat.le_succ_of_le hle, hn⟩

/-- **The calls that are open at a time are limited**, whatever the tokens are. Their number is at
most `6 * maxNesting + 2`, which some tokens reach. So the parser in a budget of
`6 * (maxNesting + 1)` calls never runs out of them, and ends with the tree or with the error that
`parseTokens` gives. Each call leaves the counter of levels as it was: always when it returns, and
when it fails too, unless it is the limit of nesting that it fails for. -/
theorem parseWithin_eq_parseTokens :
    (∀ ts, parseWithin (6 * (maxNesting + 1)) ts = (parseTokens ts).mapError Stop.refused) ∧
      (∀ ts, ∃ n, n ≤ 6 * maxNesting + 2 ∧ OpensCalls n ts) ∧
      (∃ ts, OpensCalls (6 * maxNesting + 2) ts) ∧
      ∀ budget (c : Call), KeepsDepth (c.within budget) := by
  refine ⟨parseWithin_of_le (by omega),
    fun ts => exists_opensCalls (parseWithin_ne_outOfCalls (Nat.le_refl _) ts),
    ⟨staircase maxNesting, fun budget => ⟨fun hout => ?_, parseWithin_staircase⟩⟩,
    keepsDepth_within⟩
  exact Nat.lt_of_not_le fun hle => parseWithin_ne_outOfCalls hle _ hout

/-- The expression, the one behind the operator, a unary and its operand: four calls at a time, and
it takes no more of them for a longer chain. -/
example :
    parseWithin 3 [.name "a", .symbol .and, .name "b", .symbol .and, .name "c"] =
        .error .outOfCalls ∧
      parseWithin 4 [.name "a", .symbol .and, .name "b", .symbol .and, .name "c"] =
        .ok (.mk "and" [.mk "and" [.mk "a" [], .mk "b" []], .mk "c" []]) :=
  ⟨rfl, rfl⟩

end Condition

end BuildDescriptor
