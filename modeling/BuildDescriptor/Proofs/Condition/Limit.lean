import BuildDescriptor.Proofs.Condition.Derivation

/-!
# What the limit of nesting does

Reading with fewer levels gives the same result as reading with more, unless it gives up for want of
levels. So a list of tokens that the grammar derives at all, in any number of levels, is either read
or refused as nested too deeply. It is never refused for another reason.

Every function of the parser is built from the reader for an operand by binding, and binding carries
the relation along.

## Main definitions

* `Condition.Limits` — a result that is the other one, or a refusal for want of levels

## Main results

* `Condition.limits_operandAt` — fewer levels and more
* `Condition.parseTokens_of_derives` — what becomes of a list of tokens that is derived
-/

namespace BuildDescriptor

namespace Condition

variable {α β : Type} {atom atom' : Parse Node} {ts : List Token} {t : Node}

/-- A result that is the other one, or a refusal for want of levels. -/
def Limits (x y : Except SyntaxError α) : Prop := x = .error .tooDeep ∨ x = y

theorem Limits.refl (x : Except SyntaxError α) : Limits x x := .inr rfl

theorem Limits.bind {x y : Except SyntaxError α} {f g : α → Except SyntaxError β} (h : Limits x y)
    (hfg : ∀ a, Limits (f a) (g a)) : Limits (x >>= f) (y >>= g) := by
  rcases h with rfl | rfl
  · exact .inl rfl
  · cases x with
    | error e => exact .refl _
    | ok a => exact hfg a

/-- A reader for operands with fewer levels than another one. -/
def LimitsAll (atom atom' : Parse Node) : Prop := ∀ ts, Limits (atom ts) (atom' ts)

/-! ### The functions of the parser -/

theorem limits_climb {least : Nat} {right right' : (n : Nat) → least < n → n ≤ 3 → Parse Node}
    (h : ∀ n hlt hle, LimitsAll (right n hlt hle) (right' n hlt hle)) (rounds : Nat) (left : Node)
    (ts : List Token) :
    Limits (climb least right rounds left ts) (climb least right' rounds left ts) := by
  induction rounds generalizing left ts with
  | zero => exact .refl _
  | succ rounds ih =>
    rcases noStronger_or least ts with hstop | ⟨op, ts, n, rfl, hop, hlt⟩
    · rw [climb_of_noStronger hstop, climb_of_noStronger hstop]
      exact .refl _
    · rw [climb_symbol hop hlt, climb_symbol hop hlt]
      exact (h _ _ _ ts).bind fun r => ih _ r.2

theorem limits_expression (h : LimitsAll atom atom') (least : Nat) :
    LimitsAll (expression atom least) (expression atom' least) := by
  -- the recursion is on stronger operators
  induction hm : 3 - least using Nat.strongRecOn generalizing least with
  | ind m ih =>
    intro ts
    rw [expression, expression]
    refine (h ts).bind fun r => limits_climb (fun n hlt hle => ?_) _ _ _
    exact ih (3 - n) (by omega) n rfl

theorem limits_moreArguments (h : LimitsAll atom atom') (rounds : Nat) (ts : List Token) :
    Limits (moreArguments atom rounds ts) (moreArguments atom' rounds ts) := by
  fun_induction moreArguments atom rounds ts with
  | case1 rounds ts ih =>
    rw [moreArguments]
    exact (limits_expression h 0 ts).bind fun r => (ih r.2).bind fun _ => .refl _
  | case2 rounds ts hcomma =>
    rw [moreArguments]
    · exact .refl _
    · exact hcomma

theorem limits_callArguments (h : LimitsAll atom atom') (ts : List Token) :
    Limits (callArguments atom ts) (callArguments atom' ts) := by
  unfold callArguments
  split
  · exact .refl _
  · exact (limits_expression h 0 _).bind fun r =>
      (limits_moreArguments h _ r.2).bind fun _ => .refl _

theorem limits_operand (h : LimitsAll atom atom') : LimitsAll (operand atom) (operand atom') := by
  intro ts
  unfold operand
  split
  · exact .refl _
  · exact (h _).bind fun _ => .refl _
  · exact (limits_expression h 0 _).bind fun _ => .refl _
  · exact .refl _
  · exact (limits_callArguments h _).bind fun _ => .refl _
  · exact .refl _
  · exact .refl _

/-- **Fewer levels and more.** -/
theorem limits_operandAt {levels levels' : Nat} (h : levels ≤ levels') :
    LimitsAll (operandAt levels) (operandAt levels') := by
  induction levels generalizing levels' with
  | zero => exact fun _ => .inl rfl
  | succ levels ih =>
    obtain ⟨levels', rfl⟩ := Nat.exists_eq_add_of_lt h
    exact limits_operand (ih (by omega))

/-! ### Whole conditions -/

/-- **What becomes of a list of tokens that is derived.** It is read, or refused as nested too
deeply. -/
theorem parseTokens_of_derives {d : Nat} (h : Derives .disjunction d ts t) :
    parseTokens ts = .error .tooDeep ∨ parseTokens ts = .ok t := by
  have hlimits := limits_expression (limits_operandAt (Nat.le_max_left maxNesting d)) 0 ts
  rw [expression_of_derives h (Nat.le_max_right maxNesting d)] at hlimits
  unfold parseTokens
  exact hlimits.bind fun _ => .refl _

end Condition

end BuildDescriptor
