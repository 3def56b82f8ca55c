import BuildDescriptor.Condition.Parser

/-!
# The grammar of conditions

What a list of tokens means is settled by four strata, each built from the next one:

```
disjunction = conjunction, then any number of: `or` conjunction
conjunction = comparison, then any number of: `and` comparison
comparison  = unary, then any number of: one of the six comparisons, unary
unary       = `!` unary | `(` disjunction `)` | string | name | name `(` arguments `)`
```

Operators of one stratum group to the left, which is why a derivation of `a op b` has `a` on the
same stratum and `b` on the next one. Parentheses leave no node behind.

## Levels

A derivation is indexed by its number of levels: how many operands the token that sits deepest is
nested in, itself included. An operand on its own is one level; a negation, parentheses and the
arguments of a call put one more around what they hold. The grammar does not limit the levels, so
that it is unambiguous for conditions of any depth.

## Main definitions

* `Condition.Stratum`, `Condition.Stratum.operators`, `Condition.Stratum.tighter`
* `Condition.Derives` — the tokens of a phrase, with its tree and its number of levels
* `Condition.Stratum.least` — the strength that the operators of a stratum exceed

## Main results

* `Condition.Stratum.mem_operators_iff` — the operators of a stratum, by strength
* `Condition.Derives.loosen` — a phrase is also one of every looser stratum
-/

namespace BuildDescriptor

namespace Condition

/-- The strata of the grammar, the loosest first. -/
inductive Stratum
  | disjunction
  | conjunction
  | comparison
  | unary
deriving DecidableEq, Repr

namespace Stratum

/-- The binary operators of a stratum. -/
def operators : Stratum → List Symbol
  | disjunction => [.or]
  | conjunction => [.and]
  | comparison => [.eq, .ne, .lt, .le, .gt, .ge]
  | unary => []

/-- The stratum that a stratum is built from. Nothing is tighter than an operand. -/
def tighter : Stratum → Stratum
  | disjunction => conjunction
  | conjunction => comparison
  | comparison => unary
  | unary => unary

/-- The strength that the operators of a stratum exceed, by one. -/
def least : Stratum → Nat
  | disjunction => 0
  | conjunction => 1
  | comparison => 2
  | unary => 3

theorem least_le (s : Stratum) : s.least ≤ 3 := by
  cases s <;> decide

/-- The strengths and the strata tell the same story: the operators of a stratum are those that are
one stronger than its `least`. -/
theorem mem_operators_iff {s : Stratum} {op : Symbol} :
    op ∈ s.operators ↔ op.strength? = some (s.least + 1) := by
  cases s <;> cases op <;> decide

theorem least_tighter {s : Stratum} {op : Symbol} (h : op ∈ s.operators) :
    s.tighter.least = s.least + 1 := by
  cases s with
  | unary => simp [operators] at h
  | disjunction | conjunction | comparison => rfl

theorem least_le_tighter (s : Stratum) : s.least ≤ s.tighter.least := by
  cases s <;> decide

/-- Every binary operator belongs to a stratum. -/
theorem exists_mem_operators {op : Symbol} {n : Nat} (h : op.strength? = some n) :
    ∃ s : Stratum, op ∈ s.operators ∧ s.least + 1 = n := by
  obtain ⟨s, hs⟩ : ∃ s : Stratum, op ∈ s.operators := by
    cases op with
    | or => exact ⟨.disjunction, by decide⟩
    | and => exact ⟨.conjunction, by decide⟩
    | eq | ne | lt | le | gt | ge => exact ⟨.comparison, by decide⟩
    | bang | lparen | rparen | comma => simp [Symbol.strength?] at h
  refine ⟨s, hs, ?_⟩
  rw [mem_operators_iff.mp hs] at h
  exact Option.some.inj h

end Stratum

/-! ### Derivations -/

/-- One argument of a call: its number of levels, its tokens and its tree. -/
structure Argument where
  levels : Nat
  tokens : List Token
  tree : Node

/-- The tokens of arguments, with a comma in front of all but the first. -/
def argumentTokens : List Argument → List Token
  | [] => []
  | a :: as => a.tokens ++ as.flatMap fun b => .symbol .comma :: b.tokens

theorem mem_argumentTokens {args : List Argument} {a : Argument} {x : Token} (ha : a ∈ args)
    (hx : x ∈ a.tokens) : x ∈ argumentTokens args := by
  cases args with
  | nil => cases ha
  | cons b args =>
    rw [argumentTokens, List.mem_append, List.mem_flatMap]
    rcases List.mem_cons.mp ha with rfl | ha
    · exact .inl hx
    · exact .inr ⟨a, ha, List.mem_cons_of_mem _ hx⟩

/-- The number of levels of a call. -/
def callLevels (args : List Argument) : Nat :=
  args.foldr (fun a n => max (a.levels + 1) n) 1

theorem callLevels_le_iff {args : List Argument} {n : Nat} :
    callLevels args ≤ n + 1 ↔ ∀ a ∈ args, a.levels ≤ n := by
  induction args with
  | nil => simp [callLevels]
  | cons a as ih =>
    rw [show callLevels (a :: as) = max (a.levels + 1) (callLevels as) from rfl, Nat.max_le, ih]
    simp

/-- The phrases of a stratum, with their number of levels, their tokens and their trees. -/
inductive Derives : Stratum → Nat → List Token → Node → Prop
  | tight {s d ts t} : Derives s.tighter d ts t → Derives s d ts t
  | binary {s op d ts t e us u} : op ∈ s.operators → Derives s d ts t → Derives s.tighter e us u →
      Derives s (max d e) (ts ++ .symbol op :: us) (.mk op.text [t, u])
  | negation {d ts t} : Derives .unary d ts t →
      Derives .unary (d + 1) (.symbol .bang :: ts) (.mk "!" [t])
  | parentheses {d ts t} : Derives .disjunction d ts t →
      Derives .unary (d + 1) (.symbol .lparen :: (ts ++ [.symbol .rparen])) t
  | quoted (text : String) : Derives .unary 1 [.quoted text] (.mk text [])
  | name (text : String) : Derives .unary 1 [.name text] (.mk text [])
  | call (name : String) (args : List Argument) :
      (∀ a ∈ args, Derives .disjunction a.levels a.tokens a.tree) →
      Derives .unary (callLevels args)
        (.name name :: .symbol .lparen :: (argumentTokens args ++ [.symbol .rparen]))
        (.mk "()" (.mk name [] :: args.map (·.tree)))

/-- A phrase is also one of every looser stratum. -/
theorem Derives.loosen {s s' : Stratum} {d : Nat} {ts : List Token} {t : Node}
    (h : Derives s d ts t) (hle : s'.least ≤ s.least) : Derives s' d ts t := by
  cases s with
  | disjunction =>
    cases s' with
    | disjunction => exact h
    | conjunction | comparison | unary => exact absurd hle (by decide)
  | conjunction =>
    cases s' with
    | disjunction => exact .tight h
    | conjunction => exact h
    | comparison | unary => exact absurd hle (by decide)
  | comparison =>
    cases s' with
    | disjunction => exact .tight (.tight h)
    | conjunction => exact .tight h
    | comparison => exact h
    | unary => exact absurd hle (by decide)
  | unary =>
    have hthree : s'.tighter.tighter.tighter = .unary := by cases s' <;> rfl
    exact .tight (.tight (.tight (by rw [hthree]; exact h)))

end Condition

end BuildDescriptor
