import BuildDescriptor.Condition.Parser

/-!
# The parser as functions that call each other

A parser by recursive descent is three functions: an expression reads an operand and then, for each
operator, the expression on its right; a unary reads an operand one level deeper; an operand may
hold a unary or expressions of its own. They move a place in the tokens forward, and they keep a
counter of the levels that they are inside of. `parseTokens` is written otherwise: it recurses on
the levels that are left, and has neither a counter nor functions that call each other freely. So it
does not show how many calls are open at a time. This module has the three functions.

## A budget for calls

What a function does is written down with the calls that it makes left open (`Call.body`). The knot
is tied by a budget: a call takes one from it and hands the rest to each of the calls that it makes,
and where nothing is left the whole parser fails. Calls that have ended take nothing, so the budget
is exactly the number of calls that may be open at a time. The loops over operators and over
arguments are no calls.

## What holds of all three functions at once

Several facts about the parser are relations that each of its steps carries along, and then it does
not matter which steps a function takes. `Respected` lists the steps, and `Respected.body` is the
only place where the functions are gone through for all of these facts.

## Main definitions

* `Condition.Cursor`, `Condition.Stop`, `Condition.Descent` — places, failures, parts of the parser
* `Condition.Call`, `Condition.Call.body`, `Condition.Call.within` — the functions, in a budget
* `Condition.parseWithin` — the tree of a list of tokens, in a budget
* `Condition.Respected` — a relation that each step of the parser carries along

## Main results

* `Condition.keepsDepth_within` — each call puts the counter back
* `Condition.extends_within` — what a larger budget changes
-/

namespace BuildDescriptor

namespace Condition

/-- A place in the tokens. -/
structure Cursor where
  rest : List Token
  /-- The number of levels that the parser is inside of. -/
  depth : Nat

/-- Why the parser ends without a tree. -/
inductive Stop
  | refused (e : SyntaxError)
  /-- A call is to be made, and no more calls may be open. -/
  | outOfCalls

/-- A part of the parser. A failure leaves the place where it happened. -/
abbrev Descent := EStateM Stop Cursor

/-- A call of one of the three functions. -/
inductive Call
  /-- Operands joined by operators that bind more strongly than `least`. -/
  | expression (least : Nat)
  | unary
  | operand

namespace Descent

variable {α : Type}

/-! ### Steps -/

/-- The tokens that are left. -/
def remaining : Descent (List Token) := return (← get).rest

/-- Fail. -/
def refuse (e : SyntaxError) : Descent α := throw (.refused e)

/-- Take a token. -/
def advance : Descent Token := do
  match ← remaining with
  | [] => refuse .endOfCondition
  | t :: ts =>
    modify fun c => { c with rest := ts }
    return t

/-- Take a closing parenthesis. -/
def expectClosing : Descent Unit := do
  let t ← advance
  if t = .symbol .rparen then return () else refuse (.expectedClosing t)

/-- Read one level deeper. The counter is put back even if that fails, but not if the limit is
passed, because nothing has been read then. -/
def nested (p : Descent α) : Descent α := do
  modify fun c => { c with depth := c.depth + 1 }
  if maxNesting < (← get).depth then refuse .tooDeep
  try p finally modify fun c => { c with depth := c.depth - 1 }

/-! ### Loops

As in `parseTokens`, a loop has as many rounds as there are tokens, and each round takes one. -/

/-- The operator in front and its strength, if it binds more strongly than `least`. -/
def stronger? (least : Nat) : List Token → Option (Symbol × Nat)
  | .symbol op :: _ => op.strength?.bind fun n => if least < n then some (op, n) else none
  | _ => none

/-- The operators of an expression, each with its right operand. -/
def operators (call : Call → Descent Node) (least : Nat) : Nat → Node → Descent Node
  | 0, left => return left
  | rounds + 1, left => do
    match stronger? least (← remaining) with
    | none => return left
    | some (op, n) =>
      let _ ← advance
      let right ← call (.expression n)
      operators call least rounds (.mk op.text [left, right])

/-- The arguments of a call that have a comma in front. -/
def furtherArguments (call : Call → Descent Node) : Nat → Descent (List Node)
  | 0 => return []
  | rounds + 1 => do
    match ← remaining with
    | .symbol .comma :: _ =>
      let _ ← advance
      let argument ← call (.expression 0)
      let others ← furtherArguments call rounds
      return argument :: others
    | _ => return []

/-- The arguments of a call, after its opening parenthesis. -/
def allArguments (call : Call → Descent Node) : Descent (List Node) := do
  match ← remaining with
  | .symbol .rparen :: _ => return []
  | _ =>
    let first ← call (.expression 0)
    let others ← furtherArguments call (← remaining).length
    return first :: others

end Descent

open Descent

/-! ### The three functions -/

/-- What a function does, given what becomes of the calls that it makes. -/
def Call.body (call : Call → Descent Node) : Call → Descent Node
  | expression least => do
    let left ← call .unary
    operators call least (← remaining).length left
  | unary => nested (call .operand)
  | operand => do
    match ← advance with
    | .symbol .bang =>
      let node ← call .unary
      return .mk Symbol.bang.text [node]
    | .symbol .lparen =>
      let node ← call (.expression 0)
      expectClosing
      return node
    | .symbol op => refuse (.unexpectedOperator op)
    | .quoted text => return .mk text []
    | .name name =>
      match ← remaining with
      | .symbol .lparen :: _ =>
        let _ ← advance
        let arguments ← allArguments call
        expectClosing
        return .mk "()" (.mk name [] :: arguments)
      | _ => return .mk name []

/-- A call in a budget: with itself, so many calls may be open. -/
def Call.within : Nat → Call → Descent Node
  | 0, _ => throw .outOfCalls
  | budget + 1, c => c.body (Call.within budget)

/-- The tree of a list of tokens, if so many calls may be open at a time. -/
def parseWithin (budget : Nat) (ts : List Token) : Except Stop Node :=
  match ((Call.expression 0).within budget).run ⟨ts, 0⟩ with
  | .ok node ⟨[], _⟩ => .ok node
  | .ok _ ⟨t :: _, _⟩ => .error (.refused (.unexpectedToken t))
  | .error stop _ => .error stop

/-! ### What the steps carry along -/

/-- A relation between parts of the parser that each step carries along. -/
structure Respected (R : ∀ {α : Type}, Descent α → Descent α → Prop) : Prop where
  pure : ∀ {α : Type} (a : α), R (pure a : Descent α) (pure a)
  bind : ∀ {α β : Type} {p p' : Descent α} {f f' : α → Descent β},
    R p p' → (∀ a, R (f a) (f' a)) → R (p >>= f) (p' >>= f')
  remaining : R remaining remaining
  advance : R advance advance
  /-- Only the counter refuses for want of levels. -/
  refuse : ∀ {α : Type} {e : SyntaxError}, e ≠ .tooDeep → R (refuse e : Descent α) (refuse e)
  nested : ∀ {α : Type} {p p' : Descent α}, R p p' → R (nested p) (nested p')

namespace Respected

variable {R : ∀ {α : Type}, Descent α → Descent α → Prop} {call call' : Call → Descent Node}

theorem expectClosing (hR : Respected R) : R expectClosing expectClosing := by
  refine hR.bind hR.advance fun t => ?_
  split
  · exact hR.pure ()
  · exact hR.refuse SyntaxError.noConfusion

theorem operators (hR : Respected R) (hcall : ∀ c, R (call c) (call' c)) (least rounds : Nat)
    (left : Node) : R (operators call least rounds left) (operators call' least rounds left) := by
  induction rounds generalizing left with
  | zero => exact hR.pure left
  | succ rounds ih =>
    refine hR.bind hR.remaining fun ts => ?_
    cases stronger? least ts with
    | none => exact hR.pure left
    | some found => exact hR.bind hR.advance fun _ => hR.bind (hcall _) fun right => ih _

theorem furtherArguments (hR : Respected R) (hcall : ∀ c, R (call c) (call' c)) (rounds : Nat) :
    R (furtherArguments call rounds) (furtherArguments call' rounds) := by
  induction rounds with
  | zero => exact hR.pure []
  | succ rounds ih =>
    refine hR.bind hR.remaining fun ts => ?_
    split
    · exact hR.bind hR.advance fun _ => hR.bind (hcall _) fun _ => hR.bind ih fun _ => hR.pure _
    · exact hR.pure []

theorem allArguments (hR : Respected R) (hcall : ∀ c, R (call c) (call' c)) :
    R (allArguments call) (allArguments call') := by
  refine hR.bind hR.remaining fun ts => ?_
  split
  · exact hR.pure []
  · exact hR.bind (hcall _) fun _ => hR.bind hR.remaining fun more =>
      hR.bind (hR.furtherArguments hcall more.length) fun _ => hR.pure _

/-- **A function carries along what the calls that it makes carry along.** -/
theorem body (hR : Respected R) (hcall : ∀ c, R (call c) (call' c)) (c : Call) :
    R (c.body call) (c.body call') := by
  cases c with
  | expression least =>
    exact hR.bind (hcall _) fun left => hR.bind hR.remaining fun more =>
      hR.operators hcall least more.length left
  | unary => exact hR.nested (hcall _)
  | operand =>
    refine hR.bind hR.advance fun t => ?_
    split
    · exact hR.bind (hcall _) fun _ => hR.pure _
    · exact hR.bind (hcall _) fun _ => hR.bind hR.expectClosing fun _ => hR.pure _
    · exact hR.refuse SyntaxError.noConfusion
    · exact hR.pure _
    · refine hR.bind hR.remaining fun more => ?_
      split
      · exact hR.bind hR.advance fun _ => hR.bind (hR.allArguments hcall) fun _ =>
          hR.bind hR.expectClosing fun _ => hR.pure _
      · exact hR.pure _

end Respected

/-- One level deeper, from a given place. -/
theorem run_nested {α : Type} (p : Descent α) (c : Cursor) :
    (nested p).run c =
      if maxNesting < c.depth + 1 then
        .error (.refused .tooDeep) { c with depth := c.depth + 1 }
      else
        match p.run { c with depth := c.depth + 1 } with
        | .ok a c' => .ok a { c' with depth := c'.depth - 1 }
        | .error stop c' => .error stop { c' with depth := c'.depth - 1 } := by
  rw [nested]
  simp only [EStateM.run_bind, EStateM.run_modify, EStateM.run_get]
  split
  · rfl
  · simp only [tryFinally, Functor.map, EStateM.map, tryFinally', EStateM.run]
    cases p { c with depth := c.depth + 1 } <;> rfl

/-! ### The counter -/

/-- What the counter shows after a failure: what it did before, or one more if the limit of nesting
is the reason. -/
def Stop.depthAfter (depth : Nat) : Stop → Nat
  | refused .tooDeep => depth + 1
  | _ => depth

theorem Stop.depthAfter_succ (depth : Nat) (stop : Stop) :
    stop.depthAfter (depth + 1) = stop.depthAfter depth + 1 := by
  cases stop with
  | refused e => cases e <;> rfl
  | outOfCalls => rfl

/-- What a result leaves in a counter that showed `depth`. -/
def Leaves {α : Type} (depth : Nat) : EStateM.Result Stop Cursor α → Prop
  | .ok _ c => c.depth = depth
  | .error stop c => c.depth = stop.depthAfter depth

/-- A part of the parser that puts the counter back when it returns. When it fails, the counter is
put back too, or is one too high because the limit of nesting was passed. -/
def KeepsDepth {α : Type} (p : Descent α) : Prop := ∀ c, Leaves c.depth (p.run c)

theorem respected_keepsDepth : Respected fun p _ => KeepsDepth p where
  pure a c := rfl
  bind := by
    intro α β p p' f f' hp hf c
    have hpc := hp c
    rw [EStateM.run_bind]
    cases h : p.run c with
    | ok a c' =>
      rw [h] at hpc
      have hfa := hf a c'
      rwa [show c'.depth = c.depth from hpc] at hfa
    | error stop c' =>
      rw [h] at hpc
      exact hpc
  remaining c := rfl
  advance := by
    rintro ⟨_ | ⟨t, ts⟩, depth⟩
    · rfl
    · rfl
  refuse := by
    intro α e he c
    cases e with
    | tooDeep => exact absurd rfl he
    | _ => rfl
  nested := by
    intro α p p' hp c
    rw [run_nested]
    split
    · rfl
    · have hpc := hp { c with depth := c.depth + 1 }
      cases h : p.run { c with depth := c.depth + 1 } with
      | ok a c' =>
        rw [h] at hpc
        show c'.depth - 1 = c.depth
        rw [show c'.depth = c.depth + 1 from hpc, Nat.add_sub_cancel]
      | error stop c' =>
        rw [h] at hpc
        show c'.depth - 1 = stop.depthAfter c.depth
        rw [show c'.depth = stop.depthAfter (c.depth + 1) from hpc, stop.depthAfter_succ,
          Nat.add_sub_cancel]

/-- **Each call puts the counter back**, in any budget. By induction on the budget: the calls that a
function makes have a smaller one. -/
theorem keepsDepth_within (budget : Nat) (c : Call) : KeepsDepth (c.within budget) := by
  induction budget generalizing c with
  | zero => exact fun _ => rfl
  | succ budget ih =>
    exact @Respected.body _ (Call.within budget) (Call.within budget) respected_keepsDepth ih c

/-! ### A larger budget -/

/-- A part of the parser that does what another one does, unless it runs out of calls. -/
def Extends {α : Type} (p p' : Descent α) : Prop :=
  ∀ c, p.run c = p'.run c ∨ ∃ c', p.run c = .error .outOfCalls c'

theorem respected_extends : Respected Extends where
  pure a c := .inl rfl
  bind := by
    intro α β p p' f f' hp hf c
    rw [EStateM.run_bind, EStateM.run_bind]
    rcases hp c with h | ⟨c', h⟩
    · rw [← h]
      cases p.run c with
      | ok a c' => exact hf a c'
      | error stop c' => exact .inl rfl
    · rw [h]
      exact .inr ⟨c', rfl⟩
  remaining c := .inl rfl
  advance c := .inl rfl
  refuse _ c := .inl rfl
  nested := by
    intro α p p' hp c
    rw [run_nested, run_nested]
    split
    · exact .inl rfl
    · rcases hp { c with depth := c.depth + 1 } with h | ⟨c', h⟩
      · rw [h]
        exact .inl rfl
      · rw [h]
        exact .inr ⟨_, rfl⟩

/-- **A larger budget changes nothing**, unless the smaller one runs out. -/
theorem extends_within {budget budget' : Nat} (h : budget ≤ budget') (c : Call) :
    Extends (c.within budget) (c.within budget') := by
  induction budget generalizing budget' c with
  | zero => exact fun cursor => .inr ⟨cursor, rfl⟩
  | succ budget ih =>
    obtain ⟨budget', rfl⟩ := Nat.exists_eq_add_of_lt h
    exact respected_extends.body (fun c => ih (by omega) c) c

theorem parseWithin_extends {budget budget' : Nat} (h : budget ≤ budget') (ts : List Token) :
    parseWithin budget ts = .error .outOfCalls ∨
      parseWithin budget ts = parseWithin budget' ts := by
  rcases extends_within h (.expression 0) ⟨ts, 0⟩ with heq | ⟨c, hout⟩
  · right
    rw [parseWithin, heq, parseWithin]
  · left
    rw [parseWithin, hout]

/-- A budget that is smaller than one that runs out runs out too. -/
theorem parseWithin_outOfCalls_of_le {budget budget' : Nat} {ts : List Token}
    (h : budget ≤ budget') (hout : parseWithin budget' ts = .error .outOfCalls) :
    parseWithin budget ts = .error .outOfCalls := by
  rcases parseWithin_extends h ts with hsmaller | hsame
  · exact hsmaller
  · exact hsame.trans hout

end Condition

end BuildDescriptor
