import BuildDescriptor.Condition.Node
import BuildDescriptor.Condition.Token

/-!
# Parsing a condition

Binary operators bind in three strengths: `or` weakest, then `and`, then the six comparisons. All
of them associate to the left. `!` and parentheses bind tighter than any of them, and a name with a
parenthesis behind it is a call.

## How the recursion ends

An operand may hold operands of its own: behind `!`, between parentheses, among the arguments of a
call. Each of these is one level of nesting, and a condition may have `maxNesting` of them. The
number of levels left is what `operandAt` recurses on. Everything else is built from the reader for
one operand, passed as a function, so that no definition below calls itself except on fewer levels,
on stronger operators, or in a loop over the tokens.

The loops take a number of rounds. Each round takes at least one token, so as many rounds as there
are tokens are enough.

## Main definitions

* `Condition.Parse` — reading a value off the front of a list of tokens
* `Condition.operand`, `Condition.climb`, `Condition.expression` — the grammar
* `Condition.parseTokens`, `Condition.parse` — the tree of a list of tokens, of a text
-/

namespace BuildDescriptor

namespace Condition

/-- A reader that takes a value off the front of a list of tokens. -/
abbrev Parse (α : Type) := List Token → Except SyntaxError (α × List Token)

/-- The deepest nesting of operands. -/
def maxNesting : Nat := 100

/-- How strongly a binary operator binds. -/
def Symbol.strength? : Symbol → Option Nat
  | .or => some 1
  | .and => some 2
  | .eq | .ne | .lt | .le | .gt | .ge => some 3
  | .bang | .lparen | .rparen | .comma => none

theorem Symbol.strength?_le {s : Symbol} {n : Nat} (h : s.strength? = some n) : n ≤ 3 := by
  cases s <;> simp [strength?] at h <;> omega

/-! ### Binary operators -/

/-- Take binary operators that bind more strongly than `least`, each with its right operand, and
group them to the left. -/
def climb (least : Nat) (right : (n : Nat) → least < n → n ≤ 3 → Parse Node) :
    Nat → Node → Parse Node
  | 0, left, ts => .ok (left, ts)
  | rounds + 1, left, .symbol s :: ts =>
    match h : s.strength? with
    | none => .ok (left, .symbol s :: ts)
    | some n =>
      if hlt : least < n then do
        let (node, rest) ← right n hlt (Symbol.strength?_le h) ts
        climb least right rounds (.mk s.text [left, node]) rest
      else .ok (left, .symbol s :: ts)
  | _ + 1, left, ts => .ok (left, ts)

/-- Operands joined by binary operators that bind more strongly than `least`. -/
def expression (atom : Parse Node) (least : Nat) : Parse Node := fun ts => do
  let (left, rest) ← atom ts
  climb least (fun n _ _ => expression atom n) rest.length left rest
termination_by 3 - least

/-! ### Operands -/

/-- Take a closing parenthesis. -/
def closing : Parse Unit
  | .symbol .rparen :: ts => .ok ((), ts)
  | t :: _ => .error (.expectedClosing t)
  | [] => .error .endOfCondition

/-- The arguments of a call that follow the first one. -/
def moreArguments (atom : Parse Node) : Nat → Parse (List Node)
  | rounds + 1, .symbol .comma :: ts => do
    let (argument, rest) ← expression atom 0 ts
    let (arguments, rest) ← moreArguments atom rounds rest
    return (argument :: arguments, rest)
  | _, ts => .ok ([], ts)

/-- The arguments of a call, after its opening parenthesis. -/
def callArguments (atom : Parse Node) : Parse (List Node)
  | .symbol .rparen :: ts => .ok ([], .symbol .rparen :: ts)
  | ts => do
    let (first, rest) ← expression atom 0 ts
    let (arguments, rest) ← moreArguments atom rest.length rest
    return (first :: arguments, rest)

/-- An operand, given a reader for the operands inside it. -/
def operand (inner : Parse Node) : Parse Node
  | [] => .error .endOfCondition
  | .symbol .bang :: ts => do
    let (node, rest) ← inner ts
    return (.mk Symbol.bang.text [node], rest)
  | .symbol .lparen :: ts => do
    let (node, rest) ← expression inner 0 ts
    let ((), rest) ← closing rest
    return (node, rest)
  | .symbol s :: _ => .error (.unexpectedOperator s)
  | .name name :: .symbol .lparen :: ts => do
    let (arguments, rest) ← callArguments inner ts
    let ((), rest) ← closing rest
    return (.mk "()" (.mk name [] :: arguments), rest)
  | .name name :: ts => .ok (.mk name [], ts)
  | .quoted text :: ts => .ok (.mk text [], ts)

/-- An operand with so many levels of nesting to go. -/
def operandAt : Nat → Parse Node
  | 0 => fun _ => .error .tooDeep
  | levels + 1 => operand (operandAt levels)

/-! ### Conditions -/

/-- The tree of a list of tokens. -/
def parseTokens (ts : List Token) : Except SyntaxError Node := do
  match ← expression (operandAt maxNesting) 0 ts with
  | (node, []) => return node
  | (_, t :: _) => .error (.unexpectedToken t)

/-- The tree of a text. -/
def parse (text : String) : Except SyntaxError Node :=
  tokenize text >>= parseTokens

end Condition

end BuildDescriptor
