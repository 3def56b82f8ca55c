import BuildDescriptor.Condition.Truth
import BuildDescriptor.Proofs.Xml.Order

/-!
# Walking a tree

A tree may come from any reader: its nodes may have any texts, and an `==` may have no operand, one,
or five. The walk keeps a stack of what is still to visit and puts the operands of a node where the
node was. What it does to the tree is recursion all the same, and it can be told without either. A
node has a *place*, the list of the indices that lead to it from the root, and the walk lists the
nodes in the order of their places, compared like words in a dictionary: a node comes before its
operands, and all that is below an operand before the next operand. Each place is visited once; a
node that occurs at two places is listed twice.

The test for a condition stops at the first node that passes. So it finds out whether there is any,
and the order is of no account. Nodes that are no proper equality, those with fewer than two
operands included, neither pass nor stop the search.

## Main definitions

* `Condition.Node.at?` — the node at a place
* `Condition.Node.search` — the test for a condition, by recursion on the tree

## Main results

* `Condition.walk_eq_preorder_and_holds_eq_search`
-/

namespace BuildDescriptor

namespace Condition

open Xml (InDocumentOrder)

namespace Node

/-! ### Places -/

/-- The node at a place. -/
def at? : Node → List Nat → Option Node
  | n, [] => some n
  | n, i :: place => n.operands[i]?.bind fun m => m.at? place

theorem at?_mk_eq_some_iff {text : String} {operands : List Node} {place : List Nat} {m : Node} :
    (mk text operands).at? place = some m ↔
      place = [] ∧ m = mk text operands ∨
        ∃ i n rest, place = i :: rest ∧ operands[i]? = some n ∧ n.at? rest = some m := by
  cases place with
  | nil => simp [at?, eq_comm]
  | cons i rest => simp [at?, Option.bind_eq_some_iff, Node.operands]

theorem preorderAll_eq_flatMap (ns : List Node) : preorderAll ns = ns.flatMap preorder := by
  induction ns with
  | nil => rfl
  | cons n ns ih => rw [preorderAll, ih, List.flatMap_cons]

/-- A preorder lists the nodes in the order of their places, each place once. -/
theorem inDocumentOrder_preorder :
    ∀ n : Node, InDocumentOrder (fun place m => n.at? place = some m) n.preorder
  | mk text operands => by
    have hbelow := InDocumentOrder.flatMap fun n (_ : n ∈ operands) => inDocumentOrder_preorder n
    rw [preorder, preorderAll_eq_flatMap]
    refine (hbelow.cons (mk text operands) ?_).congr fun _ _ => at?_mk_eq_some_iff.symm
    rintro place m ⟨i, n, rest, rfl, -⟩
    exact List.cons_ne_nil i rest

/-! ### The search -/

/-- Whether the first two of some operands have the same text. -/
def agree : List Node → Bool
  | left :: right :: _ => left.text = right.text
  | _ => false

mutual

/-- Whether a node of a tree is an `==` whose first two operands have the same text. -/
def search : Node → Bool
  | mk text operands => text = "==" && agree operands || searchAll operands

/-- Whether a node of some trees is an `==` whose first two operands have the same text. -/
def searchAll : List Node → Bool
  | [] => false
  | n :: ns => n.search || searchAll ns

end

theorem isEquality_eq (text : String) (operands : List Node) :
    (mk text operands).isEquality = (text = "==" && agree operands : Bool) := by
  rcases operands with _ | ⟨left, _ | ⟨right, rest⟩⟩ <;> rfl

mutual

theorem any_isEquality_preorder : ∀ n : Node, n.preorder.any isEquality = n.search
  | mk text operands => by
    rw [preorder, List.any_cons, isEquality_eq, any_isEquality_preorderAll operands, search]

theorem any_isEquality_preorderAll :
    ∀ ns : List Node, (preorderAll ns).any isEquality = searchAll ns
  | [] => rfl
  | n :: ns => by
    rw [preorderAll, List.any_append, any_isEquality_preorder n, any_isEquality_preorderAll ns,
      searchAll]

end

theorem holds_eq_search (n : Node) : n.holds = n.search := by
  rw [holds, walk_eq_preorder, any_isEquality_preorder]

end Node

/-- **The walk is recursion, and the test is a search.** Walking a tree with a stack lists its nodes
in preorder, which is the order of their places, and each place once. Whichever reader is used, a
condition holds exactly if the recursive search succeeds on the tree that the reader returns, and it
does not hold if there is no tree. -/
theorem walk_eq_preorder_and_holds_eq_search (n : Node) (r : Reader) (condition : String)
    (v : Variant) :
    n.walk = n.preorder ∧
      InDocumentOrder (fun place m => n.at? place = some m) n.walk ∧
      r.holds condition v = (r.tree? (substitute condition v)).elim false Node.search := by
  refine ⟨n.walk_eq_preorder, ?_, ?_⟩
  · rw [Node.walk_eq_preorder]
    exact n.inDocumentOrder_preorder
  · rw [Reader.holds]
    cases r.tree? (substitute condition v) with
    | none => rfl
    | some tree => exact tree.holds_eq_search

/-- An equality with one operand does not count, and it hides nothing behind it. -/
example : (Node.mk "or" [.mk "==" [.mk "a" []],
    .mk "==" [.mk "a" [], .mk "a" [], .mk "b" []]]).search = true := by decide

end Condition

end BuildDescriptor
