/-!
# Expression trees

A node of a condition's tree has a text and operands. Operators carry the operator, a call carries
`()` with the name as its first operand, and literals carry the text they were written with,
including quotes. Texts and numbers of operands are arbitrary in the type: a tree may also come
from a reader other than the one in this library.

## Main definitions

* `Condition.Node`
* `Condition.Node.walk` — the nodes of a tree, with an explicit stack of what is still to visit
* `Condition.Node.preorder` — the same list, by recursion on the tree

## Main results

* `Condition.Node.walk_eq_preorder`
-/

namespace BuildDescriptor

namespace Condition

/-- A node of an expression tree, with the trees of its operands. -/
inductive Node
  | mk (text : String) (operands : List Node)
deriving Repr, Inhabited

namespace Node

/-- The text of a node. -/
def text : Node → String
  | mk text _ => text

/-- The operands of a node, in order. -/
def operands : Node → List Node
  | mk _ operands => operands

/-- The first operand, if there is one. -/
def operand1? (n : Node) : Option Node := n.operands[0]?

/-- The second operand, if there is one. -/
def operand2? (n : Node) : Option Node := n.operands[1]?

mutual

/-- The number of nodes of a tree. -/
def size : Node → Nat
  | mk _ operands => 1 + sizeAll operands

/-- The number of nodes of a list of trees. -/
def sizeAll : List Node → Nat
  | [] => 0
  | n :: ns => n.size + sizeAll ns

end

mutual

/-- A node, then its operands' nodes from left to right. -/
def preorder : Node → List Node
  | mk text operands => mk text operands :: preorderAll operands

/-- The preorders of a list of trees, one after another. -/
def preorderAll : List Node → List Node
  | [] => []
  | n :: ns => n.preorder ++ preorderAll ns

end

theorem sizeAll_append (ms ns : List Node) : sizeAll (ms ++ ns) = sizeAll ms + sizeAll ns := by
  induction ms with
  | nil => simp [sizeAll]
  | cons m ms ih =>
    rw [List.cons_append, sizeAll, sizeAll, ih]
    omega

theorem preorderAll_append (ms ns : List Node) :
    preorderAll (ms ++ ns) = preorderAll ms ++ preorderAll ns := by
  induction ms with
  | nil => simp [preorderAll]
  | cons m ms ih => rw [List.cons_append, preorderAll, preorderAll, ih, List.append_assoc]

/-- Visit the nodes on a stack: the top node comes first, and its operands take its place. -/
def walkStack : List Node → List Node
  | [] => []
  | mk text operands :: stack => mk text operands :: walkStack (operands ++ stack)
termination_by stack => sizeAll stack
decreasing_by
  simp only [sizeAll, size, sizeAll_append]
  omega

/-- All nodes of a tree, a node before its operands. -/
def walk (n : Node) : List Node := walkStack [n]

theorem walkStack_eq_preorderAll (stack : List Node) : walkStack stack = preorderAll stack := by
  fun_induction walkStack stack with
  | case1 => rfl
  | case2 text operands stack ih => rw [ih, preorderAll_append, preorderAll, preorder]; rfl

theorem walk_eq_preorder (n : Node) : n.walk = n.preorder := by
  rw [walk, walkStack_eq_preorderAll, preorderAll, preorderAll, List.append_nil]

end Node

end Condition

end BuildDescriptor
