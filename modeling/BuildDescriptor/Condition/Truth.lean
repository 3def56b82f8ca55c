import BuildDescriptor.Condition.Parser
import BuildDescriptor.Condition.Reference
import BuildDescriptor.Notice

/-!
# When a condition holds

Only equality is understood. A condition holds for a variant if its tree, read after substitution,
has an `==` node anywhere whose two operands carry the same text. Other operators are read and then
ignored, so a compound condition holds as soon as one equality in it does, even under a negation.
A text that cannot be read does not hold.

## Readers and rules

How a text becomes a tree is a parameter. `Condition.Reader.standard` is the parser of this library;
any other function from texts to trees will do, and may leave remarks. What uses conditions does not
even ask how it is told whether they hold: it takes any `Condition.Rule`, of which a reader makes
one.

## Main definitions

* `Condition.Node.isEquality`, `Condition.Node.holds` — the test on a node, on a tree
* `Condition.Reader`, `Condition.Reader.standard` — how a text becomes a tree
* `Condition.Reader.holds` — the test on a text
* `Condition.Rule`, `Condition.Rule.standard` — when conditions hold
-/

namespace BuildDescriptor

namespace Condition

/-- A node that compares two equal texts. -/
def Node.isEquality (n : Node) : Bool :=
  n.text = "==" &&
    match n.operand1?, n.operand2? with
    | some left, some right => left.text = right.text
    | _, _ => false

/-- Whether some node of a tree compares two equal texts. -/
def Node.holds (n : Node) : Bool := n.walk.any Node.isEquality

/-- A way to read a text as a tree. -/
structure Reader where
  tree? : String → Option Node
  /-- What there is to be said about a text. -/
  remarks : String → List Notice := fun _ => []

namespace Reader

/-- The reader for conditions as this library parses them. -/
def standard : Reader where
  tree? text := (parse text).toOption
  remarks text :=
    match parse text with
    | .ok _ => []
    | .error e => [.conditionRejected text e]

/-- Whether a condition holds for a variant. -/
def holds (r : Reader) (condition : String) (v : Variant) : Bool :=
  match r.tree? (substitute condition v) with
  | some n => n.holds
  | none => false

end Reader

/-- A rule for when a condition holds. -/
structure Rule where
  holds : String → Variant → Bool
  /-- What there is to be said about a condition. -/
  remarks : String → Variant → List Notice := fun _ _ => []

/-- The rule that a reader makes. -/
def Reader.rule (r : Reader) : Rule where
  holds := r.holds
  remarks condition v := r.remarks (substitute condition v)

instance : Coe Reader Rule := ⟨Reader.rule⟩

/-- The rule for conditions as this library reads them. -/
def Rule.standard : Rule := Reader.standard.rule

theorem Rule.holds_standard (condition : String) (v : Variant) :
    Rule.standard.holds condition v = Reader.standard.holds condition v := rfl

end Condition

end BuildDescriptor
