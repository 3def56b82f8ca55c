import BuildDescriptor.Condition.Truth
import BuildDescriptor.Proofs.Condition.Grammar
import BuildDescriptor.Proofs.Condition.Lexeme

/-!
# The text of a node tells its shape

Operators and literals share one kind of text in a tree. They are never confused: in the tree of a
condition a node whose text is an operator has the operands of that operator, and every other node
is a literal without operands.

## Main definitions

* `Condition.Node.Shaped` — a node whose operands are those that its text asks for

## Main results

* `Condition.shaped_of_derives` — every node of a derived tree is shaped
* `Condition.Node.Shaped.operands_eq_nil_iff` — literals are what has no operands
-/

namespace BuildDescriptor

namespace Condition

namespace Node

/-! ### The nodes of a tree -/

theorem mem_preorderAll {n : Node} {ns : List Node} :
    n ∈ preorderAll ns ↔ ∃ m ∈ ns, n ∈ m.preorder := by
  induction ns with
  | nil => simp [preorderAll]
  | cons m ns ih => simp [preorderAll, ih]

theorem mem_preorder_mk {n : Node} {text : String} {operands : List Node} :
    n ∈ (mk text operands).preorder ↔ n = mk text operands ∨ ∃ m ∈ operands, n ∈ m.preorder := by
  rw [preorder, List.mem_cons, mem_preorderAll]

theorem self_mem_preorder (n : Node) : n ∈ n.preorder := by
  cases n
  exact mem_preorder_mk.mpr (.inl rfl)

mutual

/-- The operands of the nodes of a tree are among its nodes. -/
theorem mem_preorder_of_mem_operands {m n : Node} (hm : m ∈ n.operands) :
    ∀ t : Node, n ∈ t.preorder → m ∈ t.preorder
  | mk text operands, hn => by
    rw [mem_preorder_mk] at hn ⊢
    rcases hn with rfl | hn
    · exact .inr ⟨m, hm, self_mem_preorder m⟩
    · rw [← mem_preorderAll] at hn ⊢
      exact .inr (mem_preorderAll_of_mem_operands hm operands hn)

theorem mem_preorderAll_of_mem_operands {m n : Node} (hm : m ∈ n.operands) :
    ∀ ts : List Node, n ∈ preorderAll ts → m ∈ preorderAll ts
  | [], hn => by simp [preorderAll] at hn
  | t :: ts, hn => by
    rw [preorderAll, List.mem_append] at hn ⊢
    rcases hn with hn | hn
    · exact .inl (mem_preorder_of_mem_operands hm t hn)
    · exact .inr (mem_preorderAll_of_mem_operands hm ts hn)

end

/-! ### The test on a node -/

theorem isEquality_mk (left right : Node) :
    (mk "==" [left, right]).isEquality = true ↔ left.text = right.text := by
  show (decide ("==" = "==") && decide (left.text = right.text)) = true ↔ _
  simp

theorem isEquality_leaf (text : String) : (mk text []).isEquality = false := by
  show (decide (text = "==") && false) = false
  rw [Bool.and_false]

theorem text_eq_of_isEquality {n : Node} (h : n.isEquality = true) : n.text = "==" := by
  rw [isEquality, Bool.and_eq_true] at h
  simpa using h.1

/-! ### Shapes -/

/-- A node whose operands are those that its text asks for. -/
inductive Shaped : Node → Prop
  | binary {op : Symbol} {n : Nat} (left right : Node) :
      op.strength? = some n → Shaped (mk op.text [left, right])
  | negation (n : Node) : Shaped (mk "!" [n])
  | call {name : String} (arguments : List Node) :
      IsName name → Shaped (mk "()" (mk name [] :: arguments))
  | literal {text : String} : IsLiteral text → Shaped (mk text [])

/-- Literals are what has no operands. -/
theorem Shaped.operands_eq_nil_iff {n : Node} (h : n.Shaped) :
    n.operands = [] ↔ IsLiteral n.text := by
  cases h with
  | @binary op _ left right _ =>
    exact ⟨fun h => absurd h (List.cons_ne_nil _ _),
      fun h : IsLiteral op.text => absurd rfl (h.ne_symbol_text op)⟩
  | negation n =>
    exact ⟨fun h => absurd h (List.cons_ne_nil _ _),
      fun h : IsLiteral "!" => absurd rfl (h.ne_symbol_text .bang)⟩
  | call arguments hname =>
    exact ⟨fun h => absurd h (List.cons_ne_nil _ _), fun h : IsLiteral "()" => absurd rfl h.ne_call⟩
  | literal htext => exact ⟨fun _ => htext, fun _ => rfl⟩

/-- The test for an equality finds its operator with both operands. -/
theorem Shaped.eq_of_text_eq {n : Node} (h : n.Shaped) (htext : n.text = "==") :
    ∃ left right, n = mk "==" [left, right] := by
  cases h with
  | @binary op _ left right _ =>
    have hop : op.text = "==" := htext
    exact ⟨left, right, by rw [hop]⟩
  | negation n => simp [text] at htext
  | call arguments hname => simp [text] at htext
  | literal hliteral => exact absurd htext (hliteral.ne_symbol_text .eq)

end Node

/-- Every node of the tree of lexemes is shaped, by induction on the derivation. -/
theorem shaped_of_derives {s : Stratum} {d : Nat} {ts : List Token} {t : Node}
    (h : Derives s d ts t) (hts : ∀ x ∈ ts, x.IsLexical) : ∀ n ∈ t.preorder, n.Shaped := by
  induction h with
  | tight _ ih => exact ih hts
  | @binary s op d ts t e us u hop _ _ iht ihu =>
    intro n hn
    rw [Node.mem_preorder_mk] at hn
    rcases hn with rfl | ⟨m, hm, hn⟩
    · exact .binary t u (Stratum.mem_operators_iff.mp hop)
    · obtain rfl | rfl : m = t ∨ m = u := by simpa using hm
      · exact iht (fun x hx => hts x (by simp [hx])) n hn
      · exact ihu (fun x hx => hts x (by simp [hx])) n hn
  | @negation d ts t _ ih =>
    intro n hn
    rw [Node.mem_preorder_mk] at hn
    rcases hn with rfl | ⟨m, hm, hn⟩
    · exact .negation t
    · obtain rfl : m = t := by simpa using hm
      exact ih (fun x hx => hts x (by simp [hx])) n hn
  | parentheses _ ih => exact ih fun x hx => hts x (by simp [hx])
  | quoted text =>
    intro n hn
    obtain rfl : n = .mk text [] := by simpa [Node.mem_preorder_mk] using hn
    exact .literal (.inr (hts (.quoted text) (by simp)))
  | name text =>
    intro n hn
    obtain rfl : n = .mk text [] := by simpa [Node.mem_preorder_mk] using hn
    exact .literal (.inl (hts (.name text) (by simp)))
  | call name args _ ih =>
    have hname : IsName name := hts (.name name) (by simp)
    intro n hn
    rw [Node.mem_preorder_mk] at hn
    rcases hn with rfl | ⟨m, hm, hn⟩
    · exact .call _ hname
    · rcases List.mem_cons.mp hm with rfl | hm
      · obtain rfl : n = .mk name [] := by simpa [Node.mem_preorder_mk] using hn
        exact .literal (.inl hname)
      · obtain ⟨a, ha, rfl⟩ := List.mem_map.mp hm
        refine ih a ha (fun x hx => hts x ?_) n hn
        have := mem_argumentTokens ha hx
        simp [this]

end Condition

end BuildDescriptor
