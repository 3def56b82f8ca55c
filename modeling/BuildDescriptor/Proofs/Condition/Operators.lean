import BuildDescriptor.Proofs.Condition.Equality
import BuildDescriptor.Proofs.Condition.Walk
import Mathlib.Data.List.Perm.Basic

/-!
# Operators and literals in a tree

The nodes of a tree have a text and nothing else to say what they are. So an operator is told from
a literal by its text, and the test for a condition looks for the text `==`.

This is sound in the tree of a text. A quoted string keeps its quotes there, a name has no
character of an operator in it, and the two words that are operators are never names. Whatever a
literal says, its text is not that of an operator; and the text of a node tells how many operands
it has.

No node is missing and there is none too many: each lexeme leaves one node with its text,
parentheses and commas apart, and besides these there are only the nodes of the calls. So the nodes
with the text `==` are the equalities that were written, each with its two operands.

## Main definitions

* `Condition.binaryTexts` — the operators with two operands
* `Condition.Node.FitsText` — a node with the operands that its text asks for
* `Condition.spoken`, `Condition.shown` — the texts of lexemes, and of nodes

## Main results

* `Condition.shown_perm_spoken` — the lexemes and the nodes have the same texts
* `Condition.countP_text_eq_count` — operators are counted by the texts of nodes
* `Condition.fitsText_of_parse` — in the tree of a text, the text of a node says what it is
-/

namespace BuildDescriptor

namespace Condition

variable {s : Stratum} {d : Nat} {ts : List Token} {t n : Node} {op : Symbol} {text : String}

/-- The texts of the operators with two operands. -/
def binaryTexts : List String := ["==", "!=", "<", "<=", ">", ">=", "and", "or"]

/-- A node with the operands that its text asks for. -/
structure Node.FitsText (n : Node) : Prop where
  /-- A comparison, an `and` and an `or` have two operands. -/
  binary : n.text ∈ binaryTexts → ∃ left right, n.operands = [left, right]
  /-- A negation has one. -/
  negation : n.text = "!" → ∃ operand, n.operands = [operand]
  /-- A call has its name, which is a literal, and then its arguments. -/
  call : n.text = "()" → ∃ name arguments, n.operands = .mk name [] :: arguments ∧ IsName name
  /-- Every other node is a literal. -/
  literal : n.text ∉ binaryTexts → n.text ≠ "!" → n.text ≠ "()" →
    n.operands = [] ∧ (IsQuoted n.text ∨ IsName n.text)

/-! ### Texts of operators -/

theorem mem_binaryTexts (h : op.strength? ≠ none) : op.text ∈ binaryTexts := by
  cases op with
  | eq | ne | le | ge | lt | gt | and | or => decide
  | bang | lparen | rparen | comma => exact absurd rfl h

theorem exists_symbol_of_mem_binaryTexts (h : text ∈ binaryTexts) :
    ∃ op : Symbol, text = op.text := by
  simp only [binaryTexts, List.mem_cons, List.not_mem_nil, or_false] at h
  rcases h with rfl | rfl | rfl | rfl | rfl | rfl | rfl | rfl
  exacts [⟨.eq, rfl⟩, ⟨.ne, rfl⟩, ⟨.lt, rfl⟩, ⟨.le, rfl⟩, ⟨.gt, rfl⟩, ⟨.ge, rfl⟩, ⟨.and, rfl⟩,
    ⟨.or, rfl⟩]

theorem Symbol.text_ne_call (op : Symbol) : op.text ≠ "()" := by
  cases op <;> decide

theorem IsLiteral.not_mem_binaryTexts (h : IsLiteral text) : text ∉ binaryTexts := by
  intro hmem
  obtain ⟨op, rfl⟩ := exists_symbol_of_mem_binaryTexts hmem
  exact h.ne_symbol_text op rfl

/-- A shaped node has the operands that its text asks for. -/
theorem Node.Shaped.fitsText (h : n.Shaped) : n.FitsText := by
  cases h with
  | @binary op m left right hop =>
    have hmem : op.text ∈ binaryTexts := mem_binaryTexts (by simp [hop])
    have hbang : op.text ≠ "!" := by
      intro h
      rw [h] at hmem
      exact absurd hmem (by decide)
    exact {
      binary := fun _ => ⟨left, right, rfl⟩
      negation := fun h => absurd h hbang
      call := fun h => absurd h op.text_ne_call
      literal := fun h => absurd hmem h }
  | negation m =>
    exact {
      binary := fun h => absurd h (show "!" ∉ binaryTexts by decide)
      negation := fun _ => ⟨m, rfl⟩
      call := fun h => absurd h (show "!" ≠ "()" by decide)
      literal := fun _ h => absurd rfl h }
  | @call name arguments hname =>
    exact {
      binary := fun h => absurd h (show "()" ∉ binaryTexts by decide)
      negation := fun h => absurd h (show "()" ≠ "!" by decide)
      call := fun _ => ⟨name, arguments, rfl, hname⟩
      literal := fun _ _ h => absurd rfl h }
  | literal htext =>
    exact {
      binary := fun h => absurd h htext.not_mem_binaryTexts
      negation := fun h => absurd h (htext.ne_symbol_text .bang)
      call := fun h => absurd h htext.ne_call
      literal := fun _ _ _ => ⟨rfl, htext.symm⟩ }

/-! ### One node for each lexeme -/

/-- A lexeme that leaves a node. Parentheses and commas leave none. -/
def Token.leavesNode : Token → Bool
  | symbol .lparen | symbol .rparen | symbol .comma => false
  | _ => true

/-- The texts of the lexemes that leave a node. -/
def spoken (ts : List Token) : List String := (ts.filter Token.leavesNode).map Token.text

/-- The texts of the nodes that are no calls. -/
def shown (ns : List Node) : List String := (ns.map Node.text).filter (· ≠ "()")

@[simp]
theorem spoken_nil : spoken [] = [] := rfl

theorem spoken_append (ts us : List Token) : spoken (ts ++ us) = spoken ts ++ spoken us := by
  rw [spoken, List.filter_append, List.map_append]
  rfl

theorem spoken_cons {x : Token} (h : x.leavesNode = true) (ts : List Token) :
    spoken (x :: ts) = x.text :: spoken ts := by
  rw [spoken, List.filter_cons_of_pos h, List.map_cons]
  rfl

theorem spoken_cons_of_not {x : Token} (h : x.leavesNode = false) (ts : List Token) :
    spoken (x :: ts) = spoken ts := by
  rw [spoken, List.filter_cons_of_neg (by simp [h])]
  rfl

theorem shown_append (ns ms : List Node) : shown (ns ++ ms) = shown ns ++ shown ms := by
  rw [shown, List.map_append, List.filter_append]
  rfl

theorem shown_preorder {operands : List Node} (h : text ≠ "()") :
    shown (Node.mk text operands).preorder = text :: shown (Node.preorderAll operands) := by
  rw [Node.preorder, shown, List.map_cons, List.filter_cons_of_pos]
  · rfl
  · exact decide_eq_true h

theorem shown_preorder_call (operands : List Node) :
    shown (Node.mk "()" operands).preorder = shown (Node.preorderAll operands) := by
  rw [Node.preorder, shown, List.map_cons, List.filter_cons_of_neg]
  · rfl
  · simp [Node.text]

theorem shown_preorderAll (ns : List Node) :
    shown (Node.preorderAll ns) = ns.flatMap fun n => shown n.preorder := by
  induction ns with
  | nil => rfl
  | cons n ns ih => rw [Node.preorderAll, shown_append, ih, List.flatMap_cons]

/-- Commas leave no node. -/
theorem spoken_argumentTokens (args : List Argument) :
    spoken (argumentTokens args) = args.flatMap fun a => spoken a.tokens := by
  have hmore (args : List Argument) :
      spoken (args.flatMap fun b => .symbol .comma :: b.tokens) =
        args.flatMap fun a => spoken a.tokens := by
    induction args with
    | nil => rfl
    | cons a args ih =>
      rw [List.flatMap_cons, spoken_append, spoken_cons_of_not rfl, ih, List.flatMap_cons]
  cases args with
  | nil => rfl
  | cons a args => rw [argumentTokens, spoken_append, hmore, List.flatMap_cons]

theorem leavesNode_of_mem_operators (h : op ∈ s.operators) :
    (Token.symbol op).leavesNode = true := by
  have hop := Stratum.mem_operators_iff.mp h
  cases op with
  | lparen | rparen | comma => cases hop
  | eq | ne | le | ge | lt | gt | bang | and | or => rfl

/-- **The lexemes and the nodes have the same texts.** By induction on the derivation. An operator
comes before its operands in the tree and between them in the text, so the order is not the same. -/
theorem shown_perm_spoken (h : Derives s d ts t) (hts : ∀ x ∈ ts, x.IsLexical) :
    (shown t.preorder).Perm (spoken ts) := by
  induction h with
  | tight _ ih => exact ih hts
  | @binary s op d ts t e us u hop _ _ iht ihu =>
    have ht := iht fun x hx => hts x (by simp [hx])
    have hu := ihu fun x hx => hts x (by simp [hx])
    rw [shown_preorder op.text_ne_call, Node.preorderAll, Node.preorderAll, Node.preorderAll,
      List.append_nil, shown_append, spoken_append, spoken_cons (leavesNode_of_mem_operators hop)]
    exact ((ht.append hu).cons _).trans List.perm_middle.symm
  | @negation d ts t _ ih =>
    have ht := ih fun x hx => hts x (by simp [hx])
    rw [shown_preorder (by decide), spoken_cons rfl, Node.preorderAll, Node.preorderAll,
      List.append_nil]
    exact ht.cons _
  | @parentheses d ts t _ ih =>
    have ht := ih fun x hx => hts x (by simp [hx])
    rw [spoken_cons_of_not rfl, spoken_append, spoken_cons_of_not rfl, spoken_nil, List.append_nil]
    exact ht
  | quoted text =>
    have htext : IsLiteral text := .inr (hts (.quoted text) (by simp))
    rw [shown_preorder htext.ne_call, spoken_cons rfl]
    exact .refl _
  | name text =>
    have htext : IsLiteral text := .inl (hts (.name text) (by simp))
    rw [shown_preorder htext.ne_call, spoken_cons rfl]
    exact .refl _
  | call name args _ ih =>
    have hname : IsLiteral name := .inl (hts (.name name) (by simp))
    have hargs : ∀ a ∈ args, (shown a.tree.preorder).Perm (spoken a.tokens) := by
      intro a ha
      refine ih a ha fun x hx => hts x ?_
      simp [mem_argumentTokens ha hx]
    have hleaf : shown (Node.mk name []).preorder = [name] := shown_preorder hname.ne_call
    have hcall : spoken (.name name :: .symbol .lparen ::
        (argumentTokens args ++ [.symbol .rparen])) =
          name :: args.flatMap fun a => spoken a.tokens := by
      rw [spoken_cons rfl, spoken_cons_of_not rfl, spoken_append, spoken_cons_of_not rfl,
        spoken_nil, List.append_nil, spoken_argumentTokens]
      rfl
    rw [shown_preorder_call, Node.preorderAll, shown_append, hleaf, shown_preorderAll,
      List.flatMap_map, hcall]
    exact (List.Perm.flatMap_left args hargs).cons _

/-! ### Equalities -/

/-- A lexeme has the text of an operator only if it is that operator. -/
theorem Token.IsLexical.text_eq_iff {x : Token} (h : x.IsLexical) :
    x.text = op.text ↔ x = .symbol op := by
  constructor
  · intro htext
    cases x with
    | quoted text => exact absurd htext ((show IsLiteral text from .inr h).ne_symbol_text op)
    | name text => exact absurd htext ((show IsLiteral text from .inl h).ne_symbol_text op)
    | symbol op' =>
      cases op' <;> cases op <;> first | rfl | exact absurd htext (by decide)
  · rintro rfl
    rfl

/-- **Operators are counted by their texts.** There are as many nodes with the text of an operator
as that operator was written. -/
theorem countP_text_eq_count (h : Derives s d ts t) (hts : ∀ x ∈ ts, x.IsLexical)
    (hop : (Token.symbol op).leavesNode = true) :
    t.preorder.countP (fun n => n.text = op.text) = ts.count (.symbol op) := by
  have hcall : decide (op.text ≠ "()") = true := decide_eq_true op.text_ne_call
  calc t.preorder.countP (fun n => n.text = op.text)
      = (t.preorder.map Node.text).count op.text := by
        rw [List.count, List.countP_map]
        rfl
    _ = (shown t.preorder).count op.text :=
        (List.count_filter (p := fun s => decide (s ≠ "()")) hcall).symm
    _ = (spoken ts).count op.text := (shown_perm_spoken h hts).count_eq _
    _ = ts.countP fun x => x.text == op.text && x.leavesNode := by
        rw [spoken, List.count, List.countP_map, List.countP_filter]
        rfl
    _ = ts.count (.symbol op) := by
        refine List.countP_congr fun x hx => ?_
        rw [Bool.and_eq_true, beq_iff_eq, beq_iff_eq, (hts x hx).text_eq_iff]
        exact ⟨And.left, fun h => ⟨h, h ▸ hop⟩⟩

/-- **The text of a node says what it is.** In the tree of a condition every node has the operands
that its text asks for. No string and no name of the condition has the text of an operator. Each
lexeme but parentheses and commas leaves one node with its text, and calls apart there are no more;
so the nodes with the text of an operator are as many as were written. The test for a condition
finds both operands at each `==`. -/
theorem fitsText_of_parse (h : parse text = .ok t) :
    (∀ n ∈ t.walk, n.FitsText) ∧
      (∀ n ∈ t.walk, n.text = "==" → ∃ left right, n = .mk "==" [left, right] ∧
        (n.isEquality = true ↔ left.text = right.text)) ∧
      ∃ ts, tokenize text = .ok ts ∧
        (∀ literal, .quoted literal ∈ ts ∨ .name literal ∈ ts →
          literal ≠ "()" ∧ ∀ op : Symbol, literal ≠ op.text) ∧
        (shown t.walk).Perm (spoken ts) ∧
        ∀ op : Symbol, (Token.symbol op).leavesNode = true →
          t.walk.countP (fun n => n.text = op.text) = ts.count (.symbol op) := by
  have hshaped := shaped_of_parse h
  rw [Node.walk_eq_preorder]
  rw [parse, bind_eq_ok] at h
  obtain ⟨ts, hts, ht⟩ := h
  obtain ⟨d, -, hd⟩ := parseTokens_eq_ok_iff.mp ht
  have hlexical := isLexical_of_tokenize hts
  refine ⟨fun n hn => (hshaped n hn).fitsText, ?_, ts, hts, ?_, shown_perm_spoken hd hlexical,
    fun op hop => countP_text_eq_count hd hlexical hop⟩
  · intro n hn htext
    obtain ⟨left, right, rfl⟩ := (hshaped n hn).eq_of_text_eq htext
    exact ⟨left, right, rfl, Node.isEquality_mk left right⟩
  · intro literal hmem
    have hliteral : IsLiteral literal := by
      rcases hmem with hmem | hmem
      · exact .inr (hlexical _ hmem)
      · exact .inl (hlexical _ hmem)
    exact ⟨hliteral.ne_call, hliteral.ne_symbol_text⟩

/-- One of the two texts `==` in this condition is a literal. -/
theorem fitsText_of_parse_sample :
    parse "!('==' != \"and\") == '()'" = .ok (.mk "==" [.mk "!" [.mk "!=" [.mk "'=='" [],
        .mk "\"and\"" []]], .mk "'()'" []]) ∧
      ∃ ts, tokenize "!('==' != \"and\") == '()'" = .ok ts ∧ ts.count (.symbol .eq) = 1 := by
  have hparse : parse "!('==' != \"and\") == '()'" = .ok (.mk "==" [.mk "!" [.mk "!="
      [.mk "'=='" [], .mk "\"and\"" []]], .mk "'()'" []]) := by
    cbv
  obtain ⟨-, -, ts, hts, -, -, hcount⟩ := fitsText_of_parse hparse
  refine ⟨hparse, ts, hts, ?_⟩
  rw [← hcount .eq rfl, Node.walk_eq_preorder]
  decide

end Condition

end BuildDescriptor
