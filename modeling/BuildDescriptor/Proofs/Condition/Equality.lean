import BuildDescriptor.Proofs.Condition.Derivation
import BuildDescriptor.Proofs.Condition.Shape
import BuildDescriptor.Proofs.Condition.Substitution

/-!
# Which equalities make a condition true

An equality is meant to compare literals. The test on a node compares the texts of its two operands,
whatever they are, and the text of a compound operand is its operator alone. So two negations are
equal, and so are two calls, whatever they negate or call.

This is the only way in which the test goes wrong. A literal and a compound operand never have the
same text, so every equality that counts compares two literals that are the same, or two compound
operands whose operators are.

## Main definitions

* `Condition.Node.ComparesLiterals` — an equality of two literals that are the same
* `Condition.Node.ComparesOperators` — an equality of two compound operands with one operator

## Main results

* `Condition.Node.holds_iff` — the test, on the tree of a condition
* `Condition.literals_decide_iff` — when the test on a condition depends on its literals only
* `Condition.negations_compare_equal` — a condition for which it does not
-/

namespace BuildDescriptor

namespace Condition

/-- Some equality compares two literals that are the same. -/
def Node.ComparesLiterals (t : Node) : Prop :=
  ∃ left right, Node.mk "==" [left, right] ∈ t.walk ∧ left.operands = [] ∧ right.operands = [] ∧
    left.text = right.text

/-- Some equality compares two compound operands whose outermost operators are the same. -/
def Node.ComparesOperators (t : Node) : Prop :=
  ∃ left right, Node.mk "==" [left, right] ∈ t.walk ∧ left.operands ≠ [] ∧ right.operands ≠ [] ∧
    left.text = right.text

/-- The nodes of the tree of a text are shaped. -/
theorem shaped_of_parse {text : String} {t : Node} (h : parse text = .ok t) :
    ∀ n ∈ t.preorder, n.Shaped := by
  rw [parse, bind_eq_ok] at h
  obtain ⟨ts, hts, ht⟩ := h
  obtain ⟨d, -, hd⟩ := parseTokens_eq_ok_iff.mp ht
  exact shaped_of_derives hd (isLexical_of_tokenize hts)

/-- On a tree of shaped nodes the test finds literals that are the same, or operators that are. -/
theorem Node.holds_iff {t : Node} (ht : ∀ n ∈ t.preorder, n.Shaped) :
    t.holds = true ↔ t.ComparesLiterals ∨ t.ComparesOperators := by
  rw [Node.holds, List.any_eq_true, Node.ComparesLiterals, Node.ComparesOperators,
    Node.walk_eq_preorder]
  constructor
  · rintro ⟨n, hn, hequal⟩
    obtain ⟨left, right, rfl⟩ := (ht n hn).eq_of_text_eq (Node.text_eq_of_isEquality hequal)
    have htext : left.text = right.text := (Node.isEquality_mk left right).mp hequal
    have hleft : left.Shaped :=
      ht _ (Node.mem_preorder_of_mem_operands (List.mem_cons_self ..) _ hn)
    have hright : right.Shaped :=
      ht _ (Node.mem_preorder_of_mem_operands (List.mem_cons_of_mem _ (List.mem_cons_self ..)) _ hn)
    -- equal texts: both are literals or neither is
    have hiff : left.operands = [] ↔ right.operands = [] := by
      rw [hleft.operands_eq_nil_iff, hright.operands_eq_nil_iff, htext]
    by_cases hnil : left.operands = []
    · exact .inl ⟨left, right, hn, hnil, hiff.mp hnil, htext⟩
    · exact .inr ⟨left, right, hn, hnil, fun h => hnil (hiff.mpr h), htext⟩
  · rintro (⟨left, right, hn, -, -, htext⟩ | ⟨left, right, hn, -, -, htext⟩)
    · exact ⟨_, hn, (Node.isEquality_mk left right).mpr htext⟩
    · exact ⟨_, hn, (Node.isEquality_mk left right).mpr htext⟩

/-- **What a condition depends on.** A condition holds exactly if an equality in its tree compares
two literals that are the same, or two compound operands that have the same operator. So its
literals alone decide exactly if the second kind comes only together with the first. -/
theorem literals_decide_iff (condition : String) (v : Variant) :
    (Reader.standard.holds condition v = true ↔
        ∃ t, parse (substitute condition v) = .ok t ∧
          (t.ComparesLiterals ∨ t.ComparesOperators)) ∧
      ((Reader.standard.holds condition v = true ↔
          ∃ t, parse (substitute condition v) = .ok t ∧ t.ComparesLiterals) ↔
        ∀ t, parse (substitute condition v) = .ok t → t.ComparesOperators →
          t.ComparesLiterals) := by
  have hholds : Reader.standard.holds condition v = true ↔
      ∃ t, parse (substitute condition v) = .ok t ∧
        (t.ComparesLiterals ∨ t.ComparesOperators) := by
    rw [standard_holds_iff]
    exact exists_congr fun t => and_congr_right fun ht => Node.holds_iff (shaped_of_parse ht)
  refine ⟨hholds, ?_⟩
  rw [hholds]
  constructor
  · intro h t ht hoperators
    obtain ⟨u, hu, hliterals⟩ := h.mp ⟨t, ht, .inr hoperators⟩
    obtain rfl : t = u := Except.ok.inj (ht.symm.trans hu)
    exact hliterals
  · intro h
    refine exists_congr fun t => and_congr_right fun ht => ⟨?_, .inl⟩
    rintro (hliterals | hoperators)
    · exact hliterals
    · exact h t ht hoperators

/-- The negations of two different literals count as the same. -/
theorem negations_compare_equal :
    Reader.standard.holds "!'a'==!'b'" ⟨"", ""⟩ = true ∧
      ¬ ∃ t, parse (substitute "!'a'==!'b'" ⟨"", ""⟩) = .ok t ∧ t.ComparesLiterals := by
  have hparse : parse (substitute "!'a'==!'b'" ⟨"", ""⟩) =
      .ok (.mk "==" [.mk "!" [.mk "'a'" []], .mk "!" [.mk "'b'" []]]) := by
    rw [substitute, substituteChars_eq_self (not_infix_of_not_mem_dollar (by decide))]
    cbv
  refine ⟨standard_holds_iff.mpr ⟨_, hparse, ?_⟩, ?_⟩
  · rw [Node.holds, Node.walk_eq_preorder]
    decide
  · rintro ⟨t, ht, left, right, hmem, hleft, -, -⟩
    obtain rfl := Except.ok.inj (hparse.symm.trans ht)
    rw [Node.walk_eq_preorder] at hmem
    simp [Node.preorder, Node.preorderAll] at hmem
    obtain ⟨rfl, rfl⟩ := hmem
    simp [Node.operands] at hleft

end Condition

end BuildDescriptor
