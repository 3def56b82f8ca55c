import BuildDescriptor.Proofs.Condition.Derivation
import BuildDescriptor.Proofs.Condition.Lexing
import BuildDescriptor.Proofs.Condition.Shape
import BuildDescriptor.Proofs.Condition.Template

/-!
# An equality of two quoted texts

The condition that guards a group of options compares two texts in apostrophes, as in
`'$(Configuration)|$(Platform)'=='Debug|Win32'`. Between apostrophes nothing has a meaning but the
references and the apostrophe itself. So whatever the values of the variant are, as long as they
have no apostrophe, the condition holds exactly if the two texts are the same once the references
are replaced.

## Main definitions

* `Condition.quotedEquality` — the condition, with blanks between its lexemes

## Main results

* `Condition.holds_quotedEquality_iff`
* `Condition.holds_iff_substitute_eq` — the same for strings, and for the usual condition
-/

namespace BuildDescriptor

namespace Condition

variable {total : Nat} {cs rest : List Char}

/-! ### Strings -/

/-- A text in apostrophes. -/
def apostrophes (cs : List Char) : List Char := '\'' :: (cs ++ ['\''])

theorem lexeme_apostrophes (h : '\'' ∉ cs) (rest : List Char) :
    lexeme (apostrophes cs ++ rest) =
      some (.quoted (String.ofList (apostrophes cs)), rest) := by
  have hquoted : lexeme (apostrophes cs ++ rest) = quotedFrom '\'' (cs ++ '\'' :: rest) := by
    simp [apostrophes, lexeme]
  rw [hquoted, quotedFrom_append_quote h]
  rfl

/-! ### The condition -/

/-- Two texts in apostrophes with an equality sign between them, and blanks around all three. -/
def quotedEquality (before left right after : List Char) (l r : List Char) : List Char :=
  before ++ (apostrophes l ++ (left ++ ('=' :: '=' :: (right ++ (apostrophes r ++ after)))))

variable {before left right after l r : List Char} {v : Variant}

theorem not_mem_apostrophe_reference (a : Axis) : '\'' ∉ a.reference.toList := by
  cases a <;> decide

theorem dollar_not_mem_of_blanks (h : Blanks cs) : '$' ∉ cs := fun hmem =>
  absurd (h '$' hmem) (by decide)

/-- No apostrophe comes from anywhere but the text and the values. -/
theorem apostrophe_not_mem_substituteChars (hv : ∀ a, '\'' ∉ (v.value a).toList)
    (h : '\'' ∉ cs) : '\'' ∉ substituteChars v cs := by
  fun_induction substituteChars v cs with
  | case1 => exact h
  | case2 c cs a rest href ih =>
    rw [eq_append_of_reference? href, List.mem_append, not_or] at h
    rw [List.mem_append, not_or]
    exact ⟨hv a, ih h.2⟩
  | case3 c cs _ ih =>
    rw [List.mem_cons, not_or] at h ⊢
    exact ⟨h.1, ih h.2⟩

/-- The references in the two texts are replaced, and nothing else is. -/
theorem substituteChars_quotedEquality (hbefore : Blanks before) (hleft : Blanks left)
    (hright : Blanks right) (hafter : Blanks after) :
    substituteChars v (quotedEquality before left right after l r) =
      quotedEquality before left right after (substituteChars v l) (substituteChars v r) := by
  have hself : ∀ {cs : List Char}, '$' ∉ cs → substituteChars v cs = cs := fun h =>
    substituteChars_eq_self (not_infix_of_not_mem_dollar h)
  have hsign : '$' ∉ left ++ '=' :: '=' :: right := by
    simp [dollar_not_mem_of_blanks hleft, dollar_not_mem_of_blanks hright]
  -- cut at the four apostrophes
  have hcut : ∀ l r : List Char, quotedEquality before left right after l r =
      before ++ '\'' :: (l ++ '\'' :: ((left ++ '=' :: '=' :: right) ++
        '\'' :: (r ++ '\'' :: after))) := by
    simp [quotedEquality, apostrophes]
  rw [hcut, hcut]
  simp only [substituteChars_append_cons not_mem_apostrophe_reference,
    hself (dollar_not_mem_of_blanks hbefore), hself hsign, hself (dollar_not_mem_of_blanks hafter)]

theorem tokensOf_quotedEquality (hbefore : Blanks before) (hleft : Blanks left)
    (hright : Blanks right) (hafter : Blanks after) (hl : '\'' ∉ l) (hr : '\'' ∉ r) :
    tokensOf total (quotedEquality before left right after l r) =
      .ok [.quoted (String.ofList (apostrophes l)), .symbol .eq,
        .quoted (String.ofList (apostrophes r))] := by
  have hsign : ∀ cs : List Char, lexeme ('=' :: '=' :: cs) = some (.symbol .eq, cs) := fun _ => rfl
  rw [quotedEquality, tokensOf_lexeme hbefore (lexeme_apostrophes hl _),
    tokensOf_lexeme hleft (hsign _), tokensOf_lexeme hright (lexeme_apostrophes hr _),
    tokensOf_blanks hafter]
  rfl

theorem parseTokens_equality (a b : String) :
    parseTokens [.quoted a, .symbol .eq, .quoted b] = .ok (.mk "==" [.mk a [], .mk b []]) :=
  parseTokens_eq_ok_iff.mpr ⟨1, by decide,
    .tight (.tight (.binary (show Symbol.eq ∈ Stratum.comparison.operators by decide)
      (.tight (.quoted a)) (.quoted b)))⟩

theorem holds_equality_iff (a b : String) :
    (Node.mk "==" [.mk a [], .mk b []]).holds = true ↔ a = b := by
  have hpreorder : (Node.mk "==" [.mk a [], .mk b []]).preorder =
      [.mk "==" [.mk a [], .mk b []], .mk a [], .mk b []] := rfl
  rw [Node.holds, Node.walk_eq_preorder, hpreorder]
  simp [Node.isEquality_mk, Node.isEquality_leaf, Node.text]

theorem apostrophes_injective : Function.Injective apostrophes := by
  intro as bs h
  rw [apostrophes, apostrophes, List.cons.injEq] at h
  exact List.append_cancel_right h.2

/-- **Comparing two quoted texts.** Whatever stands between the apostrophes is text. -/
theorem holds_quotedEquality_iff (hbefore : Blanks before) (hleft : Blanks left)
    (hright : Blanks right) (hafter : Blanks after) (hv : ∀ a, '\'' ∉ (v.value a).toList)
    (hl : '\'' ∉ l) (hr : '\'' ∉ r) :
    Reader.standard.holds (String.ofList (quotedEquality before left right after l r)) v = true ↔
      substituteChars v l = substituteChars v r := by
  have htokens : parse (substitute (String.ofList (quotedEquality before left right after l r)) v) =
      .ok (.mk "==" [.mk (String.ofList (apostrophes (substituteChars v l))) [],
        .mk (String.ofList (apostrophes (substituteChars v r))) []]) := by
    rw [substitute, String.toList_ofList,
      substituteChars_quotedEquality hbefore hleft hright hafter, parse, tokenize,
      String.toList_ofList, tokensOf_quotedEquality hbefore hleft hright hafter
        (apostrophe_not_mem_substituteChars hv hl) (apostrophe_not_mem_substituteChars hv hr),
      ok_bind, parseTokens_equality]
  rw [standard_holds_iff, htokens]
  simp only [Except.ok.injEq, exists_eq_left', holds_equality_iff, String.ofList_inj,
    apostrophes_injective.eq_iff]

/-! ### The usual condition -/

/-- The text on the left of the usual condition. -/
def axes : String := "$(Configuration)|$(Platform)"

/-- The template of `axes`. -/
def axesTemplate : Template := ⟨[], [(.configuration, ['|']), (.platform, [])]⟩

theorem isPlain_axesTemplate : axesTemplate.IsPlain := by
  have hbar : NoReference ['|'] := not_infix_of_not_mem_dollar (by decide)
  have hempty : NoReference [] := not_infix_of_not_mem_dollar (by decide)
  exact ⟨hempty, by simp [axesTemplate, hbar, hempty]⟩

theorem substitute_axes (v : Variant) :
    substitute axes v = v.configuration ++ "|" ++ v.platform := by
  have htext : axes.toList = axesTemplate.text := by decide +kernel
  rw [← String.toList_inj, substitute, String.toList_ofList, htext,
    Template.substituteChars_text v isPlain_axesTemplate]
  simp [axesTemplate, Template.fill, Variant.value]

theorem substitute_of_noReference {text : String} (h : NoReference text.toList) (v : Variant) :
    substitute text v = text := by
  rw [substitute, substituteChars_eq_self h, String.ofList_toList]

/-- **When an equality of two quoted texts holds.** It does exactly if the two texts are equal once
their references are replaced, each text on its own. So the usual condition, against a text without
references, names the variant whose halves are that text. -/
theorem holds_iff_substitute_eq {l r : String} (hbefore : Blanks before) (hleft : Blanks left)
    (hright : Blanks right) (hafter : Blanks after) (hv : ∀ a, '\'' ∉ (v.value a).toList)
    (hl : '\'' ∉ l.toList) (hr : '\'' ∉ r.toList) :
    (Reader.standard.holds
        (String.ofList (quotedEquality before left right after l.toList r.toList)) v = true ↔
      substitute l v = substitute r v) ∧
    (l = axes → NoReference r.toList →
      (Reader.standard.holds
          (String.ofList (quotedEquality before left right after l.toList r.toList)) v = true ↔
        v.configuration ++ "|" ++ v.platform = r)) := by
  have hiff := holds_quotedEquality_iff hbefore hleft hright hafter hv hl hr
  rw [← String.ofList_inj] at hiff
  refine ⟨hiff, ?_⟩
  rintro rfl hreference
  have haxes := substitute_axes v
  have hself := substitute_of_noReference hreference v
  rw [substitute] at haxes hself
  rw [hiff, haxes, hself]

namespace QuotedSample

/-- Values that would be operators and parentheses if they stood alone. -/
def variant : Variant := ⟨"a == b and (", "\"!x"⟩

def halves : String := "a == b and (|\"!x"

end QuotedSample

theorem blanks_singleton {c : Char} (h : Text.isBlank c = true) : Blanks [c] := by
  simpa [Blanks] using h

theorem holds_iff_substitute_eq_sample :
    (∀ a, '\'' ∉ (QuotedSample.variant.value a).toList) ∧
      NoReference QuotedSample.halves.toList ∧
      Reader.standard.holds (String.ofList
        (quotedEquality [' '] ['\t'] [] ['\n'] axes.toList QuotedSample.halves.toList))
        QuotedSample.variant = true := by
  have hv : ∀ a, '\'' ∉ (QuotedSample.variant.value a).toList := by
    rintro (_ | _) <;> decide +kernel
  have hreference : NoReference QuotedSample.halves.toList :=
    not_infix_of_not_mem_dollar (by decide +kernel)
  refine ⟨hv, hreference, ?_⟩
  rw [(holds_iff_substitute_eq (blanks_singleton (by decide)) (blanks_singleton (by decide))
    blanks_nil (blanks_singleton (by decide)) hv (by decide +kernel)
    (by decide +kernel)).2 rfl hreference]
  decide +kernel

end Condition

end BuildDescriptor
