import BuildDescriptor.Condition.Token
import BuildDescriptor.Proofs.Bind
import Mathlib.Data.List.TakeWhile

/-!
# What the lexemes of a condition look like

A lexeme that is no operator cannot be mistaken for one: a string carries its quotes, and a name has
no character of an operator and is neither of the two operators that are words.

## Main definitions

* `Condition.IsName`, `Condition.IsQuoted`, `Condition.IsLiteral` — texts of lexemes
* `Condition.Token.IsLexical` — a lexeme with the text of its kind

## Main results

* `Condition.isLexical_of_tokenize` — every lexeme of a text has the text of its kind
* `Condition.IsLiteral.ne_symbol_text`, `Condition.IsLiteral.ne_call` — no literal is an operator
-/

namespace BuildDescriptor

namespace Condition

/-- The text of a name. -/
def IsName (s : String) : Prop :=
  s.toList ≠ [] ∧ (∀ c ∈ s.toList, isNameChar c = true) ∧ s.toLower ≠ "and" ∧ s.toLower ≠ "or"

/-- The text of a string, with its quotes. -/
def IsQuoted (s : String) : Prop :=
  ∃ quote body, (quote = '\'' ∨ quote = '"') ∧ quote ∉ body ∧
    s.toList = quote :: (body ++ [quote])

/-- The text of an operand that is no operator. -/
def IsLiteral (s : String) : Prop := IsName s ∨ IsQuoted s

/-- A lexeme that has the text of its kind. -/
def Token.IsLexical : Token → Prop
  | quoted text => IsQuoted text
  | symbol _ => True
  | name text => IsName text

/-! ### Literals and operators -/

theorem IsQuoted.head_eq {s : String} (h : IsQuoted s) :
    s.toList.head? = some '\'' ∨ s.toList.head? = some '"' := by
  obtain ⟨quote, body, hquote, -, hs⟩ := h
  rw [hs]
  simpa using hquote

theorem IsLiteral.ne_symbol_text {s : String} (h : IsLiteral s) (op : Symbol) : s ≠ op.text := by
  rintro rfl
  rcases h with ⟨-, hchars, hand, hor⟩ | hquoted
  · cases op with
    | and => exact hand (by decide +kernel)
    | or => exact hor (by decide +kernel)
    | eq | ne | le | ge | lt | gt | bang | lparen | rparen | comma =>
      exact absurd (hchars _ (List.mem_cons_self ..)) (by decide)
  · cases op <;> exact absurd hquoted.head_eq (by decide)

/-- The text of a call is not that of a literal. -/
theorem IsLiteral.ne_call {s : String} (h : IsLiteral s) : s ≠ "()" := by
  rintro rfl
  rcases h with ⟨-, hchars, -, -⟩ | hquoted
  · exact absurd (hchars _ (List.mem_cons_self ..)) (by decide)
  · exact absurd hquoted.head_eq (by decide)

/-! ### The lexemes of a text -/

theorem isLexical_word {cs : List Char} (hne : cs ≠ []) (h : ∀ c ∈ cs, isNameChar c = true) :
    (word cs).IsLexical := by
  rw [word]
  split
  · trivial
  · split
    · trivial
    · exact ⟨by simpa using hne, by simpa using h, ‹_›, ‹_›⟩

theorem isLexical_of_quotedFrom {quote : Char} {cs rest : List Char} {t : Token}
    (hquote : quote = '\'' ∨ quote = '"') (h : quotedFrom quote cs = some (t, rest)) :
    t.IsLexical := by
  unfold quotedFrom at h
  split at h
  · cases h
  · obtain ⟨rfl, -⟩ : _ = t ∧ _ = rest := by simpa using h
    refine ⟨quote, cs.takeWhile (· ≠ quote), hquote, fun hmem => ?_, by simp⟩
    simpa using List.mem_takeWhile_imp hmem

theorem isLexical_of_lexeme {cs rest : List Char} {t : Token} (h : lexeme cs = some (t, rest)) :
    t.IsLexical := by
  unfold lexeme at h
  split at h
  · cases h
  iterate 4
    · obtain ⟨rfl, -⟩ : _ = t ∧ _ = rest := by simpa using h
      trivial
  · rename_i c cs _ _ _ _
    split at h
    · rename_i hquote
      exact isLexical_of_quotedFrom (by simpa using hquote) h
    · iterate 6
        split at h
        · obtain ⟨rfl, -⟩ : _ = t ∧ _ = rest := by simpa using h
          trivial
      split at h
      · rename_i hc
        obtain ⟨rfl, -⟩ : _ = t ∧ _ = rest := by simpa using h
        refine isLexical_word (List.cons_ne_nil _ _) fun c' hc' => ?_
        rcases List.mem_cons.mp hc' with rfl | hc'
        · exact hc
        · exact List.mem_takeWhile_imp hc'
      · cases h

theorem isLexical_of_tokensOf {total : Nat} {cs : List Char} {ts : List Token}
    (h : tokensOf total cs = .ok ts) : ∀ t ∈ ts, t.IsLexical := by
  fun_induction tokensOf total cs generalizing ts with
  | case1 => simp_all
  | case2 => cases h
  | case3 cs _ t rest hlexeme ih =>
    rw [bind_eq_ok] at h
    obtain ⟨more, hmore, h⟩ := h
    obtain rfl : t :: more = ts := by simpa [pure, Except.pure] using h
    intro t' ht'
    rcases List.mem_cons.mp ht' with rfl | ht'
    · exact isLexical_of_lexeme hlexeme
    · exact ih hmore t' ht'

theorem isLexical_of_tokenize {text : String} {ts : List Token} (h : tokenize text = .ok ts) :
    ∀ t ∈ ts, t.IsLexical :=
  isLexical_of_tokensOf h

end Condition

end BuildDescriptor
