import BuildDescriptor.Proofs.Condition.Limit
import BuildDescriptor.Proofs.Condition.Parentheses
import BuildDescriptor.Proofs.Condition.Shape

/-!
# Compound conditions

Conditions are joined by `and` and `or`, and put in parentheses, as texts. That changes the trees:
`a or b and c`, which joins `a or b` and `c`, is read as `a or (b and c)`, and the first condition
is torn apart. The comparisons bind more tightly than either operator, so they stay as they were,
and a compound condition holds as soon as one of its parts does.

A part may have operators of any strength on the outside. The induction is on the second part: what
it begins with is joined to the end of the first part, and the rest of it follows as before. The
number of levels is that of the deeper part, so the limit of nesting matters to parentheses only.

## Main definitions

* `Condition.Joins` — two phrases that are one with an operator between them
* `Condition.IsConnective` — a word for such an operator
* `Condition.Enclosure` — parentheses, with or without a negation in front
* `Condition.Nested` — the number of levels of a text

## Main results

* `Condition.Derives.join`, `Condition.Derives.join_and` — two phrases with an operator between them
* `Condition.lexed_join`, `Condition.Derives.enclose` — the lexemes of a compound condition
* `Condition.parse_join`, `Condition.parse_enclose` — reading a compound condition
* `Condition.holds_compound` — when a compound condition holds
-/

namespace BuildDescriptor

namespace Condition

variable {d e : Nat} {ts us : List Token} {t u : Node} {op : Symbol} {s : Stratum} {v : Variant}

/-! ### The test on compound trees -/

theorem Node.any_preorderAll (p : Node → Bool) (ns : List Node) :
    (preorderAll ns).any p = ns.any fun n => n.preorder.any p := by
  induction ns with
  | nil => rfl
  | cons n ns ih => rw [preorderAll, List.any_append, ih, List.any_cons]

/-- A node that is no equality holds if one of its operands does. -/
theorem Node.holds_mk {text : String} (h : text ≠ "==") (operands : List Node) :
    (mk text operands).holds = operands.any holds := by
  have hself : (mk text operands).isEquality = false := by
    rw [Bool.eq_false_iff]
    exact fun hequal => h (text_eq_of_isEquality hequal)
  have hoperands : (fun n : Node => n.preorder.any isEquality) = holds := by
    funext n
    rw [holds, walk_eq_preorder]
  rw [holds, walk_eq_preorder, preorder, List.any_cons, hself, Bool.false_or, any_preorderAll,
    hoperands]

theorem Node.holds_binary (h : op ≠ .eq) (t u : Node) :
    (mk op.text [t, u]).holds = (t.holds || u.holds) := by
  have htext : op.text ≠ "==" := by cases op <;> first | decide | exact absurd rfl h
  rw [holds_mk htext]
  simp

theorem Node.holds_negation (t : Node) : (mk "!" [t]).holds = t.holds := by
  rw [holds_mk (by decide)]
  simp

/-! ### Joining phrases -/

/-- Two phrases with an operator between them are a phrase, which holds if one of the two does. -/
def Joins (s : Stratum) (op : Symbol) (d e : Nat) (ts us : List Token) (t u : Node) : Prop :=
  ∃ w, Derives s (max d e) (ts ++ .symbol op :: us) w ∧ w.holds = (t.holds || u.holds)

theorem ne_eq_of_mem_operators (hs : Symbol.eq ∉ s.operators) (hop : op ∈ s.operators) :
    op ≠ .eq := by
  rintro rfl
  exact hs hop

theorem joins_of_tighter (hs : Symbol.eq ∉ s.operators) (hop : op ∈ s.operators)
    (ht : Derives s d ts t) (hu : Derives s.tighter e us u) : Joins s op d e ts us t u :=
  ⟨_, .binary hop ht hu, Node.holds_binary (ne_eq_of_mem_operators hs hop) t u⟩

/-- What is joined can be continued by an operator of the stratum. -/
theorem Joins.binary {op' : Symbol} {e' : Nat} {us' : List Token} {u' : Node}
    (h : Joins s op d e ts us t u) (hs : Symbol.eq ∉ s.operators) (hop' : op' ∈ s.operators)
    (hu' : Derives s.tighter e' us' u') :
    Joins s op d (max e e') ts (us ++ .symbol op' :: us') t (.mk op'.text [u, u']) := by
  obtain ⟨w, hw, hholds⟩ := h
  have hne : op' ≠ .eq := ne_eq_of_mem_operators hs hop'
  refine ⟨.mk op'.text [w, u'], ?_, ?_⟩
  · have hjoined := Derives.binary hop' hw hu'
    rwa [List.append_assoc, List.cons_append, Nat.max_assoc] at hjoined
  · rw [Node.holds_binary hne, Node.holds_binary hne, hholds, Bool.or_assoc]

/-- **Two phrases of one stratum**, with an operator of that stratum between them. By induction on
the second one. -/
theorem Derives.join (hs : Symbol.eq ∉ s.operators) (hop : op ∈ s.operators)
    (ht : Derives s d ts t) (hu : Derives s e us u) : Joins s op d e ts us t u := by
  induction hu with
  | tight hu => exact joins_of_tighter hs hop ht hu
  | binary hop' _ hu' ih => exact (ih hs hop ht).binary hs hop' hu'
  | negation _ | parentheses _ | quoted _ | name _ | call _ _ _ => cases hop

/-- **Two conditions with `and` between them.** The last conjunction of the first one takes the
first conjunction of the second one in. -/
theorem Derives.join_and (ht : Derives .disjunction d ts t) (hu : Derives .disjunction e us u) :
    Joins .disjunction .and d e ts us t u := by
  have hand : Symbol.and ∈ Stratum.conjunction.operators := by decide
  generalize hs : Stratum.disjunction = s at hu
  induction hu with
  | tight hu =>
    -- A single conjunction behind the `and`: the last one of the first condition takes it in.
    subst hs
    cases ht with
    | tight ht =>
      obtain ⟨w, hw, hholds⟩ := Derives.join (by decide) hand ht hu
      exact ⟨w, .tight hw, hholds⟩
    | @binary _ op' _ _ t₁ _ _ _ hop' ht₁ ht₂ =>
      obtain ⟨w, hw, hholds⟩ := Derives.join (by decide) hand ht₂ hu
      have hne : op' ≠ .eq := ne_eq_of_mem_operators (by decide) hop'
      refine ⟨.mk op'.text [t₁, w], ?_, ?_⟩
      · have hjoined := Derives.binary hop' ht₁ hw
        rwa [← Nat.max_assoc, ← List.cons_append, ← List.append_assoc] at hjoined
      · rw [Node.holds_binary hne, Node.holds_binary hne, hholds, Bool.or_assoc]
  | binary hop' _ hu' ih =>
    -- whatever the second condition has behind its first conjunction stays where it is
    subst hs
    exact (ih rfl).binary (by decide) hop' hu'
  | negation _ | parentheses _ | quoted _ | name _ | call _ _ _ => cases hs

/-- Two conditions with one of the two operators between them. -/
theorem Derives.join_disjunction (hop : op = .and ∨ op = .or) (ht : Derives .disjunction d ts t)
    (hu : Derives .disjunction e us u) : Joins .disjunction op d e ts us t u := by
  rcases hop with rfl | rfl
  · exact ht.join_and hu
  · exact ht.join (by decide) (by decide) hu

/-! ### Connectives -/

/-- Letters that are in a name in lower case are in upper case too. -/
theorem isNameChar_of_toLower {c : Char} (h : isNameChar c.toLower = true) :
    isNameChar c = true := by
  have hall : ∀ n : Fin 26, isNameChar (Char.ofNat (65 + n)) = true := by decide
  by_cases hupper : c.val ≥ 'A'.val ∧ c.val ≤ 'Z'.val
  · obtain ⟨hle, hge⟩ := hupper
    rw [ge_iff_le, UInt32.le_iff_toNat_le] at hle
    rw [UInt32.le_iff_toNat_le] at hge
    have hlow : 65 ≤ c.toNat := hle
    have hhigh : c.toNat ≤ 90 := hge
    have hletter := hall ⟨c.toNat - 65, by omega⟩
    rwa [show 65 + (c.toNat - 65) = c.toNat by omega, Char.ofNat_toNat] at hletter
  · have hsame : c.toLower = c := dif_neg hupper
    rwa [hsame] at h

/-- A word for one of the two operators between conditions. -/
structure IsConnective (cs : List Char) (op : Symbol) : Prop where
  operator : op = .and ∨ op = .or
  reads : lexeme cs = some (.symbol op, [])
  not_mem_dollar : '$' ∉ cs

/-- The letters of such a word are those of the operator, in any letter case. -/
theorem exists_isConnective {connective : String}
    (h : connective.toLower = "and" ∨ connective.toLower = "or") :
    ∃ op, IsConnective connective.toList op := by
  have hlower : connective.toLower.toList = connective.toList.map Char.toLower :=
    show (connective.map Char.toLower).toList = _ from String.toList_map
  have hletters : ∀ c ∈ connective.toList, c.toLower ∈ "and".toList ++ "or".toList := by
    intro c hc
    have hmem : c.toLower ∈ connective.toLower.toList := by
      rw [hlower]
      exact List.mem_map_of_mem hc
    rcases h with h | h
    · exact List.mem_append_left _ (h ▸ hmem)
    · exact List.mem_append_right _ (h ▸ hmem)
  have hdollar : '$' ∉ connective.toList := fun hc => absurd (hletters '$' hc) (by decide)
  have hne : connective.toList ≠ [] := by
    intro hnil
    rw [hnil] at hlower
    rcases h with h | h <;> rw [h] at hlower <;> cases hlower
  have hname : ∀ c ∈ connective.toList, isNameChar c = true := by
    have hall : ("and".toList ++ "or".toList).all isNameChar = true := by decide
    exact fun c hc => isNameChar_of_toLower (List.all_eq_true.mp hall _ (hletters c hc))
  have hlexeme := lexeme_word hne hname
  rcases h with h | h
  · rw [word, String.ofList_toList, if_pos h] at hlexeme
    exact ⟨.and, .inl rfl, hlexeme, hdollar⟩
  · rw [word, String.ofList_toList, if_neg (by rw [h]; decide), if_pos h] at hlexeme
    exact ⟨.or, .inr rfl, hlexeme, hdollar⟩

/-! ### Texts that are put together -/

/-- The lexemes of two texts with a connective between them. -/
theorem lexed_join {as bs connective : List Char} (has : Lexed as ts)
    (hconnective : IsConnective connective op) (hbs : Lexed bs us) :
    Lexed (as ++ ' ' :: (connective ++ ' ' :: bs)) (ts ++ .symbol op :: us) := by
  have hspace : IsBoundary ' ' := ⟨by decide, by decide⟩
  have hblank : Blanks [' '] := by
    intro c hc
    rw [List.mem_singleton.mp hc]
    decide
  have hword : Lexed connective [.symbol op] := .cons (.done blanks_nil) hconnective.reads
  have hmore : Lexed (connective ++ ' ' :: bs) (.symbol op :: us) :=
    hword.append hspace (hbs.blanks_append hblank)
  exact has.append hspace (hmore.blanks_append hblank)

/-- The references of two texts with a connective between them. -/
theorem substituteChars_join {connective : List Char} (h : IsConnective connective op)
    (as bs : List Char) :
    substituteChars v (as ++ ' ' :: (connective ++ ' ' :: bs)) =
      substituteChars v as ++ ' ' :: (connective ++ ' ' :: substituteChars v bs) := by
  have hspace : ∀ a : Axis, ' ' ∉ a.reference.toList := by
    intro a
    cases a <;> decide
  rw [substituteChars_append_cons hspace, substituteChars_append_cons hspace,
    substituteChars_eq_self (not_infix_of_not_mem_dollar h.not_mem_dollar)]

/-- Parentheses around a condition, with or without a negation in front. -/
inductive Enclosure
  | parentheses
  | negation

namespace Enclosure

/-- What an enclosure begins with. -/
def opening : Enclosure → String
  | parentheses => "("
  | negation => "!("

/-- The levels that an enclosure adds. -/
def levels : Enclosure → Nat
  | parentheses => 1
  | negation => 2

/-- A condition in an enclosure. -/
def enclose (k : Enclosure) (condition : String) : String := k.opening ++ condition ++ ")"

theorem toList_enclose (k : Enclosure) (condition : String) :
    (k.enclose condition).toList = k.opening.toList ++ (condition.toList ++ [')']) := by
  rw [enclose, String.toList_append, String.toList_append, List.append_assoc]
  rfl

end Enclosure

theorem substituteChars_opening (k : Enclosure) (cs : List Char) :
    substituteChars v (k.opening.toList ++ cs) = k.opening.toList ++ substituteChars v cs := by
  have hparen (cs : List Char) : substituteChars v ('(' :: cs) = '(' :: substituteChars v cs :=
    substituteChars_cons (reference?_eq_none_of_ne (by decide))
  cases k with
  | parentheses => exact hparen cs
  | negation =>
    show substituteChars v ('!' :: '(' :: cs) = '!' :: '(' :: substituteChars v cs
    rw [substituteChars_cons (reference?_eq_none_of_ne (by decide)), hparen]

/-- The lexemes of an enclosed text, and their tree. -/
theorem Derives.enclose {cs : List Char} (k : Enclosure) (ht : Derives .disjunction d ts t)
    (hcs : Lexed cs ts) :
    ∃ us u, Lexed (k.opening.toList ++ (cs ++ [')'])) us ∧
      Derives .disjunction (d + k.levels) us u ∧ u.holds = t.holds := by
  have hclosed : Lexed (cs ++ [')']) (ts ++ [.symbol .rparen]) :=
    hcs.append ⟨by decide, by decide⟩ (.cons (.done blanks_nil) rfl)
  have hlexed : Lexed ('(' :: (cs ++ [')'])) (.symbol .lparen :: (ts ++ [.symbol .rparen])) :=
    .cons hclosed rfl
  have hparen : Derives .unary (d + 1) (.symbol .lparen :: (ts ++ [.symbol .rparen])) t :=
    .parentheses ht
  cases k with
  | parentheses => exact ⟨_, _, hlexed, hparen.loosen (by decide), rfl⟩
  | negation =>
    exact ⟨_, _, .cons hlexed rfl, (Derives.negation hparen).loosen (by decide),
      Node.holds_negation t⟩

/-! ### Compound conditions -/

/-- A text is a condition if its lexemes are derived. -/
theorem exists_of_parse {text : String} (h : parse text = .ok t) :
    ∃ ts d, Lexed text.toList ts ∧ d ≤ maxNesting ∧ Derives .disjunction d ts t := by
  rw [parse, bind_eq_ok] at h
  obtain ⟨ts, hts, ht⟩ := h
  obtain ⟨d, hle, hd⟩ := parseTokens_eq_ok_iff.mp ht
  exact ⟨ts, d, tokenize_eq_ok_iff.mp hts, hle, hd⟩

theorem parse_eq_parseTokens {text : String} (h : Lexed text.toList ts) :
    parse text = parseTokens ts := by
  rw [parse, tokenize_eq_ok_iff.mpr h]
  rfl

/-- What the test on a condition says, once its tree is known. -/
theorem holds_of_parse {condition : String} (h : parse (substitute condition v) = .ok t) :
    Reader.standard.holds condition v = t.holds := by
  rw [Bool.eq_iff_iff, standard_holds_iff]
  constructor
  · rintro ⟨u, hu, hholds⟩
    rwa [← Except.ok.inj (hu.symm.trans h)]
  · exact fun hholds => ⟨t, h, hholds⟩

/-- The number of levels of a text. -/
def Nested (text : String) (d : Nat) : Prop :=
  ∃ ts t, tokenize text = .ok ts ∧ Derives .disjunction d ts t

/-- Two conditions with a connective between them are a condition. It has no more levels than the
deeper one of the two, so the limit is no concern. -/
theorem parse_join {a b connective : String}
    (hconnective : connective.toLower = "and" ∨ connective.toLower = "or")
    (ha : parse (substitute a v) = .ok t) (hb : parse (substitute b v) = .ok u) :
    ∃ w, parse (substitute (a ++ " " ++ connective ++ " " ++ b) v) = .ok w ∧
      w.holds = (t.holds || u.holds) := by
  obtain ⟨op, hop⟩ := exists_isConnective hconnective
  obtain ⟨ts, d, hts, hdle, hd⟩ := exists_of_parse ha
  obtain ⟨us, e, hus, hele, he⟩ := exists_of_parse hb
  obtain ⟨w, hw, hholds⟩ := Derives.join_disjunction hop.operator hd he
  refine ⟨w, ?_, hholds⟩
  rw [substitute, String.toList_ofList] at hts hus
  have htext : (a ++ " " ++ connective ++ " " ++ b).toList =
      a.toList ++ ' ' :: (connective.toList ++ ' ' :: b.toList) := by
    simp only [String.toList_append, List.append_assoc]
    rfl
  have hlexed : Lexed (substitute (a ++ " " ++ connective ++ " " ++ b) v).toList
      (ts ++ .symbol op :: us) := by
    rw [substitute, String.toList_ofList, htext, substituteChars_join hop]
    exact lexed_join hts hop hus
  rw [parse_eq_parseTokens hlexed]
  exact parseTokens_eq_ok_iff.mpr ⟨max d e, Nat.max_le.mpr ⟨hdle, hele⟩, hw⟩

/-- An enclosed condition has lexemes that are derived, in so many levels more. -/
theorem exists_derives_enclose {a : String} {ts : List Token} (k : Enclosure)
    (ha : parse (substitute a v) = .ok t) (hts : Lexed (substitute a v).toList ts)
    (hd : Derives .disjunction d ts t) :
    ∃ us u, parse (substitute (k.enclose a) v) = parseTokens us ∧
      Derives .disjunction (d + k.levels) us u ∧ u.holds = t.holds := by
  obtain ⟨us, u, hus, hderives, hholds⟩ := hd.enclose k hts
  refine ⟨us, u, parse_eq_parseTokens ?_, hderives, hholds⟩
  rw [substitute, String.toList_ofList] at hus
  rwa [substitute, String.toList_ofList, k.toList_enclose, substituteChars_opening,
    substituteChars_append_closing ha]

/-- An enclosed condition is a condition, unless it is nested too deeply. -/
theorem parse_enclose {a : String} (k : Enclosure) (ha : parse (substitute a v) = .ok t)
    (hdeep : parse (substitute (k.enclose a) v) ≠ .error .tooDeep) :
    ∃ u, parse (substitute (k.enclose a) v) = .ok u ∧ u.holds = t.holds := by
  obtain ⟨ts, d, hts, -, hd⟩ := exists_of_parse ha
  obtain ⟨us, u, hparse, hu, hholds⟩ := exists_derives_enclose k ha hts hd
  rw [hparse] at hdeep ⊢
  exact ⟨u, (parseTokens_of_derives hu).resolve_left hdeep, hholds⟩

/-- It is not nested too deeply if there are levels left for the enclosure. -/
theorem parse_enclose_ne_tooDeep {a : String} (k : Enclosure)
    (ha : parse (substitute a v) = .ok t) (hd : Nested (substitute a v) d)
    (hle : d + k.levels ≤ maxNesting) :
    parse (substitute (k.enclose a) v) ≠ .error .tooDeep := by
  obtain ⟨ts, e, hts, -, he⟩ := exists_of_parse ha
  obtain ⟨ts', t', hts', hd⟩ := hd
  obtain rfl := hts.unique (tokenize_eq_ok_iff.mp hts')
  obtain rfl := he.tree_unique hd
  obtain ⟨us, u, hparse, hu, -⟩ := exists_derives_enclose k ha hts hd
  rw [hparse, parseTokens_eq_ok_iff.mpr ⟨d + k.levels, hle, hu⟩]
  exact fun h => nomatch h

/-- **Compound conditions.** Two conditions with `and` or `or` between them, in any letter case, are
a condition, which holds exactly if one of the two does. A condition in parentheses, with or without
a negation in front, holds exactly if the condition does, as long as it is not refused as nested too
deeply. That cannot happen if there are levels left for the enclosure. -/
theorem holds_compound {a b : String} (ha : parse (substitute a v) = .ok t)
    (hb : parse (substitute b v) = .ok u) :
    (∀ connective : String, connective.toLower = "and" ∨ connective.toLower = "or" →
      (∃ w, parse (substitute (a ++ " " ++ connective ++ " " ++ b) v) = .ok w) ∧
        Reader.standard.holds (a ++ " " ++ connective ++ " " ++ b) v =
          (Reader.standard.holds a v || Reader.standard.holds b v)) ∧
      ∀ k : Enclosure,
        (parse (substitute (k.enclose a) v) ≠ .error .tooDeep →
          (∃ w, parse (substitute (k.enclose a) v) = .ok w) ∧
            Reader.standard.holds (k.enclose a) v = Reader.standard.holds a v) ∧
        ∀ d, Nested (substitute a v) d → d + k.levels ≤ maxNesting →
          parse (substitute (k.enclose a) v) ≠ .error .tooDeep := by
  refine ⟨fun connective hconnective => ?_, fun k => ⟨fun hdeep => ?_, fun d hd hle => ?_⟩⟩
  · obtain ⟨w, hw, hholds⟩ := parse_join hconnective ha hb
    exact ⟨⟨w, hw⟩, by rw [holds_of_parse hw, holds_of_parse ha, holds_of_parse hb, hholds]⟩
  · obtain ⟨w, hw, hholds⟩ := parse_enclose k ha hdeep
    exact ⟨⟨w, hw⟩, by rw [holds_of_parse hw, holds_of_parse ha, hholds]⟩
  · exact parse_enclose_ne_tooDeep k ha hd hle

namespace Sample

def variant : Variant := ⟨"Release", "Win32"⟩

/-- It ends with `or`, and fails for the variant. -/
def first : String := "'$(Configuration)'=='Debug' or '$(Platform)'=='x64'"

def second : String := "'$(Platform)'=='Win32'"

/-- The tree of two strings with `==` between them. -/
def equality (left right : String) : Node := .mk "==" [.mk left [], .mk right []]

def firstTree : Node := .mk "or" [equality "'Release'" "'Debug'", equality "'Win32'" "'x64'"]

def secondTree : Node := equality "'Win32'" "'Win32'"

/-- The lexemes of two strings with `==` between them. -/
def equalityTokens (left right : String) : List Token :=
  [.quoted left, .symbol .eq, .quoted right]

theorem derives_equality (left right : String) :
    Derives .comparison 1 (equalityTokens left right) (equality left right) :=
  .binary (s := .comparison) (by decide) (.tight (.quoted left)) (.quoted right)

/-- The lexemes of the first condition. -/
def firstTokens : List Token :=
  equalityTokens "'Release'" "'Debug'" ++ .symbol .or :: equalityTokens "'Win32'" "'x64'"

theorem derives_first : Derives .disjunction 1 firstTokens firstTree :=
  .binary (s := .disjunction) (by decide) (.tight (.tight (derives_equality _ _)))
    (.tight (derives_equality _ _))

theorem tokenize_first : tokenize (substitute first variant) = .ok firstTokens := by
  decide +kernel

theorem parse_first : parse (substitute first variant) = .ok firstTree := by
  rw [parse, tokenize_first, ok_bind]
  exact parseTokens_eq_ok_iff.mpr ⟨1, by decide, derives_first⟩

theorem parse_second : parse (substitute second variant) = .ok secondTree := by
  have htokens : tokenize (substitute second variant) =
      .ok (equalityTokens "'Win32'" "'Win32'") := by decide +kernel
  rw [parse, htokens, ok_bind]
  exact parseTokens_eq_ok_iff.mpr ⟨1, by decide, .tight (.tight (derives_equality _ _))⟩

theorem nested_first : Nested (substitute first variant) 1 :=
  ⟨firstTokens, firstTree, tokenize_first, derives_first⟩

end Sample

theorem holds_compound_sample :
    parse (substitute Sample.first Sample.variant) = .ok Sample.firstTree ∧
      parse (substitute Sample.second Sample.variant) = .ok Sample.secondTree ∧
      Reader.standard.holds (Sample.first ++ " " ++ "AND" ++ " " ++ Sample.second)
        Sample.variant = true ∧
      Reader.standard.holds (Enclosure.negation.enclose Sample.first) Sample.variant = false := by
  have hfirst : Reader.standard.holds Sample.first Sample.variant = false := by
    rw [holds_of_parse Sample.parse_first, Node.holds, Node.walk_eq_preorder]
    decide
  have hsecond : Reader.standard.holds Sample.second Sample.variant = true := by
    rw [holds_of_parse Sample.parse_second, Node.holds, Node.walk_eq_preorder]
    decide
  obtain ⟨hjoin, henclose⟩ := holds_compound Sample.parse_first Sample.parse_second
  obtain ⟨hread, hwithin⟩ := henclose .negation
  refine ⟨Sample.parse_first, Sample.parse_second, ?_, ?_⟩
  · rw [(hjoin "AND" (.inl (by decide +kernel))).2, hfirst, hsecond]
    rfl
  · rw [(hread (hwithin 1 Sample.nested_first (by decide))).2, hfirst]

end Condition

end BuildDescriptor
