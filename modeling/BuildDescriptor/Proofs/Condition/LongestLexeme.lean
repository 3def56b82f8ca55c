import BuildDescriptor.Proofs.Condition.Lexing
import Mathlib.Data.List.Infix

/-!
# Longest lexemes

A text has lexemes with blanks between them, and where a lexeme ends is decided by its length: of
all lexemes that begin at a place, the longest one counts. That makes no mention of the order in
which the kinds of lexemes are tried, nor of how many characters are looked at.

## How far a lexeme goes

A lexeme that is longer than another one at the same place is so by its next character already.
Either both are runs of characters of names, or an equals sign makes an operator of two characters
out of one. A string is never part of a longer lexeme. So whether a lexeme is the longest can be
seen at the character behind it, which is what the reader looks at.

## Where there is no lexeme

Almost every character begins a lexeme. Only a quote may fail to, if it has no partner, and an
equals sign, if it is a single one. So these are the only reasons why a text cannot be read.

## Main definitions

* `Condition.IsLexeme` — the texts of lexemes, each with its token
* `Condition.LongestAt` — the longest lexeme at the start of a text
* `Condition.Stuck` — texts that begin with no lexeme
* `Condition.Laid` — a text as lexemes with blanks around them
* `Condition.Blocked` — a text with a place where it cannot be read on

## Main results

* `Condition.lexeme_of_longestAt`, `Condition.lexeme_of_stuck` — reading one lexeme
* `Condition.exists_laid_or_blocked` — every text is one or the other
* `Condition.tokenize_iff_laid` — reading all of it, and why that may fail
-/

namespace BuildDescriptor

namespace Condition

variable {blanks cs l rest stuck : List Char} {c d x : Char} {t t' : Token} {ts us : List Token}

/-! ### The texts of lexemes -/

/-- The characters that belong to strings and operators. -/
def specials : List Char := ['\'', '"', '=', '!', '<', '>', '(', ')', ',']

/-- A character that opens a string. -/
def IsQuote (x : Char) : Prop := x = '\'' ∨ x = '"'

/-- A run of characters that are neither blanks nor special. -/
def IsRun (cs : List Char) : Prop :=
  cs ≠ [] ∧ ∀ c ∈ cs, Text.isBlank c = false ∧ c ∉ specials

/-- A text that is one lexeme, and the token that it stands for. -/
inductive IsLexeme : List Char → Token → Prop
  /-- A string, which has its own quote at both ends and nowhere else. -/
  | quoted {quote : Char} {body : List Char} (hquote : IsQuote quote) (h : quote ∉ body) :
      IsLexeme (quote :: (body ++ [quote])) (.quoted (String.ofList (quote :: (body ++ [quote]))))
  /-- An operator that is no word. -/
  | operator {s : Symbol} (hand : s ≠ .and) (hor : s ≠ .or) : IsLexeme s.text.toList (.symbol s)
  /-- An operator that is a word, in any letter case. -/
  | word {cs : List Char} {s : Symbol} (hrun : IsRun cs) (hs : s = .and ∨ s = .or)
      (hcase : (String.ofList cs).toLower = s.text) : IsLexeme cs (.symbol s)
  /-- Any other run. -/
  | name {cs : List Char} (hrun : IsRun cs)
      (hword : ∀ s : Symbol, s = .and ∨ s = .or → (String.ofList cs).toLower ≠ s.text) :
      IsLexeme cs (.name (String.ofList cs))

/-- The longest lexeme at the start of a text. -/
structure LongestAt (cs l : List Char) (t : Token) : Prop where
  isLexeme : IsLexeme l t
  isPrefix : l <+: cs
  longest : ∀ l' t', IsLexeme l' t' → l' <+: cs → l'.length ≤ l.length

/-- A text that begins with no lexeme, although it does not begin with a blank. -/
inductive Stuck : List Char → Prop
  /-- A quote without its partner. -/
  | quote {quote : Char} {rest : List Char} (hquote : IsQuote quote) (h : quote ∉ rest) :
      Stuck (quote :: rest)
  /-- A single equals sign. -/
  | equals {rest : List Char} (h : rest.head? ≠ some '=') : Stuck ('=' :: rest)

theorem isNameChar_iff : isNameChar c = true ↔ Text.isBlank c = false ∧ c ∉ specials := by
  simp [isNameChar, isSpecial, specials, and_assoc]

theorem isRun_iff : IsRun cs ↔ cs ≠ [] ∧ ∀ c ∈ cs, isNameChar c = true := by
  simp only [IsRun, isNameChar_iff]

theorem isLexeme_word (h : IsRun cs) : IsLexeme cs (word cs) := by
  rw [word]
  split
  · exact .word h (.inl rfl) ‹_›
  · split
    · exact .word h (.inr rfl) ‹_›
    · rename_i hand hor
      refine .name h ?_
      rintro s (rfl | rfl)
      · exact hand
      · exact hor

theorem not_isRun_cons (hx : isNameChar x = false) : ¬ IsRun (x :: cs) := by
  intro h
  have hname := isNameChar_iff.mpr (h.2 x (List.mem_cons_self ..))
  rw [hx] at hname
  cases hname

theorem isRun_append_singleton (h : IsRun l) (hd : isNameChar d = true) : IsRun (l ++ [d]) := by
  refine ⟨by simp, fun c hc => ?_⟩
  rcases List.mem_append.mp hc with hc | hc
  · exact h.2 c hc
  · exact isNameChar_iff.mp (List.mem_singleton.mp hc ▸ hd)

/-! ### How far a lexeme goes -/

/-- A character that makes a longer lexeme of the one in front of it. -/
def Grows (l : List Char) (d : Char) : Prop :=
  IsRun l ∧ isNameChar d = true ∨ (l = ['!'] ∨ l = ['<'] ∨ l = ['>']) ∧ d = '='

/-- A lexeme is not made longer by the text behind it. -/
def EndsBefore (l rest : List Char) : Prop := ∀ d, rest.head? = some d → ¬ Grows l d

theorem exists_isLexeme_of_grows (h : Grows l d) : ∃ t, IsLexeme (l ++ [d]) t := by
  rcases h with ⟨hrun, hd⟩ | ⟨rfl | rfl | rfl, rfl⟩
  · exact ⟨_, isLexeme_word (isRun_append_singleton hrun hd)⟩
  · exact ⟨_, .operator (s := .ne) nofun nofun⟩
  · exact ⟨_, .operator (s := .le) nofun nofun⟩
  · exact ⟨_, .operator (s := .ge) nofun nofun⟩

/-- The first character of an operator that is no word is no quote and no part of a name. -/
theorem operator_cons {s : Symbol} {tail : List Char} (hand : s ≠ .and) (hor : s ≠ .or)
    (hs : s.text.toList = x :: tail) : ¬ IsQuote x ∧ isNameChar x = false := by
  cases s with
  | and => exact absurd rfl hand
  | or => exact absurd rfl hor
  | eq | ne | le | ge | lt | gt | bang | lparen | rparen | comma =>
    obtain ⟨rfl, -⟩ := List.cons.inj hs
    refine ⟨?_, by decide⟩
    rintro (h | h) <;> cases h

theorem not_isNameChar_of_isQuote (h : IsQuote x) : isNameChar x = false := by
  rcases h with rfl | rfl <;> decide

/-- What the first character of a lexeme tells about it. -/
structure HeadTells (x : Char) (tail : List Char) : Prop where
  quoted : IsQuote x → ∃ body, x ∉ body ∧ tail = body ++ [x]
  run : isNameChar x = true → IsRun (x :: tail)
  operator : ¬ IsQuote x → isNameChar x = false →
    ∃ s : Symbol, s ≠ .and ∧ s ≠ .or ∧ s.text.toList = x :: tail

theorem headTells_of_isRun {tail : List Char} (h : IsRun (x :: tail)) : HeadTells x tail where
  quoted hquote := absurd h (not_isRun_cons (not_isNameChar_of_isQuote hquote))
  run _ := h
  operator _ hname := absurd h (not_isRun_cons hname)

theorem IsLexeme.headTells {tail : List Char} (h : IsLexeme l t) (hl : l = x :: tail) :
    HeadTells x tail := by
  cases h with
  | quoted hquote hbody =>
    obtain ⟨rfl, rfl⟩ := List.cons.inj hl
    refine ⟨fun _ => ⟨_, hbody, rfl⟩, fun hname => ?_, fun hnot => absurd hquote hnot⟩
    rw [not_isNameChar_of_isQuote hquote] at hname
    cases hname
  | operator hand hor =>
    obtain ⟨hquote, hname⟩ := operator_cons hand hor hl
    refine ⟨fun h => absurd h hquote, fun h => ?_, fun _ _ => ⟨_, hand, hor, hl⟩⟩
    rw [hname] at h
    cases h
  | word hrun => exact headTells_of_isRun (hl ▸ hrun)
  | name hrun => exact headTells_of_isRun (hl ▸ hrun)

theorem operator_ne_nil (s : Symbol) : s.text.toList ≠ [] := by
  cases s <;> simp [Symbol.text]

theorem IsLexeme.ne_nil (h : IsLexeme l t) : l ≠ [] := by
  cases h with
  | quoted => exact List.cons_ne_nil _ _
  | operator => exact operator_ne_nil _
  | word hrun => exact hrun.1
  | name hrun => exact hrun.1

/-- An operator that begins with another one has an equals sign behind it. -/
theorem grows_of_operator {s s' : Symbol} {more : List Char} (hand : s ≠ .and) (hor : s ≠ .or)
    (hand' : s' ≠ .and) (hor' : s' ≠ .or) (h : s'.text.toList = s.text.toList ++ d :: more) :
    Grows s.text.toList d := by
  cases s <;> cases s' <;> simp_all [Symbol.text, Grows]
  all_goals exact .inr h.1.symm

/-- A quote that closes a string is the first one behind its opening. -/
theorem eq_nil_of_quoted {quote : Char} {body body' more : List Char} (hbody : quote ∉ body)
    (hbody' : quote ∉ body') (h : body ++ [quote] ++ more = body' ++ [quote]) : more = [] := by
  rw [List.append_assoc, List.singleton_append] at h
  have := quotedFrom_append_quote hbody more
  rw [h, quotedFrom_append_quote hbody' []] at this
  simpa using congrArg (Option.map Prod.snd) this

/-- **How far a lexeme goes.** If there is a longer one, the next character tells so. -/
theorem grows_of_longer {more : List Char} (h : IsLexeme l t)
    (h' : IsLexeme (l ++ d :: more) t') : Grows l d := by
  obtain ⟨x, tail, rfl⟩ := List.exists_cons_of_ne_nil h.ne_nil
  have htells := h.headTells rfl
  have htells' := h'.headTells rfl
  by_cases hquote : IsQuote x
  · obtain ⟨body, hbody, rfl⟩ := htells.quoted hquote
    obtain ⟨body', hbody', htail⟩ := htells'.quoted hquote
    cases eq_nil_of_quoted hbody hbody' htail
  · cases hname : isNameChar x with
    | true =>
      have hrun := htells'.run hname
      exact .inl ⟨htells.run hname, isNameChar_iff.mpr (hrun.2 d (by simp))⟩
    | false =>
      obtain ⟨s, hand, hor, hs⟩ := htells.operator hquote hname
      obtain ⟨s', hand', hor', hs'⟩ := htells'.operator hquote hname
      rw [← hs]
      exact grows_of_operator hand hor hand' hor' (by rw [hs', hs]; rfl)

/-- A lexeme is the longest one exactly if what is behind it does not make it longer. -/
theorem longestAt_iff (h : IsLexeme l t) : LongestAt (l ++ rest) l t ↔ EndsBefore l rest := by
  constructor
  · intro hlongest d hd hgrows
    obtain ⟨more, rfl⟩ := List.head?_eq_some_iff.mp hd
    obtain ⟨t', hlonger⟩ := exists_isLexeme_of_grows hgrows
    have hle := hlongest.longest _ _ hlonger ⟨more, by simp⟩
    rw [List.length_append, List.length_singleton] at hle
    omega
  · intro hends
    refine ⟨h, List.prefix_append l rest, fun l' t' h' hprefix => ?_⟩
    rcases List.prefix_or_prefix_of_prefix hprefix (List.prefix_append l rest) with hle | hlonger
    · exact hle.length_le
    · obtain ⟨more, rfl⟩ := hlonger
      cases more with
      | nil => simp
      | cons d more =>
        obtain ⟨rest', rfl⟩ := (List.prefix_append_right_inj l).mp hprefix
        exact absurd (grows_of_longer h h') (hends d rfl)

/-! ### One lexeme -/

theorem lexeme_of_isRun (h : IsRun l) (hends : EndsBefore l rest) :
    lexeme (l ++ rest) = some (word l, rest) := by
  obtain ⟨x, tail, rfl⟩ := List.exists_cons_of_ne_nil h.1
  obtain ⟨hx, htail⟩ := List.forall_mem_cons.mp (isRun_iff.mp h).2
  have hspecial : isSpecial x = false := by
    rw [isNameChar, Bool.and_eq_true] at hx
    simpa using hx.2
  have hstop : rest.takeWhile isNameChar = [] ∧ rest.dropWhile isNameChar = rest := by
    cases rest with
    | nil => exact ⟨rfl, rfl⟩
    | cons d rest =>
      have hd : ¬ isNameChar d = true := fun hd => hends d rfl (.inl ⟨h, hd⟩)
      exact ⟨List.takeWhile_cons_of_neg hd, List.dropWhile_cons_of_neg hd⟩
  rw [List.cons_append, lexeme_of_not_special hspecial, if_pos hx,
    List.takeWhile_append_of_pos htail, List.dropWhile_append_of_pos htail, hstop.1, hstop.2,
    List.append_nil]

theorem word_eq_symbol {s : Symbol} (hs : s = .and ∨ s = .or)
    (hcase : (String.ofList cs).toLower = s.text) : word cs = .symbol s := by
  rcases hs with rfl | rfl
  · exact if_pos hcase
  · rw [word, if_neg (by rw [hcase]; decide)]
    exact if_pos hcase

theorem word_eq_name
    (hword : ∀ s : Symbol, s = .and ∨ s = .or → (String.ofList cs).toLower ≠ s.text) :
    word cs = .name (String.ofList cs) := by
  have hand : (String.ofList cs).toLower ≠ "and" := hword .and (.inl rfl)
  have hor : (String.ofList cs).toLower ≠ "or" := hword .or (.inr rfl)
  rw [word, if_neg hand, if_neg hor]

theorem lexeme_of_operator {s : Symbol} (hand : s ≠ .and) (hor : s ≠ .or)
    (hends : EndsBefore s.text.toList rest) :
    lexeme (s.text.toList ++ rest) = some (.symbol s, rest) := by
  have hhead (hs : s.text.toList = ['!'] ∨ s.text.toList = ['<'] ∨ s.text.toList = ['>']) :
      rest.head? ≠ some '=' := fun h => hends '=' h (.inr ⟨hs, rfl⟩)
  cases s with
  | and => exact absurd rfl hand
  | or => exact absurd rfl hor
  | eq | ne | le | ge | lparen | rparen | comma => rfl
  | bang => exact lexeme_cons fun _ => hhead (.inl rfl)
  | lt => exact lexeme_cons fun _ => hhead (.inr (.inl rfl))
  | gt => exact lexeme_cons fun _ => hhead (.inr (.inr rfl))

theorem lexeme_of_isQuote (h : IsQuote x) (cs : List Char) :
    lexeme (x :: cs) = quotedFrom x cs := by
  rcases h with rfl | rfl <;> simp [lexeme]

theorem lexeme_of_quoted {quote : Char} {body : List Char} (hquote : IsQuote quote)
    (h : quote ∉ body) (rest : List Char) :
    lexeme (quote :: (body ++ [quote]) ++ rest) =
      some (.quoted (String.ofList (quote :: (body ++ [quote]))), rest) := by
  rw [List.cons_append, lexeme_of_isQuote hquote, List.append_assoc, List.singleton_append,
    quotedFrom_append_quote h, List.cons_append]

/-- The longest lexeme at the start of a text is the one that is read. -/
theorem lexeme_of_longestAt (h : LongestAt (l ++ rest) l t) :
    lexeme (l ++ rest) = some (t, rest) := by
  have hends : EndsBefore l rest := (longestAt_iff h.isLexeme).mp h
  cases h.isLexeme with
  | quoted hquote hbody => exact lexeme_of_quoted hquote hbody rest
  | operator hand hor => exact lexeme_of_operator hand hor hends
  | word hrun hs hcase => rw [lexeme_of_isRun hrun hends, word_eq_symbol hs hcase]
  | name hrun hword => rw [lexeme_of_isRun hrun hends, word_eq_name hword]

/-- Where there is no lexeme, none is read. -/
theorem lexeme_of_stuck (h : Stuck cs) : lexeme cs = none := by
  cases h with
  | quote hquote hmem => rw [lexeme_of_isQuote hquote, quotedFrom_eq_none hmem]
  | equals hhead =>
    rw [lexeme_cons fun _ => hhead]
    rfl

/-! ### Every place has a lexeme or is stuck -/

theorem endsBefore_quoted {quote : Char} {body : List Char} (hquote : IsQuote quote)
    (rest : List Char) : EndsBefore (quote :: (body ++ [quote])) rest := by
  rintro d - (⟨hrun, -⟩ | ⟨hl, -⟩)
  · exact not_isRun_cons (not_isNameChar_of_isQuote hquote) hrun
  · simp at hl

theorem endsBefore_operator {s : Symbol} (hand : s ≠ .and) (hor : s ≠ .or)
    (h : s = .bang ∨ s = .lt ∨ s = .gt → rest.head? ≠ some '=') :
    EndsBefore s.text.toList rest := by
  rintro d hd (⟨hrun, -⟩ | ⟨hl, rfl⟩)
  · obtain ⟨x, tail, hs⟩ := List.exists_cons_of_ne_nil (operator_ne_nil s)
    exact not_isRun_cons (operator_cons hand hor hs).2 (hs ▸ hrun)
  · refine h ?_ hd
    cases s <;> simp_all [Symbol.text]

theorem endsBefore_run (h : IsRun l) (hstop : ∀ d, rest.head? = some d → isNameChar d = false) :
    EndsBefore l rest := by
  rintro d hd (⟨-, hname⟩ | ⟨hl, rfl⟩)
  · rw [hstop d hd] at hname
    cases hname
  · have hchars := (isRun_iff.mp h).2
    rcases hl with rfl | rfl | rfl <;> exact absurd (hchars _ (List.mem_cons_self ..)) (by decide)

theorem exists_longestAt_of_run (hx : isNameChar x = true) (cs : List Char) :
    ∃ l t rest, x :: cs = l ++ rest ∧ LongestAt (l ++ rest) l t := by
  have hrun : IsRun (x :: cs.takeWhile isNameChar) := by
    refine isRun_iff.mpr ⟨List.cons_ne_nil _ _, List.forall_mem_cons.mpr ⟨hx, ?_⟩⟩
    exact fun c hc => List.mem_takeWhile_imp hc
  have hends : EndsBefore (x :: cs.takeWhile isNameChar) (cs.dropWhile isNameChar) := by
    refine endsBefore_run hrun fun d hd => ?_
    have hstop := List.head?_dropWhile_not isNameChar cs
    rw [hd] at hstop
    exact hstop
  refine ⟨_, _, cs.dropWhile isNameChar, ?_, (longestAt_iff (isLexeme_word hrun)).mpr hends⟩
  rw [List.cons_append, List.takeWhile_append_dropWhile]

theorem exists_longestAt_of_operator {s : Symbol} (hand : s ≠ .and) (hor : s ≠ .or)
    (hcs : cs = s.text.toList ++ rest)
    (h : s = .bang ∨ s = .lt ∨ s = .gt → rest.head? ≠ some '=') :
    ∃ l t rest, cs = l ++ rest ∧ LongestAt (l ++ rest) l t :=
  ⟨_, _, rest, hcs, (longestAt_iff (.operator hand hor)).mpr (endsBefore_operator hand hor h)⟩

/-- An operator has an equals sign in it, or it is a single character. Only the equals sign cannot
be the latter. -/
theorem exists_longestAt_or_stuck_of_special (hx : x ∈ specials) (hquote : ¬ IsQuote x)
    (cs : List Char) :
    (∃ l t rest, x :: cs = l ++ rest ∧ LongestAt (l ++ rest) l t) ∨ Stuck (x :: cs) := by
  by_cases hpair : IsLead x ∧ cs.head? = some '='
  · obtain ⟨hlead, hhead⟩ := hpair
    obtain ⟨rest, rfl⟩ := List.head?_eq_some_iff.mp hhead
    left
    rcases hlead with rfl | rfl | rfl | rfl
    · exact exists_longestAt_of_operator (s := .eq) nofun nofun rfl (by simp)
    · exact exists_longestAt_of_operator (s := .ne) nofun nofun rfl (by simp)
    · exact exists_longestAt_of_operator (s := .le) nofun nofun rfl (by simp)
    · exact exists_longestAt_of_operator (s := .ge) nofun nofun rfl (by simp)
  · have hhead : IsLead x → cs.head? ≠ some '=' := fun hlead h => hpair ⟨hlead, h⟩
    simp only [specials, List.mem_cons, List.not_mem_nil, or_false] at hx
    rcases hx with rfl | rfl | rfl | rfl | rfl | rfl | rfl | rfl | rfl
    · exact absurd (.inl rfl) hquote
    · exact absurd (.inr rfl) hquote
    · exact .inr (.equals (hhead (.inl rfl)))
    · exact .inl (exists_longestAt_of_operator (s := .bang) nofun nofun rfl fun _ =>
        hhead (.inr (.inl rfl)))
    · exact .inl (exists_longestAt_of_operator (s := .lt) nofun nofun rfl fun _ =>
        hhead (.inr (.inr (.inl rfl))))
    · exact .inl (exists_longestAt_of_operator (s := .gt) nofun nofun rfl fun _ =>
        hhead (.inr (.inr (.inr rfl))))
    · exact .inl (exists_longestAt_of_operator (s := .lparen) nofun nofun rfl (by simp))
    · exact .inl (exists_longestAt_of_operator (s := .rparen) nofun nofun rfl (by simp))
    · exact .inl (exists_longestAt_of_operator (s := .comma) nofun nofun rfl (by simp))

/-- Where there is no blank there is a lexeme, or none can be read. By cases of the character that
stands there. -/
theorem exists_longestAt_or_stuck (hx : Text.isBlank x = false) (cs : List Char) :
    (∃ l t rest, x :: cs = l ++ rest ∧ LongestAt (l ++ rest) l t) ∨ Stuck (x :: cs) := by
  by_cases hquote : IsQuote x
  · by_cases hmem : x ∈ cs
    · obtain ⟨body, rest, rfl, hbody⟩ := List.eq_append_cons_of_mem hmem
      have hlexeme := IsLexeme.quoted hquote hbody
      exact .inl ⟨_, _, rest, by simp, (longestAt_iff hlexeme).mpr (endsBefore_quoted hquote rest)⟩
    · exact .inr (.quote hquote hmem)
  · by_cases hname : isNameChar x = true
    · exact .inl (exists_longestAt_of_run hname cs)
    · refine exists_longestAt_or_stuck_of_special ?_ hquote cs
      by_contra hnot
      exact hname (isNameChar_iff.mpr ⟨hx, hnot⟩)

/-! ### All lexemes -/

/-- A lexeme in a text, with the blanks in front of it. -/
structure Piece where
  blanks : List Char
  lexeme : List Char

/-- Pieces one after the other, with the rest of a text behind them. -/
def spelled : List Piece → List Char → List Char
  | [], rest => rest
  | p :: ps, rest => p.blanks ++ (p.lexeme ++ spelled ps rest)

/-- Pieces that are cut off a text, each of them where its longest lexeme ends, with the tokens. -/
inductive Cut (rest : List Char) : List Piece → List Token → Prop
  | nil : Cut rest [] []
  | cons {p : Piece} {ps : List Piece} {t : Token} {ts : List Token} (hblanks : Blanks p.blanks)
      (hlongest : LongestAt (p.lexeme ++ spelled ps rest) p.lexeme t) (hmore : Cut rest ps ts) :
      Cut rest (p :: ps) (t :: ts)

/-- A text as pieces with nothing but blanks behind them. -/
structure Laid (text : String) (ps : List Piece) (last : List Char) (ts : List Token) : Prop where
  text_eq : text.toList = spelled ps last
  blanks : Blanks last
  cut : Cut last ps ts

/-- A text as pieces with a place behind them where no lexeme begins. -/
structure Blocked (text : String) (ps : List Piece) (blanks stuck : List Char) (ts : List Token) :
    Prop where
  text_eq : text.toList = spelled ps (blanks ++ stuck)
  cut : Cut (blanks ++ stuck) ps ts
  blanks : Blanks blanks
  stuck : Stuck stuck

variable {text : String} {ps ps' : List Piece}

theorem length_spelled (ps : List Piece) (rest : List Char) :
    (spelled ps rest).length = (spelled ps []).length + rest.length := by
  induction ps with
  | nil => simp [spelled]
  | cons p ps ih =>
    simp only [spelled, List.length_append, ih]
    omega

/-- What has been cut off is read as it stands. -/
theorem Cut.tokensOf_spelled (h : Cut rest ps ts) (total : Nat) :
    tokensOf total (spelled ps rest) = (do
      let us ← tokensOf total rest
      return ts ++ us) := by
  induction h with
  | nil => simp [spelled]
  | cons hblanks hlongest _ ih =>
    rw [spelled, tokensOf_lexeme hblanks (lexeme_of_longestAt hlongest), ih]
    simp

theorem Stuck.exists_cons (h : Stuck cs) : ∃ x tail, cs = x :: tail ∧ Text.isBlank x = false := by
  cases h with
  | quote hquote => exact ⟨_, _, rfl, by rcases hquote with rfl | rfl <;> decide⟩
  | equals => exact ⟨_, _, rfl, by decide⟩

theorem tokensOf_stuck (hblanks : Blanks blanks) (h : Stuck cs) (total : Nat) :
    tokensOf total (blanks ++ cs) = .error (.unexpectedCharacter (total - (blanks ++ cs).length)
      (String.ofList (blanks ++ cs))) := by
  have hnone : lexeme ((blanks ++ cs).dropWhile Text.isBlank) = none := by
    obtain ⟨x, tail, rfl, hx⟩ := h.exists_cons
    rw [dropWhile_blanks_append hblanks, List.dropWhile_cons_of_neg (by simp [hx])]
    exact lexeme_of_stuck h
  have hall : ¬ (blanks ++ cs).all Text.isBlank = true := by
    obtain ⟨x, tail, rfl, hx⟩ := h.exists_cons
    simp [hx]
  rw [tokensOf, if_neg hall]
  split
  · rfl
  · rename_i hsome
    rw [hnone] at hsome
    cases hsome

/-- How far the rest of a text can be read: to its end, or to a place where there is no lexeme. By
induction on its length. -/
theorem exists_cut (cs : List Char) :
    ∃ ps rest ts, cs = spelled ps rest ∧ Cut rest ps ts ∧
      (Blanks rest ∨ ∃ blanks stuck, rest = blanks ++ stuck ∧ Blanks blanks ∧ Stuck stuck) := by
  induction hn : cs.length using Nat.strongRecOn generalizing cs with
  | ind n ih =>
    have hblanks : Blanks (cs.takeWhile Text.isBlank) := fun c hc => List.mem_takeWhile_imp hc
    have hcs : cs.takeWhile Text.isBlank ++ cs.dropWhile Text.isBlank = cs :=
      List.takeWhile_append_dropWhile
    cases hdrop : cs.dropWhile Text.isBlank with
    | nil =>
      rw [hdrop, List.append_nil] at hcs
      exact ⟨[], cs, [], rfl, .nil, .inl (hcs ▸ hblanks)⟩
    | cons x tail =>
      have hx : Text.isBlank x = false := by
        have hhead := List.head?_dropWhile_not Text.isBlank cs
        rw [hdrop] at hhead
        exact hhead
      rw [hdrop] at hcs
      rcases exists_longestAt_or_stuck hx tail with ⟨l, t, rest, hl, hlongest⟩ | hstuck
      · have hlt : rest.length < n := by
          have hpos := List.length_pos_of_ne_nil hlongest.isLexeme.ne_nil
          rw [← hn, ← hcs, hl, List.length_append, List.length_append]
          omega
        obtain ⟨ps, last, ts, rfl, hcut, hend⟩ := ih rest.length hlt rest rfl
        exact ⟨⟨_, l⟩ :: ps, last, t :: ts, by rw [spelled, ← hl, hcs], .cons hblanks hlongest hcut,
          hend⟩
      · exact ⟨[], cs, [], rfl, .nil, .inr ⟨_, _, hcs.symm, hblanks, hstuck⟩⟩

/-- A text can be read, or there is a place where it cannot. -/
theorem exists_laid_or_blocked (text : String) :
    (∃ ps last ts, Laid text ps last ts) ∨
      ∃ ps blanks stuck ts, Blocked text ps blanks stuck ts := by
  obtain ⟨ps, rest, ts, htext, hcut, hend⟩ := exists_cut text.toList
  rcases hend with hblanks | ⟨blanks, stuck, rfl, hblanks, hstuck⟩
  · exact .inl ⟨ps, rest, ts, htext, hblanks, hcut⟩
  · exact .inr ⟨ps, blanks, stuck, ts, htext, hcut, hblanks, hstuck⟩

theorem Laid.tokenize_eq {last : List Char} (h : Laid text ps last ts) :
    tokenize text = .ok ts := by
  rw [tokenize, h.text_eq, h.cut.tokensOf_spelled, tokensOf_blanks h.blanks, ok_bind,
    List.append_nil]
  rfl

/-- The error of a text that is not read: where its last lexeme ends, and what is behind it. -/
def blockedError (ps : List Piece) (blanks stuck : List Char) : SyntaxError :=
  .unexpectedCharacter (spelled ps []).length (String.ofList (blanks ++ stuck))

theorem Blocked.tokenize_eq (h : Blocked text ps blanks stuck ts) :
    tokenize text = .error (blockedError ps blanks stuck) := by
  have hlength : (spelled ps (blanks ++ stuck)).length - (blanks ++ stuck).length =
      (spelled ps []).length := by
    rw [length_spelled ps (blanks ++ stuck)]
    omega
  rw [tokenize, h.text_eq, h.cut.tokensOf_spelled, tokensOf_stuck h.blanks h.stuck, hlength,
    error_bind, blockedError]

/-! ### What the tokens depend on -/

/-- The text of a lexeme determines its token. -/
theorem IsLexeme.unique (h : IsLexeme l t) (h' : IsLexeme l t') : t = t' := by
  have hread : ∀ {t : Token}, IsLexeme l t → lexeme (l ++ []) = some (t, []) := fun h =>
    lexeme_of_longestAt ((longestAt_iff h).mpr nofun)
  have heq := (hread h).symm.trans (hread h')
  simpa using heq

theorem Cut.unique {rest' : List Char} (h : Cut rest ps ts) (h' : Cut rest' ps' us)
    (heq : ps.map Piece.lexeme = ps'.map Piece.lexeme) : ts = us := by
  induction h generalizing ps' us with
  | nil =>
    cases h' with
    | nil => rfl
    | cons => cases heq
  | cons hblanks hlongest hmore ih =>
    cases h' with
    | nil => cases heq
    | cons hblanks' hlongest' hmore' =>
      obtain ⟨hlexeme, hrest⟩ := List.cons.inj heq
      rw [ih hmore' hrest, hlongest.isLexeme.unique (hlexeme ▸ hlongest'.isLexeme)]

/-- **The lexemes of a text.** A text is read exactly if it is its longest lexemes, one after the
other, with blanks around them, and then it is read as the tokens of these lexemes. It is not read
exactly if there is a place behind some lexemes where none begins, since a quote has no partner or
an equals sign is a single one; the error has this place and the text from there on. Where blanks
stand makes no difference as long as the lexemes are the same. -/
theorem tokenize_iff_laid (text : String) :
    (∀ ts, tokenize text = .ok ts ↔ ∃ ps last, Laid text ps last ts) ∧
    (∀ e, tokenize text = .error e ↔ ∃ ps blanks stuck ts,
      Blocked text ps blanks stuck ts ∧ e = blockedError ps blanks stuck) ∧
    ∀ text' ps ps' last last' ts ts', Laid text ps last ts → Laid text' ps' last' ts' →
      ps.map Piece.lexeme = ps'.map Piece.lexeme → tokenize text' = tokenize text := by
  refine ⟨fun ts => ⟨fun hok => ?_, fun ⟨_, _, hlaid⟩ => hlaid.tokenize_eq⟩,
    fun e => ⟨fun herror => ?_, ?_⟩, ?_⟩
  · rcases exists_laid_or_blocked text with ⟨ps, last, us, hlaid⟩ | ⟨_, _, _, _, hblocked⟩
    · rw [hlaid.tokenize_eq] at hok
      cases hok
      exact ⟨ps, last, hlaid⟩
    · rw [hblocked.tokenize_eq] at hok
      cases hok
  · rcases exists_laid_or_blocked text with ⟨_, _, _, hlaid⟩ | ⟨ps, blanks, stuck, ts, hblocked⟩
    · rw [hlaid.tokenize_eq] at herror
      cases herror
    · rw [hblocked.tokenize_eq] at herror
      cases herror
      exact ⟨ps, blanks, stuck, ts, hblocked, rfl⟩
  · rintro ⟨ps, blanks, stuck, ts, hblocked, rfl⟩
    exact hblocked.tokenize_eq
  · intro text' ps ps' last last' ts ts' hlaid hlaid' hlexemes
    rw [hlaid.tokenize_eq, hlaid'.tokenize_eq, hlaid.cut.unique hlaid'.cut hlexemes]

end Condition

end BuildDescriptor
