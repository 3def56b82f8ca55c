import BuildDescriptor.Text.Blank
import BuildDescriptor.Text.Quoted

/-!
# The lexemes of a condition

A condition guards a group of compile options of a project, as in

```
'$(Configuration)|$(Platform)'=='Debug|Win32' and !Exists('local.props')
```

Its lexemes are quoted strings, operators and names. A string runs to the next quote of the kind
that opened it. A name is a maximal run of characters that are neither blank nor part of a string
or an operator; the names `and` and `or`, in any letter case, are operators. Blanks separate
lexemes and have no other meaning.

## Main definitions

* `Condition.Symbol`, `Condition.Token` — operators and lexemes
* `Condition.lexeme` — the longest lexeme at the start of a text
* `Condition.tokenize` — all lexemes of a text
* `Condition.SyntaxError` — what is wrong with a text that is no condition

## Implementation notes

A text has no lexemes for two reasons only: a quote without its partner, and a lone `=`. The error
gives the place where the lexeme before ended, with the rest of the text from there on, so blanks
in front of the offending character are shown too.
-/

namespace BuildDescriptor

namespace Condition

/-- The operators of a condition. -/
inductive Symbol
  | eq
  | ne
  | le
  | ge
  | lt
  | gt
  | bang
  | lparen
  | rparen
  | comma
  | and
  | or
deriving DecidableEq, Repr

/-- The text of an operator. -/
def Symbol.text : Symbol → String
  | eq => "=="
  | ne => "!="
  | le => "<="
  | ge => ">="
  | lt => "<"
  | gt => ">"
  | bang => "!"
  | lparen => "("
  | rparen => ")"
  | comma => ","
  | and => "and"
  | or => "or"

/-- A lexeme. -/
inductive Token
  /-- A string, with its quotes. -/
  | quoted (text : String)
  | symbol (s : Symbol)
  | name (text : String)
deriving DecidableEq, Repr

/-- The text of a lexeme; that of an operator is in lower case. -/
def Token.text : Token → String
  | quoted text => text
  | symbol s => s.text
  | name text => text

/-- What is wrong with a text that is no condition. -/
inductive SyntaxError
  /-- No lexeme begins at a position; `rest` is the text from there on. -/
  | unexpectedCharacter (position : Nat) (rest : String)
  | endOfCondition
  | expectedClosing (found : Token)
  | unexpectedToken (found : Token)
  | unexpectedOperator (found : Symbol)
  | tooDeep
deriving DecidableEq, Repr

/-- The kind of this error, as it is reported. -/
def SyntaxError.kind : String := "ExpressionSyntaxError"

/-- The wording of an error. -/
def SyntaxError.message : SyntaxError → String
  | unexpectedCharacter position rest =>
    "Unexpected character at " ++ toString position ++ ": " ++ Text.quoted rest
  | endOfCondition => "Unexpected end of condition"
  | expectedClosing found => "Expected ')', found '" ++ found.text ++ "'"
  | unexpectedToken found => "Unexpected token '" ++ found.text ++ "'"
  | unexpectedOperator found => "Unexpected operator '" ++ found.text ++ "'"
  | tooDeep => "Condition is nested too deeply"

/-! ### One lexeme -/

/-- The characters that begin a string or an operator. -/
def isSpecial (c : Char) : Bool :=
  c == '\'' || c == '"' || c == '=' || c == '!' || c == '<' || c == '>' || c == '(' || c == ')' ||
    c == ','

/-- The characters of a name. -/
def isNameChar (c : Char) : Bool := !Text.isBlank c && !isSpecial c

/-- A name, unless it is one of the two operators that are words. -/
def word (cs : List Char) : Token :=
  let text := String.ofList cs
  if text.toLower = "and" then .symbol .and
  else if text.toLower = "or" then .symbol .or
  else .name text

/-- The string that a quote opens, if it is closed. -/
def quotedFrom (quote : Char) (cs : List Char) : Option (Token × List Char) :=
  match cs.dropWhile (· ≠ quote) with
  | [] => none
  | _ :: rest =>
    some (.quoted (String.ofList (quote :: cs.takeWhile (· ≠ quote) ++ [quote])), rest)

/-- The longest lexeme at the start of a text, and the text behind it. -/
def lexeme : List Char → Option (Token × List Char)
  | [] => none
  | '=' :: '=' :: cs => some (.symbol .eq, cs)
  | '!' :: '=' :: cs => some (.symbol .ne, cs)
  | '<' :: '=' :: cs => some (.symbol .le, cs)
  | '>' :: '=' :: cs => some (.symbol .ge, cs)
  | c :: cs =>
    if c = '\'' || c = '"' then quotedFrom c cs
    else if c = '<' then some (.symbol .lt, cs)
    else if c = '>' then some (.symbol .gt, cs)
    else if c = '!' then some (.symbol .bang, cs)
    else if c = '(' then some (.symbol .lparen, cs)
    else if c = ')' then some (.symbol .rparen, cs)
    else if c = ',' then some (.symbol .comma, cs)
    else if isNameChar c then some (word (c :: cs.takeWhile isNameChar), cs.dropWhile isNameChar)
    else none

theorem length_dropWhile_le {α : Type} (p : α → Bool) (l : List α) :
    (l.dropWhile p).length ≤ l.length :=
  (List.dropWhile_suffix p).length_le

theorem length_lt_of_quotedFrom {quote : Char} {cs rest : List Char} {t : Token}
    (h : quotedFrom quote cs = some (t, rest)) : rest.length < cs.length := by
  have hle := length_dropWhile_le (· ≠ quote) cs
  unfold quotedFrom at h
  split at h
  · simp at h
  · rename_i heq
    rw [heq, List.length_cons] at hle
    simp only [Option.some.injEq, Prod.mk.injEq] at h
    rw [← h.2]
    omega

theorem length_lt_of_lexeme {cs rest : List Char} {t : Token} (h : lexeme cs = some (t, rest)) :
    rest.length < cs.length := by
  unfold lexeme at h
  split at h
  · simp at h
  iterate 4
    · simp only [Option.some.injEq, Prod.mk.injEq] at h
      rw [← h.2]
      simp only [List.length_cons]
      omega
  · rename_i c cs _ _ _ _
    have hle := length_dropWhile_le isNameChar cs
    rw [List.length_cons]
    repeat' split at h
    · exact Nat.lt_succ_of_lt (length_lt_of_quotedFrom h)
    all_goals
      simp only [Option.some.injEq, Prod.mk.injEq, reduceCtorEq] at h
    all_goals
      rw [← h.2]
      omega

/-! ### All lexemes -/

/-- The lexemes of the rest of a text, which is `total` characters long. -/
def tokensOf (total : Nat) (cs : List Char) : Except SyntaxError (List Token) :=
  if cs.all Text.isBlank then .ok []
  else match _h : lexeme (cs.dropWhile Text.isBlank) with
    | none => .error (.unexpectedCharacter (total - cs.length) (String.ofList cs))
    | some (t, rest) => do
      let ts ← tokensOf total rest
      return t :: ts
termination_by cs.length
decreasing_by
  exact Nat.lt_of_lt_of_le (length_lt_of_lexeme ‹_›) (length_dropWhile_le _ _)

/-- The lexemes of a text. -/
def tokenize (text : String) : Except SyntaxError (List Token) :=
  tokensOf text.toList.length text.toList

end Condition

end BuildDescriptor
