/-!
# Compiler flags

A compiler command is a line of words separated by spaces. A *flag* is a word that begins with `-`
or `/`: the character after that is its kind, and the rest of the word its argument, which may be
empty. The first word names the compiler and is no flag, whatever it looks like; a lone `-` or `/`
is none either. Only the space separates words. Quotes and tabs are characters of a word like any
other.

## The scanner

Flags are found by a scanner that looks at one character at a time. It can be used for one command
after another: a scan begins by forgetting the flags of the command before and the place where that
command ended. The kind and the argument it was collecting are *not* forgotten, which is harmless,
because both are written before they are read.

## Main definitions

* `Flag` — a kind and an argument
* `Flag.Scanner`, `Flag.Scanner.step`, `Flag.Scanner.scan` — the scanner, one character, one command
* `Flag.scan` — the flags of a command
-/

namespace BuildDescriptor

/-- A word of a command such as `-DNAME` or `/Iinclude`. -/
structure Flag where
  /-- The character after the `-` or `/`. -/
  kind : Char
  /-- What follows the kind, up to the next space. -/
  argument : String
deriving DecidableEq, Repr

namespace Flag

/-- The characters that begin a flag. -/
def isMarker (c : Char) : Bool := c == '-' || c == '/'

/-- Where in the command the scanner is. -/
inductive Phase
  /-- Inside a word that is no flag, before the space that ends it. -/
  | seekingSpace
  /-- At the first character of a word. -/
  | atWord
  /-- At the character that gives the kind of a flag. -/
  | atKind
  /-- Inside the argument of a flag. -/
  | inArgument
deriving DecidableEq, Repr

/-- A scanner, with the flag it is collecting and the flags it has found. -/
structure Scanner where
  phase : Phase := .seekingSpace
  kind : Char := ' '
  argument : String := ""
  flags : List Flag := []
deriving DecidableEq, Repr

namespace Scanner

/-- Record the flag that has been collected. -/
def emit (s : Scanner) : Scanner :=
  { s with flags := s.flags ++ [⟨s.kind, s.argument⟩] }

/-- Take one character. -/
def step (s : Scanner) (c : Char) : Scanner :=
  match s.phase with
  | .seekingSpace => if c = ' ' then { s with phase := .atWord } else s
  | .atWord =>
    if isMarker c then { s with phase := .atKind }
    else if c = ' ' then s
    else { s with phase := .seekingSpace }
  | .atKind =>
    { s with kind := c, argument := "", phase := if c = ' ' then .atWord else .inArgument }
  | .inArgument =>
    if c = ' ' then { s.emit with phase := .atWord } else { s with argument := s.argument.push c }

/-- Get ready for another command. -/
def restart (s : Scanner) : Scanner :=
  { s with phase := .seekingSpace, flags := [] }

/-- Record a flag that the end of the command cuts off. -/
def finish (s : Scanner) : Scanner :=
  if s.phase = .inArgument then s.emit else s

/-- Scan a whole command. -/
def scan (s : Scanner) (command : String) : Scanner :=
  (command.toList.foldl step s.restart).finish

end Scanner

/-- The flags of a command, in order. -/
def scan (command : String) : List Flag :=
  (({} : Scanner).scan command).flags

end Flag

end BuildDescriptor
