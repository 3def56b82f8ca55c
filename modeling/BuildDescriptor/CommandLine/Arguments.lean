import BuildDescriptor.Text.Digit
import BuildDescriptor.Text.Quoted

/-!
# Command-line arguments

A list of arguments consists of switches, the values of some switches, and at most one positional
argument. Switches have short names (`-v`) and long ones (`--verbose`).

* A long name may be abbreviated, as long as only one name begins in that way.
* The value of a switch is the next argument, or stands behind an equals sign (`--platform=win64`),
  or directly behind a short name (`-pwin64`).
* Short switches without values may share a hyphen (`-vp win64`).
* After the argument `--` there are no switches.
* An argument that begins with a hyphen but is a number, contains a space or is the hyphen alone is
  no switch.

The grammar leaves some corners open, and not all releases of argument readers agree on them. Those
of this reader are the ones of the first releases of series 3.11:

* What shares a hyphen with a switch is another switch or a mistake (`-h1`).
* An equals sign behind a switch without a value is passed over (`-v=p win64`), but it belongs to
  the value of one that comes later (`-vp=win64` asks for the platform `=win64`).
* Two hyphens that are attached to a switch are no value, and take back a value given before
  (`-p=--`).

Later ones give help on `-h1`, refuse `-v=p`, ask for the platform `win64` in `-vp=win64`, and take
the two hyphens as a value. All that is proved about commands is about the request that the
arguments come to, whichever arguments these are.

A positional argument is a single one, or it takes all arguments that follow, switches included, and
leaves them to someone else. Arguments that belong to nothing are left over.

## How arguments are read

First every argument is marked as to what it may be, on its own and without regard to its place. The
marks are then consumed from the left. A list of arguments can be wrong in the marking as well as in
the consumption, and the first fault found in this order is the one reported. Switches take effect
in the order in which they stand, so help that is asked for before a later fault is given.

## Main definitions

* `CommandLine.Switch`, `CommandLine.Grammar` — what a list of arguments may contain
* `CommandLine.UsageError` — what is wrong with a list of arguments
* `CommandLine.Grammar.mark` — what an argument may be
* `CommandLine.Grammar.read` — the switches, the positional argument and the rest
-/

namespace BuildDescriptor

namespace CommandLine

/-- The switches of all commands. -/
inductive Switch
  | help
  | version
  | json
  | platform
  | platformFile
  | verbose
deriving DecidableEq, Repr

namespace Switch

/-- The names of a switch. -/
def names : Switch → List String
  | help => ["-h", "--help"]
  | version => ["--version"]
  | json => ["--json"]
  | platform => ["-p", "--platform"]
  | platformFile => ["--platform-file"]
  | verbose => ["-v", "--verbose"]

/-- Whether a switch has a value. -/
def takesValue : Switch → Bool
  | platform => true
  | platformFile => true
  | _ => false

/-- How errors refer to a switch. -/
def label (s : Switch) : String := "/".intercalate s.names

end Switch

/-- The positional argument of a command. -/
inductive Positional
  | none
  /-- One argument. -/
  | single (name : String)
  /-- One of several words, and everything behind it. -/
  | word (name : String) (choices : List String)
deriving DecidableEq, Repr

/-- What a list of arguments may contain. -/
structure Grammar where
  switches : List Switch
  positional : Positional

/-- What is wrong with a list of arguments. -/
inductive UsageError
  | ambiguous (argument : String) (matching : List String)
  | missingValue (s : Switch)
  | ignoredValue (s : Switch) (value : String)
  | invalidChoice (name value : String) (choices : List String)
  | missingPositional (name : String)
  | unrecognized (arguments : List String)
deriving DecidableEq, Repr

/-- The wording of an error. -/
def UsageError.message : UsageError → String
  | ambiguous argument matching =>
    "ambiguous option: " ++ argument ++ " could match " ++ ", ".intercalate matching
  | missingValue s => "argument " ++ s.label ++ ": expected one argument"
  | ignoredValue s value =>
    "argument " ++ s.label ++ ": ignored explicit argument " ++ Text.quoted value
  | invalidChoice name value choices =>
    "argument " ++ name ++ ": invalid choice: " ++ Text.quoted value ++ " (choose from " ++
      ", ".intercalate (choices.map Text.quoted) ++ ")"
  | missingPositional name => "the following arguments are required: " ++ name
  | unrecognized arguments => "unrecognized arguments: " ++ " ".intercalate arguments

/-! ### Marking -/

/-- A switch in an argument, by the name that was used for it, with what the argument attaches to
it. -/
structure Use where
  switch : Switch
  name : String
  attached : Option String
deriving DecidableEq, Repr

/-- What an argument may be. -/
inductive Mark
  /-- The argument `--`. -/
  | separator
  | plain
  | switch (use : Use)
  /-- It looks like a switch, but there is none of that name. -/
  | unknown
deriving DecidableEq, Repr

/-- An argument, and what it may be. -/
structure Argument where
  text : String
  mark : Mark
deriving DecidableEq, Repr

/-- Whether characters are nothing, or the end of one line. -/
def isAtMostNewline (cs : List Char) : Bool := cs.isEmpty || cs = ['\n']

/-- Whether a text is a number with a minus sign. One line end may follow it. -/
def isNegativeNumber (s : String) : Bool :=
  match s.toList with
  | '-' :: cs =>
    let isDigit := fun c => (Text.digitValue? c).isSome
    let whole := cs.takeWhile isDigit
    match cs.dropWhile isDigit with
    | '.' :: cs => !(cs.takeWhile isDigit).isEmpty && isAtMostNewline (cs.dropWhile isDigit)
    | rest => !whole.isEmpty && isAtMostNewline rest
  | _ => false

/-- What stands before and behind the first equals sign of a text. -/
def splitAssignment (s : String) : String × Option String :=
  let name := String.ofList (s.toList.takeWhile (· ≠ '='))
  match s.toList.dropWhile (· ≠ '=') with
  | [] => (name, none)
  | _ :: v => (name, some (String.ofList v))

namespace Grammar

/-- All names of switches, each with its switch. -/
def names (g : Grammar) : List (String × Switch) :=
  g.switches.flatMap fun s => s.names.map (·, s)

/-- The switch with a name. -/
def named? (g : Grammar) (name : String) : Option Switch := g.names.lookup name

/-- The switches that an argument may mean, if its text is no name as it stands. -/
def candidates (g : Grammar) (argument : String) : List Use :=
  if "--".toList.isPrefixOf argument.toList then
    let (start, attached) := splitAssignment argument
    g.names.filterMap fun (name, s) =>
      if start.toList.isPrefixOf name.toList then some ⟨s, name, attached⟩ else none
  else
    let short := String.ofList (argument.toList.take 2)
    let attached := String.ofList (argument.toList.drop 2)
    g.names.filterMap fun (name, s) =>
      if name = short then some ⟨s, name, some attached⟩
      else if argument.toList.isPrefixOf name.toList then some ⟨s, name, none⟩
      else none

/-- What an argument may be, by itself. -/
def mark (g : Grammar) (argument : String) : Except UsageError Mark :=
  if argument.toList.head? ≠ some '-' then .ok .plain
  else match g.named? argument with
    | some s => .ok (.switch ⟨s, argument, none⟩)
    | none =>
      if argument = "-" then .ok .plain
      else
        let assigned := match splitAssignment argument with
          | (name, some v) => (g.named? name).map fun s => Use.mk s name (some v)
          | (_, none) => none
        match assigned with
        | some use => .ok (.switch use)
        | none =>
          match g.candidates argument with
          | [use] => .ok (.switch use)
          | [] =>
            if isNegativeNumber argument || argument.toList.contains ' ' then .ok .plain
            else .ok .unknown
          | uses => .error (.ambiguous argument (uses.map Use.name))

/-- The marks of a list of arguments. -/
def marks (g : Grammar) : List String → Except UsageError (List Argument)
  | [] => .ok []
  | argument :: rest =>
    if argument = "--" then
      .ok (⟨argument, .separator⟩ :: rest.map fun text => ⟨text, .plain⟩)
    else do
      let mark ← g.mark argument
      let others ← g.marks rest
      return ⟨argument, mark⟩ :: others

end Grammar

/-! ### Consumption -/

/-- What a list of arguments contains, up to the first fault in it. -/
structure Reading where
  /-- The switches in order, with their values. -/
  switches : List (Switch × Option String) := []
  /-- The positional argument, with what it takes along. -/
  positional : List String := []
  leftOver : List String := []
  fault : Option UsageError := none
deriving DecidableEq, Repr

/-- The value of a switch that is not attached to it, and the arguments behind it. -/
def nextValue (s : Switch) : List Argument → Except UsageError (String × List Argument)
  | ⟨text, .plain⟩ :: rest => .ok (text, rest)
  | _ => .error (.missingValue s)

/-- The value that an attached text is. -/
def attachedValue (text : String) : Option String :=
  if text = "--" then none else some text

/-- The switches that share one argument, and the arguments behind it. The argument is taken apart
in rounds, one for each switch in it. -/
def consumeSwitch (g : Grammar) : Nat → Use → List Argument →
    Except UsageError (List (Switch × Option String) × List Argument)
  | 0, _, rest => .ok ([], rest)
  | rounds + 1, use, rest =>
    match use.attached with
    | none =>
      if use.switch.takesValue then do
        let (v, rest) ← nextValue use.switch rest
        return ([(use.switch, some v)], rest)
      else .ok ([(use.switch, none)], rest)
    | some attached =>
      if use.switch.takesValue then .ok ([(use.switch, attachedValue attached)], rest)
      else match attached.toList with
        | [] => .error (.ignoredValue use.switch attached)
        | c :: cs =>
          let name := String.ofList ['-', c]
          match g.named? name with
          | none => .error (.ignoredValue use.switch attached)
          | some s =>
            if "--".toList.isPrefixOf use.name.toList then
              .error (.ignoredValue use.switch attached)
            else do
              let behind := if cs.isEmpty then none else some (String.ofList cs)
              let (others, rest) ← consumeSwitch g rounds ⟨s, name, behind⟩ rest
              return ((use.switch, none) :: others, rest)

/-- The positional argument, if the arguments begin with it, and the arguments behind it. The first
separator is no part of a single argument. -/
def consumePositional : Positional → List Argument → Option (List String × List Argument)
  | .none, _ => none
  | .single _, ⟨text, .plain⟩ :: ⟨_, .separator⟩ :: rest => some ([text], rest)
  | .single _, ⟨text, .plain⟩ :: rest => some ([text], rest)
  | .single _, ⟨_, .separator⟩ :: ⟨text, .plain⟩ :: rest => some ([text], rest)
  | .word _ _, ⟨text, .plain⟩ :: rest => some (text :: rest.map Argument.text, [])
  | .word _ _, ⟨dashes, .separator⟩ :: ⟨text, .plain⟩ :: rest =>
    some (dashes :: text :: rest.map Argument.text, [])
  | _, _ => none

/-- Consume marked arguments, in rounds that each take at least one of them. -/
def consume (g : Grammar) : Nat → Positional → List Argument → Reading
  | 0, _, arguments => { leftOver := arguments.map Argument.text }
  | rounds + 1, positional, arguments =>
    match arguments with
    | [] => {}
    | ⟨text, .switch use⟩ :: rest =>
      match consumeSwitch g text.length use rest with
      | .error fault => { fault := some fault }
      | .ok (found, rest) =>
        let r := consume g rounds positional rest
        { r with switches := found ++ r.switches }
    | ⟨text, .unknown⟩ :: rest =>
      let r := consume g rounds positional rest
      { r with leftOver := text :: r.leftOver }
    | a :: rest =>
      match consumePositional positional (a :: rest) with
      | some (taken, rest) =>
        let r := consume g rounds .none rest
        { r with positional := taken ++ r.positional }
      | none =>
        let r := consume g rounds positional rest
        { r with leftOver := a.text :: r.leftOver }

/-- What a list of arguments contains. -/
def Grammar.read (g : Grammar) (arguments : List String) : Reading :=
  match g.marks arguments with
  | .error fault => { fault := some fault }
  | .ok marked => consume g marked.length g.positional marked

/-- Whether a switch has been given. -/
def Reading.has (r : Reading) (s : Switch) : Bool := (r.switches.lookup s).isSome

/-- The value of a switch that has been given last, if there is any. -/
def Reading.value? (r : Reading) (s : Switch) : Option String := (r.switches.reverse.lookup s).join

end CommandLine

end BuildDescriptor
