import BuildDescriptor.Proofs.Database.Commands
import BuildDescriptor.Proofs.Database.Elements
import Mathlib.Data.List.Forall2

/-!
# Invocations of a compiler

A record gives the invocation of a compiler in one of two forms, as a text with spaces between the
words or as the list of the words. Either way the unit is told by the words: by those that are
directives, which define a macro, undefine one or add a directory, in the order in which they stand.

An argument is any text without spaces. It may begin with a marker or hold a quote, because nothing
looks at it again. And what stands among the directives is passed over. It may be a flag, as long as
it has another kind or no argument, or a marker that nothing follows.

The number of spaces between two words does not matter. All that is shown about texts with spaces
follows from one equation: the flags of two texts with a space between them are those of the first
and then those of the second. Two spaces are an empty text between two spaces, and an empty text has
no flags.

## Main definitions

* `Directive`, `Bystander`, `Invocation` — the words behind the name of a compiler
* `Invocation.unit` — the unit that they tell
* `Spaced` — a text with one or more spaces between the words
* `Job.GivenBy` — the two forms of a record

## Main results

* `Flag.among_append_space` — the equation
* `Invocation.ofCommand_eq` — an invocation as one text
* `Database.importText_of_jobs` — a database of invocations
-/

namespace BuildDescriptor

/-! ### Words -/

/-- What a directive does. -/
inductive Action
  | define
  | undefine
  | search
deriving DecidableEq, Repr

/-- The kind of the flags that do this. -/
def Action.letter : Action → Char
  | define => 'D'
  | undefine => 'U'
  | search => 'I'

/-- What a flag begins with. -/
inductive Marker
  | hyphen
  | slash
deriving DecidableEq, Repr

def Marker.char : Marker → Char
  | hyphen => '-'
  | slash => '/'

/-- A text that is not empty and has no space in it. -/
structure Atom where
  text : String
  ne_empty : text ≠ ""
  noSpace : ' ' ∉ text.toList

/-- A flag that a unit keeps. -/
structure Directive where
  action : Action
  marker : Marker
  argument : Atom

/-- The word that a directive is. -/
def Directive.text (d : Directive) : String :=
  String.ofList (d.marker.char :: d.action.letter :: d.argument.text.toList)

/-- Any other word. -/
structure Bystander where
  text : String
  noSpace : ' ' ∉ text.toList
  noDirective : ∀ d : Directive, d.text ≠ text

/-- A word of an invocation. -/
inductive Word
  | directive (d : Directive)
  | bystander (b : Bystander)

namespace Word

def text : Word → String
  | directive d => d.text
  | bystander b => b.text

/-- The argument of a word, if it is a directive with the given action. -/
def argument? (a : Action) : Word → Option String
  | directive d => if d.action = a then some d.argument.text else none
  | bystander _ => none

end Word

/-- A compiler, with the words behind it. -/
structure Invocation where
  compiler : Atom
  words : List Word

namespace Invocation

/-- All words, the name of the compiler first. -/
def texts (inv : Invocation) : List String :=
  inv.compiler.text :: inv.words.map Word.text

/-- The arguments of the directives with an action, in order and with repetitions. -/
def arguments (inv : Invocation) (a : Action) : List String :=
  inv.words.filterMap (Word.argument? a)

/-- The unit that an invocation tells. -/
def unit (inv : Invocation) (file : String) : CompileUnit where
  file := Path.forwardSlashes file
  defines := inv.arguments .define
  undefs := NameSet.ofList (inv.arguments .undefine)
  includes := inv.arguments .search

end Invocation

/-! ### Spaces -/

/-- A text that has the given words, with one or more spaces between two of them. -/
inductive Spaced : List String → String → Prop
  | last (word : String) : Spaced [word] word
  | cons (word : String) (more : Nat) {words : List String} {text : String}
      (h : Spaced words text) :
      Spaced (word :: words) (word ++ " " ++ (String.ofList (List.replicate more ' ') ++ text))

theorem spaced_intercalate {words : List String} (h : words ≠ []) :
    Spaced words (" ".intercalate words) := by
  induction words with
  | nil => exact absurd rfl h
  | cons word words ih =>
    cases words with
    | nil => exact .last word
    | cons next words =>
      have hnext := Spaced.cons word 0 (ih (by simp))
      simpa [String.intercalate_cons_cons] using hnext

theorem filterMap_cons_eq_append {α β : Type} (f : α → Option β) (x : α) (xs : List α) :
    (x :: xs).filterMap f = (f x).toList ++ xs.filterMap f := by
  rw [List.filterMap_eq_flatMap_toList, List.filterMap_eq_flatMap_toList, List.flatMap_cons]

namespace Flag

variable {text word : String} {words : List String}

/-- The flags among all words of a text, the first word included. -/
def among (text : String) : List Flag := (Text.splitAt ' ' text).filterMap ofWord?

/-- **The flags of a text, cut at a space.** -/
theorem among_append_space (before after : String) :
    among (before ++ " " ++ after) = among before ++ among after := by
  rw [among, Text.splitAt_append rfl, List.filterMap_append]
  rfl

theorem among_empty : among "" = [] := by
  simp [among, Text.splitAt, ofWord?]

theorem among_of_not_mem (h : ' ' ∉ word.toList) : among word = (ofWord? word).toList := by
  rw [among, Text.splitAt_of_not_mem h, filterMap_cons_eq_append, List.filterMap_nil,
    List.append_nil]

theorem among_spaces_append (more : Nat) (text : String) :
    among (String.ofList (List.replicate more ' ') ++ text) = among text := by
  induction more with
  | zero => simp
  | succ more ih =>
    have hspace : String.ofList (List.replicate (more + 1) ' ') ++ text =
        "" ++ " " ++ (String.ofList (List.replicate more ' ') ++ text) := by
      rw [← String.toList_inj]
      simp [List.replicate_succ]
    rw [hspace, among_append_space, among_empty, ih, List.nil_append]

/-- The first word is no flag. -/
theorem scan_append_space (h : ' ' ∉ word.toList) (text : String) :
    scan (word ++ " " ++ text) = among text := by
  rw [scan, Scanner.flags_scan, Text.splitAt_append rfl, Text.splitAt_of_not_mem h]
  rfl

theorem scan_of_not_mem (h : ' ' ∉ word.toList) : scan word = [] := by
  rw [scan, Scanner.flags_scan, Text.splitAt_of_not_mem h]
  rfl

end Flag

namespace Spaced

variable {text word : String} {words : List String}

theorem ne_empty (h : Spaced (word :: words) text) (hword : word ≠ "") : text ≠ "" := by
  cases h with
  | last => exact hword
  | cons _ more h =>
    intro hempty
    have hlist := congrArg String.toList hempty
    simp at hlist

theorem among_eq (h : Spaced words text) (hwords : ∀ w ∈ words, ' ' ∉ w.toList) :
    Flag.among text = words.filterMap Flag.ofWord? := by
  induction h with
  | last word =>
    rw [Flag.among_of_not_mem (hwords word (by simp)), filterMap_cons_eq_append, List.filterMap_nil,
      List.append_nil]
  | @cons word more words text _ ih =>
    rw [Flag.among_append_space, Flag.among_spaces_append,
      Flag.among_of_not_mem (hwords word (by simp)), filterMap_cons_eq_append,
      ih fun w hw => hwords w (List.mem_cons_of_mem _ hw)]

theorem scan_eq (h : Spaced (word :: words) text) (hwords : ∀ w ∈ word :: words, ' ' ∉ w.toList) :
    Flag.scan text = words.filterMap Flag.ofWord? := by
  cases h with
  | last => exact Flag.scan_of_not_mem (hwords _ (by simp))
  | cons _ more h =>
    rw [Flag.scan_append_space (hwords word (by simp)), Flag.among_spaces_append,
      h.among_eq fun w hw => hwords w (List.mem_cons_of_mem _ hw)]

end Spaced

/-! ### The words of an invocation -/

theorem Action.letter_inj {a b : Action} (h : a.letter = b.letter) : a = b := by
  cases a <;> cases b <;> first | rfl | cases h

theorem Marker.isMarker_char (m : Marker) : Flag.isMarker m.char = true := by
  cases m <;> rfl

theorem Marker.exists_char {c : Char} (h : Flag.isMarker c = true) : ∃ m : Marker, m.char = c := by
  simp only [Flag.isMarker, Bool.or_eq_true, beq_iff_eq] at h
  rcases h with rfl | rfl
  · exact ⟨.hyphen, rfl⟩
  · exact ⟨.slash, rfl⟩

theorem exists_marker_of_ofWord? {word : String} {f : Flag} (h : Flag.ofWord? word = some f) :
    ∃ m : Marker, word.toList = m.char :: f.kind :: f.argument.toList := by
  unfold Flag.ofWord? at h
  split at h
  · rename_i marker kind argument hword
    split at h
    · rename_i hmarker
      cases h
      obtain ⟨m, rfl⟩ := Marker.exists_char hmarker
      exact ⟨m, by simpa using hword⟩
    · cases h
  · cases h

theorem Directive.ofWord?_text (d : Directive) :
    Flag.ofWord? d.text = some ⟨d.action.letter, d.argument.text⟩ := by
  simp [Flag.ofWord?, Directive.text, d.marker.isMarker_char]

theorem Directive.not_mem_text (d : Directive) : ' ' ∉ d.text.toList := by
  have hmarker : ' ' ≠ d.marker.char := by cases d.marker <;> decide
  have hletter : ' ' ≠ d.action.letter := by cases d.action <;> decide
  simp [Directive.text, hmarker, hletter, d.argument.noSpace]

/-- A word that is no directive is no flag, or a flag of another kind or without an argument. -/
theorem noDirective_iff {word : String} (hspace : ' ' ∉ word.toList) :
    (∀ d : Directive, d.text ≠ word) ↔
      ∀ a : Action, Flag.argumentsOf a.letter (Flag.ofWord? word).toList = [] := by
  constructor
  · intro hword a
    cases hflag : Flag.ofWord? word with
    | none => rfl
    | some f =>
      rw [Option.toList_some, Flag.argumentsOf_singleton, if_neg]
      rintro ⟨hkind, hargument⟩
      obtain ⟨m, hm⟩ := exists_marker_of_ofWord? hflag
      rw [hm, List.mem_cons, List.mem_cons, not_or, not_or] at hspace
      refine hword ⟨a, m, f.argument, hargument, hspace.2.2⟩ ?_
      rw [Directive.text, ← hkind, ← hm, String.ofList_toList]
  · rintro hnone d rfl
    have hargument := hnone d.action
    rw [d.ofWord?_text, Option.toList_some, Flag.argumentsOf_singleton,
      if_pos ⟨rfl, d.argument.ne_empty⟩] at hargument
    cases hargument

namespace Word

theorem not_mem_text (w : Word) : ' ' ∉ w.text.toList := by
  cases w with
  | directive d => exact d.not_mem_text
  | bystander b => exact b.noSpace

theorem argumentsOf_ofWord? (w : Word) (a : Action) :
    Flag.argumentsOf a.letter (Flag.ofWord? w.text).toList = (w.argument? a).toList := by
  cases w with
  | directive d =>
    have hkind : d.action.letter = a.letter ↔ d.action = a :=
      ⟨Action.letter_inj, congrArg Action.letter⟩
    rw [text, d.ofWord?_text, Option.toList_some, Flag.argumentsOf_singleton, argument?]
    by_cases h : d.action = a
    · simp [h, d.argument.ne_empty]
    · simp [h, hkind]
  | bystander b => exact (noDirective_iff b.noSpace).mp b.noDirective a

end Word

namespace Invocation

variable {inv : Invocation} {text : String}

theorem not_mem_of_mem_texts : ∀ w ∈ inv.texts, ' ' ∉ w.toList := by
  intro w hw
  rcases List.mem_cons.mp hw with rfl | hw
  · exact inv.compiler.noSpace
  · obtain ⟨word, -, rfl⟩ := List.mem_map.mp hw
    exact word.not_mem_text

theorem argumentsOf_texts (words : List Word) (a : Action) :
    Flag.argumentsOf a.letter ((words.map Word.text).filterMap Flag.ofWord?) =
      words.filterMap (Word.argument? a) := by
  induction words with
  | nil => rfl
  | cons word words ih =>
    rw [List.map_cons, filterMap_cons_eq_append, filterMap_cons_eq_append, Flag.argumentsOf_append,
      word.argumentsOf_ofWord?, ih]

/-- **An invocation as one text.** Its unit is what the words tell. -/
theorem ofCommand_eq (h : Spaced inv.texts text) (file : String) :
    CompileUnit.ofCommand file text = inv.unit file := by
  have hflags : ∀ a : Action, Flag.argumentsOf a.letter (Flag.scan text) = inv.arguments a := by
    intro a
    rw [Spaced.scan_eq h not_mem_of_mem_texts, argumentsOf_texts, arguments]
  rw [CompileUnit.ofCommand, unit, ← hflags, ← hflags, ← hflags]
  rfl

theorem ne_empty_of_spaced (h : Spaced inv.texts text) : text ≠ "" :=
  Spaced.ne_empty h inv.compiler.ne_empty

end Invocation

/-! ### Records -/

/-- A source file, with the invocation that compiles it. -/
structure Job where
  file : String
  file_ne_empty : file ≠ ""
  invocation : Invocation

namespace Job

/-- The unit of a job. -/
def unit (job : Job) : CompileUnit := job.invocation.unit job.file

/-- The two forms in which a record can give a job: the invocation is a text, or the list of its
words. -/
inductive GivenBy (job : Job) (r : Json) : Prop
  | text {command : String} (hfile : r.member? "file" = some (.string job.file))
      (hcommand : r.member? "command" = some (.string command))
      (hspaced : Spaced job.invocation.texts command)
  | words (hfile : r.member? "file" = some (.string job.file))
      (hcommand : ∀ command, r.member? "command" ≠ some (.string command))
      (hwords : r.member? "arguments" = some (.array (job.invocation.texts.map .string)))

variable {job : Job} {r : Json}

/-- The list of words is as good as a text with one space between two of them. -/
theorem GivenBy.exists_usable (h : job.GivenBy r) :
    ∃ command, Database.Usable r job.file command ∧ Spaced job.invocation.texts command := by
  cases h with
  | text hfile hcommand hspaced =>
    exact ⟨_, ⟨hfile, .text hcommand, job.file_ne_empty, Invocation.ne_empty_of_spaced hspaced⟩,
      hspaced⟩
  | words hfile hcommand hwords =>
    have hspaced := spaced_intercalate (List.cons_ne_nil _ _ : job.invocation.texts ≠ [])
    exact ⟨_, ⟨hfile, .words hcommand hwords, job.file_ne_empty,
      Invocation.ne_empty_of_spaced hspaced⟩, hspaced⟩

end Job

namespace Database

variable {text : String} {rs : List Json} {jobs : List Job}

theorem becomes_of_jobs (h : List.Forall₂ Job.GivenBy jobs rs) (i : Nat) :
    Becomes i rs (jobs.map Job.unit) [] := by
  induction h generalizing i with
  | nil => exact .nil
  | @cons job r jobs rs hjob _ ih =>
    obtain ⟨command, husable, hspaced⟩ := hjob.exists_usable
    have hunit : CompileUnit.ofCommand job.file command = job.unit :=
      Invocation.ofCommand_eq hspaced job.file
    rw [List.map_cons, ← hunit]
    exact .unit husable (ih (i + 1))

/-- **A database of invocations.** Each record gives the unit that its invocation tells, be it a
text or a list of words, and no record is passed over. -/
theorem importText_of_jobs [Json.Capacity] (h : Json.decode text = .ok (.array rs))
    (hjobs : List.Forall₂ Job.GivenBy jobs rs) :
    importText (.ok text) =
      .ok ⟨jobs.map Job.unit, [.databaseImported jobs.length jobs.length]⟩ := by
  obtain ⟨hunits, hskipped⟩ := (becomes_unitsOf rs).unique (becomes_of_jobs hjobs 0)
  rw [importText_of_array h, hunits, hskipped, List.length_map, hjobs.length_eq, List.nil_append]

namespace InvocationSample

def atom (text : String) (h : text ≠ "" ∧ ' ' ∉ text.toList) : Atom := ⟨text, h.1, h.2⟩

def bystander (text : String)
    (h : ' ' ∉ text.toList ∧
      ∀ a : Action, Flag.argumentsOf a.letter (Flag.ofWord? text).toList = []) : Word :=
  .bystander ⟨text, h.1, (noDirective_iff h.1).mpr h.2⟩

/-- A definition that stands there twice, and an argument that looks like a flag. Among them are a
lone marker, a flag of another kind and a flag without an argument. -/
def job : Job where
  file := "s\\a.c"
  file_ne_empty := by decide
  invocation :=
    { compiler := atom "cl" (by decide)
      words :=
        [.directive ⟨.define, .slash, atom "A=1" (by decide)⟩,
          bystander "-" ⟨by decide, by rintro (_ | _) <;> decide⟩,
          .directive ⟨.search, .hyphen, atom "inc" (by decide)⟩,
          bystander "/O2" ⟨by decide, by rintro (_ | _) <;> decide⟩,
          .directive ⟨.define, .hyphen, atom "A=1" (by decide)⟩,
          .directive ⟨.undefine, .hyphen, atom "-D" (by decide)⟩,
          bystander "-D" ⟨by decide, by rintro (_ | _) <;> decide⟩] }

def command : String := "cl /DA=1  - -Iinc /O2   -DA=1 -U-D -D"

theorem spaced : Spaced job.invocation.texts command := by
  have hspaced := Spaced.cons "cl" 0 (.cons "/DA=1" 1 (.cons "-" 0 (.cons "-Iinc" 0 (.cons "/O2" 2
    (.cons "-DA=1" 0 (.cons "-U-D" 0 (.last "-D")))))))
  convert hspaced using 1
  · decide +kernel
  · decide +kernel

def textRecord : Json := .object [("file", .string "s\\a.c"), ("command", .string command)]

def wordsRecord : Json :=
  .object [("arguments", .array (["cl", "/DA=1", "-", "-Iinc", "/O2", "-DA=1", "-U-D", "-D"].map
    .string)), ("file", .string "s\\a.c")]

/-- A database with the job in both forms. -/
def database : String :=
  r#"[{"file":"s\\a.c","command":""# ++ command ++ r#""},"# ++
    r#"{"arguments":["cl","/DA=1","-","-Iinc","/O2","-DA=1","-U-D","-D"],"file":"s\\a.c"}]"#

end InvocationSample

open InvocationSample in
theorem importText_of_jobs_sample :
    Json.decode database = .ok (.array [textRecord, wordsRecord]) ∧
      List.Forall₂ Job.GivenBy [job, job] [textRecord, wordsRecord] ∧
      job.unit =
        { file := "s/a.c"
          defines := ["A=1", "A=1"]
          undefs := NameSet.ofList ["-D"]
          includes := ["inc"] } ∧
      importText (.ok database) = .ok ⟨[job.unit, job.unit], [.databaseImported 2 2]⟩ := by
  have hdecode : Json.decode database = .ok (.array [textRecord, wordsRecord]) := by decide +kernel
  have hgiven : List.Forall₂ Job.GivenBy [job, job] [textRecord, wordsRecord] :=
    .cons (.text rfl rfl spaced) (.cons (.words rfl nofun rfl) .nil)
  exact ⟨hdecode, hgiven, by decide +kernel, importText_of_jobs hdecode hgiven⟩

end Database

end BuildDescriptor
