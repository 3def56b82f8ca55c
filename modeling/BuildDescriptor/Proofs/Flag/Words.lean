import BuildDescriptor.Flag
import BuildDescriptor.Text.Pieces

/-!
# The flags of a command, word by word

The scanner never sees a word as a whole. It is shown here to find what can be read off the words
one at a time: cut the command at every space, leave out the first piece, and take from each other
piece that begins with a marker its second character as the kind and the rest as the argument.

## What the scanner carries

Between two characters the scanner is somewhere in a word, and its phase says what the flag of that
word will be once the rest of the word is known. That is `Flag.Scanner.pending`: nothing in a word
that is no flag, and otherwise a flag that begins with what has been collected. A character that is
no space moves from the rest of the word into the phase, and a space settles the flag. So what is
found in a whole command is found already, or pending, or in the words behind the next space.

## Main definitions

* `Flag.ofWord?` — the flag that a word is
* `Flag.Scanner.pending` — the flag of the word that is being read

## Main results

* `Flag.Scanner.flags_step_space`, `Flag.Scanner.pending_step` — one character
* `Flag.Scanner.flags_run` — the rest of a command
* `Flag.scan_eq_filterMap_words` — a whole command
-/

namespace BuildDescriptor

namespace Flag

/-- The flag that a word is, if it begins with a marker and goes on behind it. -/
def ofWord? (word : String) : Option Flag :=
  match word.toList with
  | marker :: kind :: argument =>
    if isMarker marker then some ⟨kind, String.ofList argument⟩ else none
  | _ => none

namespace Scanner

variable {s : Scanner} {c : Char}

/-- The flag of the word that the scanner is in, given the rest of that word. -/
def pending (s : Scanner) (rest : List Char) : Option Flag :=
  match s.phase, rest with
  | .seekingSpace, _ => none
  | .atWord, rest => ofWord? (String.ofList rest)
  | .atKind, [] => none
  | .atKind, kind :: argument => some ⟨kind, String.ofList argument⟩
  | .inArgument, rest => some ⟨s.kind, s.argument ++ String.ofList rest⟩

/-! ### One character -/

/-- A space ends the word, and begins the next one. -/
theorem flags_step_space (s : Scanner) :
    (s.step ' ').flags = s.flags ++ (s.pending []).toList ∧ (s.step ' ').phase = .atWord := by
  obtain ⟨phase, kind, argument, flags⟩ := s
  cases phase with
  | seekingSpace => simp [step, pending]
  | atWord => simp [step, pending, ofWord?, isMarker]
  | atKind => simp [step, pending]
  | inArgument => simp [step, pending, emit]

/-- Any other character belongs to the word. -/
theorem pending_step (hc : c ≠ ' ') (rest : List Char) :
    (s.step c).pending rest = s.pending (c :: rest) ∧ (s.step c).flags = s.flags := by
  obtain ⟨phase, kind, argument, flags⟩ := s
  cases phase with
  | seekingSpace => simp [step, pending, hc]
  | atWord =>
    cases hmarker : isMarker c with
    | true => cases rest <;> simp [step, pending, ofWord?, hmarker]
    | false => cases rest <;> simp [step, pending, ofWord?, hmarker, hc]
  | atKind => simp [step, pending, hc]
  | inArgument =>
    have hpush : argument.push c ++ String.ofList rest = argument ++ String.ofList (c :: rest) := by
      rw [← String.toList_inj]
      simp
    simp [step, pending, hc, hpush]

/-- The end of the command ends the word. -/
theorem flags_finish (s : Scanner) : s.finish.flags = s.flags ++ (s.pending []).toList := by
  obtain ⟨phase, kind, argument, flags⟩ := s
  cases phase <;> simp [finish, pending, emit, ofWord?]

/-! ### A whole command -/

/-- **The rest of a command.** To the flags found so far come the one that is pending and those of
the words behind the next space. By induction on the characters, from any phase. -/
theorem flags_run (s : Scanner) (cs : List Char) :
    (cs.foldl step s).finish.flags =
      s.flags ++ (s.pending ((Text.pieces ' ' cs).headD [])).toList ++
        ((Text.pieces ' ' cs).tail.map String.ofList).filterMap ofWord? := by
  induction cs generalizing s with
  | nil => simp [flags_finish]
  | cons c cs ih =>
    rw [List.foldl_cons, ih]
    by_cases hc : c = ' '
    · subst hc
      obtain ⟨hflags, hphase⟩ := s.flags_step_space
      obtain ⟨word, words, hwords⟩ : ∃ word words, Text.pieces ' ' cs = word :: words :=
        List.exists_cons_of_ne_nil (Text.pieces_ne_nil cs)
      have hword : (s.step ' ').pending word = ofWord? (String.ofList word) := by
        simp only [pending, hphase]
      rw [hflags, Text.pieces_sep_cons, hwords, List.headD_cons, hword, List.headD_cons,
        List.tail_cons, List.tail_cons, List.map_cons]
      cases hflag : ofWord? (String.ofList word) with
      | none => simp [hflag]
      | some flag => simp [hflag]
    · obtain ⟨hpending, hflags⟩ := s.pending_step hc ((Text.pieces ' ' cs).headD [])
      rw [hpending, hflags, Text.pieces_cons_of_ne hc, List.headD_cons, List.tail_cons]

/-- What a scanner finds in a command does not depend on the commands before. -/
theorem flags_scan (s : Scanner) (command : String) :
    (s.scan command).flags = (Text.splitAt ' ' command).tail.filterMap ofWord? := by
  rw [scan, flags_run, Text.splitAt, List.map_tail]
  rfl

end Scanner

/-- **The flags of a command are its words that are flags.** The words are the pieces between the
spaces, all but the first, and nothing but a space ends a word. -/
theorem scan_eq_filterMap_words (command : String) :
    scan command = (Text.splitAt ' ' command).tail.filterMap ofWord? :=
  Scanner.flags_scan {} command

example :
    scan "cc  -DA -\t-U /I - -I\tinc" =
      [⟨'D', "A"⟩, ⟨'\t', "-U"⟩, ⟨'I', ""⟩, ⟨'I', "\tinc"⟩] := by
  cbv

end Flag

end BuildDescriptor
