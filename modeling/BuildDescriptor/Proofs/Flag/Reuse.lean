import BuildDescriptor.Flag

/-!
# One scanner for many commands

A scan forgets the flags of the command before, and the place where that command ended. It does not
forget the kind and the argument that were being collected there, and a command may be cut off in
the middle of a flag. Still nothing of one command is seen in the results of the next.

## What is left over

The scanner is compared with a new one that reads the same characters. At each of them both are at
the same place and have found the same flags, and one of two things is so. Either the two scanners
do not differ at all, or the used one still has what it had collected before, they differ in nothing
else, and neither is inside an argument. The only way into an argument is over a kind, which is
where both write what they collect; and what is collected is read inside an argument only.

## Main definitions

* `Flag.Scanner.Holding` — a scanner that still has what another one had collected
* `Flag.Scanner.Resembles` — a used scanner beside a new one
* `Flag.Scanner.result`, `Flag.Scanner.results` — what is seen of a scan, of several scans

## Main results

* `Flag.Scanner.Resembles.step`, `Flag.Scanner.Resembles.run` — one character, several characters
* `Flag.Scanner.resembles_scan` — a whole command
* `Flag.Scanner.results_eq_map` — a list of commands
-/

namespace BuildDescriptor

namespace Flag

namespace Scanner

variable {s new used : Scanner}

/-- A scanner that still has the kind and the argument that `s` had collected. -/
def Holding (s t : Scanner) : Scanner := { t with kind := s.kind, argument := s.argument }

/-- A used scanner beside a new one that reads the same. They are the same, or what the scanner `s`
had collected before is left over, and then it is not read where they are. -/
def Resembles (s new used : Scanner) : Prop :=
  used = new ∨ (new.phase ≠ .inArgument ∧ used = s.Holding new)

/-- What is seen of a scan: the flags, and the place where the command ended. -/
def result (s : Scanner) : List Flag × Phase := (s.flags, s.phase)

/-- What is seen of the scans of several commands, one after another on the same scanner. -/
def results (s : Scanner) : List String → List (List Flag × Phase)
  | [] => []
  | command :: commands => (s.scan command).result :: (s.scan command).results commands

/-! ### A used scanner beside a new one -/

theorem Resembles.result_eq (h : Resembles s new used) : used.result = new.result := by
  rcases h with rfl | ⟨-, rfl⟩
  · rfl
  · rfl

/-- Both scanners begin a command alike, but for what the used one has collected. -/
theorem resembles_restart (s : Scanner) : Resembles s ({} : Scanner).restart s.restart :=
  .inr ⟨Phase.noConfusion, rfl⟩

/-- **One character.** A kind overwrites what is left over. Any other character leaves it alone and
does not lead into an argument. -/
theorem Resembles.step (h : Resembles s new used) (c : Char) :
    Resembles s (new.step c) (used.step c) := by
  rcases h with rfl | ⟨hphase, rfl⟩
  · exact .inl rfl
  · obtain ⟨phase, kind, argument, flags⟩ := new
    cases phase with
    | seekingSpace =>
      by_cases hc : c = ' '
      · exact .inr (by simp [Scanner.step, Holding, hc])
      · exact .inr (by simp [Scanner.step, Holding, hc])
    | atWord =>
      by_cases hmarker : isMarker c = true
      · exact .inr (by simp [Scanner.step, Holding, hmarker])
      · by_cases hc : c = ' '
        · exact .inr (by simp [Scanner.step, Holding, hc, isMarker])
        · exact .inr (by simp [Scanner.step, Holding, hc, hmarker])
    | atKind => exact .inl rfl
    | inArgument => exact absurd rfl hphase

/-- **Several characters**, by induction on them. -/
theorem Resembles.run (h : Resembles s new used) (cs : List Char) :
    Resembles s (cs.foldl Scanner.step new) (cs.foldl Scanner.step used) := by
  induction cs generalizing new used with
  | nil => exact h
  | cons c cs ih => exact ih (h.step c)

/-- A flag that the end of the command cuts off is recorded by both, or by neither. -/
theorem Resembles.finish (h : Resembles s new used) : Resembles s new.finish used.finish := by
  rcases h with rfl | ⟨hphase, rfl⟩
  · exact .inl rfl
  · have hnew : new.finish = new := if_neg hphase
    have hused : (s.Holding new).finish = s.Holding new := if_neg hphase
    rw [hnew, hused]
    exact .inr ⟨hphase, rfl⟩

/-! ### Whole commands -/

/-- **A whole command**, on a scanner in any state and on a new one. -/
theorem resembles_scan (s : Scanner) (command : String) :
    Resembles s (({} : Scanner).scan command) (s.scan command) :=
  ((resembles_restart s).run command.toList).finish

/-- **A list of commands.** Whatever state the scanner is in to begin with, each scan gives the
flags that a new scanner finds in that command, and ends where that one ends. What had been
collected before is gone after a scan, or it is where no scan reads it: the scanners are the same
then, or differ in nothing else and are not inside an argument. -/
theorem results_eq_map (s : Scanner) (commands : List String) :
    s.results commands = commands.map (fun command => (({} : Scanner).scan command).result) ∧
      ∀ command, s.scan command = ({} : Scanner).scan command ∨
        ((({} : Scanner).scan command).phase ≠ .inArgument ∧
          s.scan command =
            { ({} : Scanner).scan command with kind := s.kind, argument := s.argument }) := by
  refine ⟨?_, resembles_scan s⟩
  induction commands generalizing s with
  | nil => rfl
  | cons command commands ih =>
    rw [results, ih, (resembles_scan s command).result_eq, List.map_cons]

/-- Commands that end behind a marker, behind a kind and in an argument. -/
example : ({} : Scanner).results ["cc -DA -", "cc -", "cc -I", "cc", "c -Ux"] =
    [([⟨'D', "A"⟩], .atKind), ([], .atKind), ([⟨'I', ""⟩], .inArgument), ([], .seekingSpace),
      ([⟨'U', "x"⟩], .inArgument)] := by
  cbv

end Scanner

end Flag

end BuildDescriptor
