import BuildDescriptor.Proofs.Platform.Fields
import BuildDescriptor.Proofs.Session.Platforms
import Mathlib.Data.List.DropRight

/-!
# The layouts that a session can have

A session starts with a built-in profile, and each of these is a layout that some machine may have.
Selecting another one keeps it so. A platform file need not: it may give any integer for a field,
and what it gives is taken.

So the last selection is a fresh start, and for each field the last number that was given after it
decides. A file can spoil a field, a later one can mend it, and so can a selection. As long as the
files give positive numbers only, the layout is possible at any time.

## Main definitions

* `Session.sinceSelection` — the events that the last selection does not undo
* `Session.numbersGiven` — the numbers that their platform files give for a field
* `Session.LastPositive` — what must hold of these for the field to be positive

## Main results

* `Session.Active.exists_overridden` — a built-in profile, changed since the last selection
* `Session.possible_run_iff` — when the active profile is possible
-/

namespace BuildDescriptor

namespace Session

variable {s : Session} {kind : Platform.Kind} {p : Platform.Profile}

section Run

variable [Platform.Machine]

/-- The events after the last selection, or all of them if nothing was selected. -/
def sinceSelection (events : List Event) : List Event :=
  events.rtakeWhile fun e => e.chosen?.isNone

/-- The numbers for a field in the platform files that were loaded since the last selection. -/
def numbersGiven (events : List Event) (f : Platform.Field) : List Int :=
  ((sinceSelection events).filterMap Event.loaded?).flatMap fun file => Platform.given file.2 f

/-- The last of these numbers is positive, if there are any. -/
def LastPositive (events : List Event) (f : Platform.Field) : Prop :=
  ∀ n, (numbersGiven events f).getLast? = some n → 1 ≤ n

/-! ### The profile since the last selection -/

theorem exists_builtin?_of_chosen? {e : Event} (h : e.chosen? = some p) :
    ∃ kind, Platform.builtin? kind = some p := by
  unfold Event.chosen? at h
  split at h
  · obtain ⟨kind, -, hkind⟩ := Option.bind_eq_some_iff.mp h
    exact ⟨kind, hkind⟩
  · exact ⟨_, h⟩
  · cases h

theorem sinceSelection_of_forall {events : List Event} (h : ∀ e ∈ events, e.chosen? = none) :
    sinceSelection events = events :=
  List.rtakeWhile_eq_self_iff.mpr fun e he => Option.isNone_iff_eq_none.mpr (h e he)

theorem sinceSelection_append_cons {earlier later : List Event} {e : Event}
    (he : e.chosen? = some p) (hlater : ∀ e ∈ later, e.chosen? = none) :
    sinceSelection (earlier ++ e :: later) = later := by
  have hkept : ∀ e ∈ later.reverse, e.chosen?.isNone = true := fun e h =>
    Option.isNone_iff_eq_none.mpr (hlater e (List.mem_reverse.mp h))
  rw [sinceSelection, List.rtakeWhile, List.reverse_append, List.reverse_cons, List.append_assoc,
    List.takeWhile_append_of_pos hkept, List.singleton_append,
    List.takeWhile_cons_of_neg (by simp [he]), List.append_nil, List.reverse_reverse]

/-- If the first profile is built in, then so is the one that the platform files have changed since
the last selection. -/
theorem Active.exists_overridden {active : Platform.Profile} {events : List Event}
    (h : Active p events active) (hp : Platform.builtin? kind = some p) :
    ∃ kind base, Platform.builtin? kind = some base ∧
      active = overridden base (sinceSelection events) := by
  cases h with
  | before hnone => exact ⟨kind, p, hp, by rw [sinceSelection_of_forall hnone]⟩
  | chosen hevents he hlater =>
    obtain ⟨kind, hkind⟩ := exists_builtin?_of_chosen? he
    exact ⟨kind, _, hkind, by rw [hevents, sinceSelection_append_cons he hlater]⟩

omit [Platform.Machine] in
/-- One file after the other replaces what the ones before have left in the field. -/
theorem number_overridden (p : Platform.Profile) (events : List Event) (f : Platform.Field) :
    (overridden p events).number f =
      ((events.filterMap Event.loaded?).flatMap fun file =>
        Platform.given file.2 f).getLast?.getD (p.number f) := by
  unfold overridden
  induction events.filterMap Event.loaded? generalizing p with
  | nil => rfl
  | cons file files ih =>
    rw [List.foldl_cons, ih, Platform.number_override, List.flatMap_cons, List.getLast?_append,
      Option.getD_or]

/-! ### Possible layouts -/

omit [Platform.Machine] in
theorem letter_cases (sign : Platform.CharSign) : sign.letter ∈ ["s", "u", ""] := by
  cases sign <;> decide

variable [Json.Capacity]

/-- Every field is positive in what is built in, so only the last number that was given for it can
make it otherwise. -/
theorem one_le_number_run_iff (h : start kind = .ok s) (requests : List Request)
    (f : Platform.Field) :
    1 ≤ (s.run requests).2.profile.number f ↔ LastPositive (s.run requests).1 f := by
  have hactive : Active s.profile (s.run requests).1 (s.run requests).2.profile := by
    rw [profile_run]
    exact active_foldl s.profile _
  obtain ⟨_, base, hbase, hprofile⟩ := hactive.exists_overridden (of_start h).2
  have hpositive : 1 ≤ base.number f := (Platform.possible_of_builtin? hbase).one_le_number f
  rw [hprofile, number_overridden, LastPositive, numbersGiven]
  -- Only the last number matters from here on, not where it comes from.
  generalize List.getLast? _ = last
  cases last with
  | none => simpa using hpositive
  | some n => simp

/-- **When the active profile is possible.** It is so exactly if for no field the last number that a
platform file gave since the last selection is below one. The number in each field is positive or
not by itself, and the letter for the sign is always one of the three. -/
theorem possible_run_iff (h : start kind = .ok s) (requests : List Request) :
    (s.run requests).2.profile.sign.letter ∈ ["s", "u", ""] ∧
      (∀ f, 1 ≤ (s.run requests).2.profile.number f ↔ LastPositive (s.run requests).1 f) ∧
      ((s.run requests).2.profile.Possible ↔ ∀ f, LastPositive (s.run requests).1 f) := by
  have hnumber := one_le_number_run_iff h requests
  exact ⟨letter_cases _, hnumber, Platform.possible_iff.trans (forall_congr' hnumber)⟩

end Run

namespace LayoutSample

/-- A platform with bytes of no bits. -/
def text : String := "<platform><char_bit>0</char_bit></platform>"

def bytes : List UInt8 := text.toList.map Char.toUInt8

def files : FileSystem := ⟨fun _ => .ok (.file ⟨bytes.toArray⟩)⟩

def path : Path := ⟨"", ["p.xml"]⟩

def root : Xml.Element := .mk "platform" [] none [.mk "char_bit" [] (some "0") []]

theorem readFile_eq : Xml.readFile files path = .ok (.ok root) :=
  Xml.readFile_of_parse (by rfl) (show Xml.parse bytes = .ok root by decide +kernel)

/-- The request that loads this platform. -/
def spoil : Request := .loadPlatformFile files path

/-- The request that loads one with small pointers. -/
def shrink : Request := .loadPlatformFile PlatformSample.files PlatformSample.path

theorem run_eq (s : Session) :
    (s.run [spoil, .selectKind .win64, shrink]).1 =
      [⟨spoil, .told true⟩, ⟨.selectKind .win64, .told true⟩, ⟨shrink, .told true⟩] := by
  rw [run_cons, spoil, perform_loadPlatformFile readFile_eq rfl, run_cons, run_cons, shrink,
    perform_loadPlatformFile PlatformSample.readFile_eq rfl]
  rfl

/-- Only the last of the three requests counts. -/
theorem numbersGiven_run (s : Session) (f : Platform.Field) :
    numbersGiven (s.run [spoil, .selectKind .win64, shrink]).1 f =
      Platform.given PlatformSample.root f := by
  have hsince : sinceSelection (s.run [spoil, .selectKind .win64, shrink]).1 =
      [⟨shrink, .told true⟩] := by
    rw [run_eq]
    rfl
  have hloaded : Event.loaded? ⟨shrink, .told true⟩ =
      some (PlatformSample.path, PlatformSample.root) := by
    simp only [Event.loaded?, shrink, PlatformSample.readFile_eq]
  rw [numbersGiven, hsince, List.filterMap_cons, hloaded]
  exact List.append_nil _

theorem given_root (f : Platform.Field) :
    Platform.given PlatformSample.root f = if f = .size .pointer then [2] else [] := by
  cases f with
  | charBits => decide
  | size t => cases t <;> decide

end LayoutSample

/-- What a file has spoiled is mended by a selection, and what is loaded after that is harmless. -/
theorem possible_run_sample : ∃ s, start .unix64 = .ok s ∧
    (s.run [LayoutSample.spoil, .selectKind .win64, LayoutSample.shrink]).2.profile.Possible := by
  obtain ⟨s, hstart⟩ : ∃ s, start .unix64 = .ok s := ⟨_, rfl⟩
  refine ⟨s, hstart, (possible_run_iff hstart _).2.2.mpr fun f n hn => ?_⟩
  rw [LayoutSample.numbersGiven_run, LayoutSample.given_root] at hn
  split at hn
  · cases hn
    decide
  · cases hn

/-- What a file gives is taken, even if no machine has it. -/
theorem not_possible_run : ∃ s, start .unix64 = .ok s ∧
    ¬ (s.run [LayoutSample.spoil]).2.profile.Possible := by
  obtain ⟨s, hstart⟩ : ∃ s, start .unix64 = .ok s := ⟨_, rfl⟩
  refine ⟨s, hstart, fun hpossible => ?_⟩
  have hbits : (s.run [LayoutSample.spoil]).2.profile.charBits = 0 := by
    rw [run_cons, LayoutSample.spoil, perform_loadPlatformFile LayoutSample.readFile_eq rfl]
    exact show (Platform.Profile.override _ _ LayoutSample.root).charBits = 0 by rfl
  have := hpossible.one_le_charBits
  omega

end Session

end BuildDescriptor
