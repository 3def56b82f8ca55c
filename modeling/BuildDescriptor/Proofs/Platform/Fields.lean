import BuildDescriptor.Platform.Builtin
import BuildDescriptor.Platform.Override
import Mathlib.Data.List.Basic

/-!
# The numbers in a profile

All but two of the fields of a profile are numbers: the number of bits in a byte, and a size for
each type. A platform file can give several numbers for one field, in one section or in several, and
among them elements that hold no number at all. What becomes of a field can nevertheless be told
from the numbers for this field alone: it takes the last of them, or keeps its value if there are
none. What the file says about other fields, and where it says it, has no part in that.

A file may give any integer. So a profile that was built in describes a machine that there may be,
and one that a file has changed need not.

## Main definitions

* `Platform.Field`, `Platform.Profile.number` — the fields that are numbers
* `Platform.given` — the numbers that a platform file gives for a field
* `Platform.Profile.Possible` — a layout that a machine may have

## Main results

* `Platform.number_override` — the last number for a field counts
* `Platform.possible_iff` — a layout is possible by its numbers
* `Platform.possible_of_builtin?` — what is built in is possible
-/

namespace BuildDescriptor

namespace Platform

/-- The fields of a profile that are numbers. -/
inductive Field
  | charBits
  | size (t : Size)
deriving DecidableEq, Repr

/-- The number in a field. -/
def Profile.number (p : Profile) : Field → Int
  | .charBits => p.charBits
  | .size t => p.size t

variable {p : Profile} {f : Field} {t : Size}

/-! ### Settings -/

/-- The setting that gives a number for a field. -/
def Field.setting : Field → Int → Setting
  | .charBits => .charBits
  | .size t => .size t

/-- The number that a setting gives for a field. -/
def Setting.number? : Setting → Field → Option Int
  | .sign _, _ => none
  | .charBits n, f => if f = .charBits then some n else none
  | .size t n, f => if f = .size t then some n else none

theorem number?_setting (f f' : Field) (n : Int) :
    (f'.setting n).number? f = if f = f' then some n else none := by
  cases f' <;> rfl

theorem number_apply (p : Profile) (s : Setting) (f : Field) :
    (s.apply p).number f = (s.number? f).getD (p.number f) := by
  cases s with
  | sign s => cases f <;> rfl
  | charBits n => cases f <;> rfl
  | size t n =>
    cases f with
    | charBits => rfl
    | size t' =>
      by_cases ht : t' = t
      · simp [Setting.apply, Setting.number?, Profile.setSize, Profile.number, ht]
      · simp [Setting.apply, Setting.number?, Profile.setSize, Profile.number, ht]

/-- The number that an element was found to give for a field, if it gives one. -/
def numberFound? (f : Field) (found : Except Notice Setting) : Option Int :=
  found.toOption.bind (·.number? f)

/-- Each setting replaces what the ones before have left in a field. The field is told by how it is
read and by the value that a setting gives for it. -/
theorem read_applyAll {α : Type} (read : Profile → α) (value? : Setting → Option α)
    (happly : ∀ p s, read (s.apply p) = (value? s).getD (read p)) (p : Profile)
    (found : List (Except Notice Setting)) :
    read (p.applyAll found) =
      (found.filterMap fun s => s.toOption.bind value?).getLast?.getD (read p) := by
  unfold Profile.applyAll
  induction found generalizing p with
  | nil => rfl
  | cons s found ih =>
    rw [List.foldl_cons, ih]
    cases s with
    | error notice => rfl
    | ok s =>
      have hfound : (Except.ok s : Except Notice Setting).toOption.bind value? = value? s := rfl
      rw [happly, List.filterMap_cons, hfound]
      -- A setting of another field is not in the list, and has left this field alone.
      cases value? s with
      | none => rfl
      | some n => simp [List.getLast?_cons]

theorem number_applyAll (p : Profile) (found : List (Except Notice Setting)) (f : Field) :
    (p.applyAll found).number f =
      (found.filterMap (numberFound? f)).getLast?.getD (p.number f) :=
  read_applyAll (·.number f) (·.number? f) (fun p s => number_apply p s f) p found

/-! ### Platform files -/

/-- The integer that an element holds. -/
def integer? (e : Xml.Element) : Option Int := Text.readInteger? (Text.strip e.content)

/-- The numbers that a child of the root element gives for a field. -/
def givenBy (e : Xml.Element) : Field → List Int
  | .charBits => if e.tag = "char_bit" then (integer? e).toList else []
  | .size t =>
    if e.tag = "sizeof" then
      (e.children.filter fun child => Size.ofTag? child.tag = some t).filterMap integer?
    else []

/-- The numbers that a root element gives for a field, in the order of the document. -/
def given (root : Xml.Element) (f : Field) : List Int :=
  root.children.flatMap (givenBy · f)

theorem numberFound?_signSetting (path : Path) (e : Xml.Element) :
    numberFound? f (signSetting path e) = none := by
  unfold signSetting
  split <;> rfl

theorem numberFound?_numberSetting (path : Path) (f f' : Field) (e : Xml.Element) :
    numberFound? f (numberSetting path f'.setting e) = if f = f' then integer? e else none := by
  unfold numberSetting integer?
  split
  · rename_i n h
    rw [h, numberFound?, Except.toOption, Option.bind_some, number?_setting]
  · rename_i h
    rw [h, ite_self]
    rfl

/-- What an element of a section of sizes gives is for the type with its name. -/
theorem numberFound?_size (path : Path) (found : Option Size) (child : Xml.Element) (f : Field) :
    (found.map fun t => numberSetting path (.size t) child).bind (numberFound? f) =
      match f with
      | .charBits => none
      | .size t => if found = some t then integer? child else none := by
  cases found with
  | none => cases f <;> rfl
  | some t' =>
    have hchild := numberFound?_numberSetting path f (.size t') child
    rw [Option.map_some, Option.bind_some]
    refine hchild.trans ?_
    cases f with
    | charBits => rfl
    | size t => simp [eq_comm]

theorem filterMap_sizes (path : Path) (children : List Xml.Element) (f : Field) :
    (children.filterMap fun child =>
        (Size.ofTag? child.tag).map fun t => numberSetting path (.size t) child).filterMap
          (numberFound? f) =
      match f with
      | .charBits => []
      | .size t =>
        (children.filter fun child => Size.ofTag? child.tag = some t).filterMap integer? := by
  rw [List.filterMap_filterMap]
  simp only [numberFound?_size]
  cases f with
  | charBits => exact List.filterMap_eq_nil_iff.mpr fun _ _ => rfl
  | size t => simp only [List.filterMap_filter, decide_eq_true_eq]

theorem filterMap_childSettings (path : Path) (e : Xml.Element) (f : Field) :
    (childSettings path e).filterMap (numberFound? f) = givenBy e f := by
  have hbits : numberFound? f (numberSetting path .charBits e) =
      if f = .charBits then integer? e else none :=
    numberFound?_numberSetting path f .charBits e
  unfold childSettings
  split
  · rename_i htag
    cases f <;> simp [numberFound?_signSetting, givenBy, htag]
  · split
    · rename_i htag
      rw [List.filterMap_cons, List.filterMap_nil, hbits]
      cases f with
      | charBits => cases h : integer? e <;> simp [givenBy, htag, h]
      | size t => simp [givenBy, htag]
    · split
      · rename_i htag
        rw [filterMap_sizes]
        cases f <;> simp [givenBy, htag]
      · cases f <;> simp [givenBy, *]

/-- **The last number for a field counts.** Where the file gives none, the field keeps its value. -/
theorem number_override (p : Profile) (path : Path) (root : Xml.Element) (f : Field) :
    (p.override path root).number f = (given root f).getLast?.getD (p.number f) := by
  have hnumber : (p.override path root).number f =
      (p.applyAll (settings path root)).number f := by
    cases f <;> rfl
  have hgiven : (settings path root).filterMap (numberFound? f) = given root f := by
    rw [settings, given, List.filterMap_flatMap]
    exact List.flatMap_congr fun e _ => filterMap_childSettings path e f
  rw [hnumber, number_applyAll, hgiven]

/-! ### Possible layouts -/

/-- A layout that a machine may have. -/
structure Profile.Possible (p : Profile) : Prop where
  one_le_charBits : 1 ≤ p.charBits
  one_le_size : ∀ t, 1 ≤ p.size t
  bits_pos : ∀ t, 0 < p.bits t
  charBits_le_bits : ∀ t, p.charBits ≤ p.bits t

theorem Profile.Possible.one_le_number (h : p.Possible) (f : Field) : 1 ≤ p.number f := by
  cases f with
  | charBits => exact h.one_le_charBits
  | size t => exact h.one_le_size t

/-- The sizes in bits follow from the other numbers. -/
theorem possible_iff : p.Possible ↔ ∀ f, 1 ≤ p.number f := by
  refine ⟨Profile.Possible.one_le_number, fun h => ?_⟩
  have hbits : 1 ≤ p.charBits := h .charBits
  have hle (t : Size) : p.charBits ≤ p.bits t :=
    calc p.charBits
      _ = p.charBits * 1 := (Int.mul_one _).symm
      _ ≤ p.bits t := Int.mul_le_mul_of_nonneg_left (h (.size t)) (by omega)
  exact ⟨hbits, fun t => h (.size t), fun t => Int.lt_of_lt_of_le hbits (hle t), hle⟩

/-- Some sizes are written down, and the others are those of a machine. -/
theorem possible_of_builtin? [Machine] {kind : Kind} (h : builtin? kind = some p) :
    p.Possible := by
  refine possible_iff.mpr fun f => ?_
  cases kind with
  | unspecified | native =>
    cases h
    cases f with
    | charBits => exact (by decide : (1 : Int) ≤ 8)
    | size t => exact Machine.one_le_size t
  | win32A | win32W | win64 | unix32 | unix64 =>
    cases h
    cases f with
    | charBits => decide
    | size t => cases t <;> decide
  | custom => cases h

end Platform

end BuildDescriptor
