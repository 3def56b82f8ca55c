import BuildDescriptor.Proofs.Platform.Overriding

/-!
# Writing a profile as a platform file

A platform file that gives every field leaves nothing of the profile that it overrides. So a profile
can be written to a file and read back, on top of any other one, and only its kind is lost.

It does not matter in which order the fields are written, how many blanks there are around them, or
whether the sign is a letter or a word that begins with it. Numbers are written in decimal notation
and may be as large as a numeral can be.

## Main definitions

* `Platform.Describes` — a document that gives every field of a profile
* `Platform.Profile.toElement` — the shortest one

## Main results

* `Platform.override_of_describes` — nothing is left of the profile that is overridden
* `Platform.loads_of_describes` — writing a profile and reading it back
-/

namespace BuildDescriptor

open Xml (Element)

namespace Platform

variable {p : Profile} {f : Field} {t t' : Size} {e root : Element} {tag : String} {n : Int}

/-- An element with a number in decimal notation, blanks around it aside. -/
structure HoldsNumber (e : Element) (tag : String) (n : Int) : Prop where
  tag_eq : e.tag = tag
  exists_blanks : ∃ before after, e.content = before ++ toString n ++ after ∧
    Text.isBlankText before = true ∧ Text.isBlankText after = true

/-- A document that gives every field of a profile: the sign, the number of bits and a section with
all sizes, in any order. -/
structure Describes (root : Element) (p : Profile) : Prop where
  tag_eq : root.tag = "platform"
  exists_children : ∃ sign bits sizes, root.children.Perm [sign, bits, sizes] ∧
    (sign.tag = "default-sign" ∧ WritesSign sign.content p.sign) ∧
    HoldsNumber bits "char_bit" p.charBits ∧ sizes.tag = "sizeof" ∧
    ∃ item : Size → Element, sizes.children.Perm (Size.all.map item) ∧
      ∀ t, HoldsNumber (item t) t.tag (p.size t)

/-! ### Reading what is written -/

theorem HoldsNumber.writes (h : HoldsNumber e tag n)
    (hn : (Nat.toDigits 10 n.natAbs).length ≤ Text.maxDigits) : Text.Writes e.content n := by
  obtain ⟨before, after, hcontent, hbefore, hafter⟩ := h.exists_blanks
  exact ⟨before, toString n, after, hcontent, hbefore, hafter, Text.numeral_toString hn⟩

theorem Size.tag_inj : t.tag = t'.tag ↔ t = t' := by
  refine ⟨fun h => ?_, fun h => by rw [h]⟩
  have hfound := (Size.ofTag?_eq_some_iff.mpr rfl : Size.ofTag? t.tag = some t)
  exact (Option.some.inj (hfound.symm.trans (Size.ofTag?_eq_some_iff.mpr h)))

theorem filterMap_all (t : Size) (n : Int) :
    (Size.all.filterMap fun t' => if t' = t then some n else none) = [n] := by
  cases t <;> rfl

theorem size?_item {item : Size → Element} (hitem : ∀ t, HoldsNumber (item t) t.tag (p.size t))
    (hlength : ∀ f, (Nat.toDigits 10 (p.number f).natAbs).length ≤ Text.maxDigits) (t t' : Size) :
    size? t (item t') = if t' = t then some (p.size t) else none := by
  split
  · rename_i h
    subst h
    exact size?_eq_some_iff.mpr ⟨(hitem t').tag_eq, (hitem t').writes (hlength (.size t'))⟩
  · rename_i hne
    rw [size?, if_neg]
    rw [(hitem t').tag_eq]
    exact mt Size.tag_inj.mp hne

/-- For each field, exactly one value is given, and it is that of the profile. -/
theorem given_of_describes (h : Describes root p)
    (hlength : ∀ f, (Nat.toDigits 10 (p.number f).natAbs).length ≤ Text.maxDigits) (f : Field) :
    given root f = [p.number f] := by
  obtain ⟨sign, bits, sizes, hperm, ⟨hsign, -⟩, hbits, hsizes, item, hitems, hitem⟩ :=
    h.exists_children
  refine List.perm_singleton.mp ?_
  cases f with
  | charBits =>
    have hfound : bits? bits = some p.charBits :=
      bits?_eq_some_iff.mpr ⟨hbits.tag_eq, hbits.writes (hlength .charBits)⟩
    have hothers : bits? sign = none ∧ bits? sizes = none := by
      simp [bits?, hsign, hsizes]
    rw [given_charBits]
    refine (hperm.filterMap bits?).trans ?_
    simp [hfound, hothers, Profile.number]
  | size t =>
    have hsections : ([sign, bits, sizes].flatMap fun e =>
        if (decide (e.tag = "sizeof")) = true then e.children.filterMap (size? t) else []) =
          sizes.children.filterMap (size? t) := by
      simp [hsign, hbits.tag_eq, hsizes]
    have hfound : (Size.all.map item).filterMap (size? t) = [p.size t] := by
      have hsize (t' : Size) : (size? t ∘ item) t' = if t' = t then some (p.size t) else none :=
        size?_item hitem hlength t t'
      rw [List.filterMap_map, List.filterMap_congr fun t' _ => hsize t', filterMap_all]
    rw [given_size]
    refine (hperm.flatMap_right _).trans ?_
    rw [hsections]
    exact hfound ▸ hitems.filterMap (size? t)

theorem givenSigns_of_describes (h : Describes root p) : givenSigns root = [p.sign] := by
  obtain ⟨sign, bits, sizes, hperm, ⟨hsign, hwrites⟩, hbits, hsizes, -⟩ := h.exists_children
  have hfound : sign? sign = some p.sign := sign?_eq_some_iff.mpr ⟨hsign, hwrites⟩
  have hothers : sign? bits = none ∧ sign? sizes = none := by
    simp [sign?, hbits.tag_eq, hsizes]
  refine List.perm_singleton.mp ((hperm.filterMap sign?).trans ?_)
  simp [hfound, hothers]

/-- Nothing is left of the profile that is overridden, except that the result is of no built-in
kind. -/
theorem override_of_describes (h : Describes root p)
    (hlength : ∀ f, (Nat.toDigits 10 (p.number f).natAbs).length ≤ Text.maxDigits)
    (base : Profile) (path : Path) : base.override path root = { p with kind := .custom } := by
  refine Profile.eq_of_number rfl ?_ fun f => ?_
  · rw [sign_override, givenSigns_of_describes h]
    rfl
  · rw [number_override, given_of_describes h hlength]
    cases f <;> rfl

/-! ### The shortest document -/

/-- An element without any inside. -/
def leaf (tag text : String) : Element := .mk tag [] (some text) []

/-- The profile as a document, without any blanks. -/
def Profile.toElement (p : Profile) : Element := .mk "platform" [] none
  [leaf "default-sign" p.sign.letter, leaf "char_bit" (toString p.charBits),
    .mk "sizeof" [] none (Size.all.map fun t => leaf t.tag (toString (p.size t)))]

theorem holdsNumber_leaf (tag : String) (n : Int) : HoldsNumber (leaf tag (toString n)) tag n :=
  ⟨rfl, "", "", by simp [leaf, Element.content, Element.text], rfl, rfl⟩

theorem describes_toElement (hsign : p.sign ≠ .unspecified) : Describes p.toElement p := by
  have hwrites : WritesSign (leaf "default-sign" p.sign.letter).content p.sign :=
    ⟨hsign, "", "", by simp [leaf, Element.content, Element.text], rfl⟩
  exact ⟨rfl, _, _, _, .refl _, ⟨rfl, hwrites⟩, holdsNumber_leaf _ _, rfl, _, .refl _,
    fun t => holdsNumber_leaf _ _⟩

theorem isPlainChar_of_isDigit {c : Char} (h : c.isDigit = true) : Xml.isPlainChar c = true := by
  have htable : ∀ k < 10, Xml.isPlainChar (Char.ofNat (48 + k)) = true := by decide
  have hbounds : 48 ≤ c.toNat ∧ c.toNat ≤ 57 := by
    simpa [Char.isDigit, UInt32.le_iff_toNat_le] using h
  have hplain := htable (c.toNat - 48) (by omega)
  rwa [Nat.add_sub_cancel' hbounds.1, Char.ofNat_toNat] at hplain

theorem isPlainChar_toString (n : Int) : ∀ c ∈ (toString n).toList, Xml.isPlainChar c = true := by
  have hnatural (m : Nat) : ∀ c ∈ m.repr.toList, Xml.isPlainChar c = true := by
    intro c hc
    rw [Nat.toList_repr] at hc
    exact isPlainChar_of_isDigit (Nat.isDigit_of_mem_toDigits (by decide) (by decide) hc)
  cases n with
  | ofNat m => exact hnatural m
  | negSucc m =>
    rw [Text.toList_toString_negSucc]
    exact List.forall_mem_cons.mpr ⟨by decide, hnatural (m + 1)⟩

theorem toString_ne_empty (n : Int) : toString n ≠ "" := by
  rw [ne_eq, ← String.toList_eq_nil_iff]
  cases n with
  | ofNat m =>
    obtain ⟨ds, hds, -, -⟩ := Text.exists_digits_toDigits m
    have hrepr : (toString (Int.ofNat m)).toList = Nat.toDigits 10 m := Nat.toList_repr
    intro hnil
    rw [← hrepr, hnil] at hds
    cases hds
  | negSucc m =>
    rw [Text.toList_toString_negSucc]
    exact List.cons_ne_nil _ _

theorem isPlain_leaf {text : String} (htag : Xml.isPlainName tag = true) (hne : text ≠ "")
    (hplain : ∀ c ∈ text.toList, Xml.isPlainChar c = true) : (leaf tag text).isPlain = true := by
  have hall : text.toList.all Xml.isPlainChar = true := List.all_eq_true.mpr hplain
  simp [leaf, Element.isPlain, Xml.areAllPlain, htag, hne, hall]

theorem isPlain_number (htag : Xml.isPlainName tag = true) (n : Int) :
    (leaf tag (toString n)).isPlain = true :=
  isPlain_leaf htag (toString_ne_empty n) (isPlainChar_toString n)

theorem isPlain_section {es : List Element} (htag : Xml.isPlainName tag = true)
    (hes : ∀ e ∈ es, e.isPlain = true) : (Element.mk tag [] none es).isPlain = true := by
  simp [Element.isPlain, htag, Xml.areAllPlain_iff.mpr hes]

theorem isPlainName_tag (t : Size) : Xml.isPlainName t.tag = true := by
  cases t <;> decide +kernel

theorem isPlain_toElement (hsign : p.sign ≠ .unspecified) : p.toElement.isPlain = true := by
  have hletter : (leaf "default-sign" p.sign.letter).isPlain = true := by
    cases h : p.sign with
    | signed | unsigned => decide +kernel
    | unspecified => exact absurd h hsign
  have hbits : (leaf "char_bit" (toString p.charBits)).isPlain = true :=
    isPlain_number (by decide +kernel) p.charBits
  have hsizes : (Element.mk "sizeof" [] none
      (Size.all.map fun t => leaf t.tag (toString (p.size t)))).isPlain = true := by
    refine isPlain_section (by decide +kernel) fun e he => ?_
    obtain ⟨t, -, rfl⟩ := List.mem_map.mp he
    exact isPlain_number (isPlainName_tag t) (p.size t)
  refine isPlain_section (by decide +kernel) ?_
  simp only [List.forall_mem_cons]
  exact ⟨hletter, hbits, hsizes, List.forall_mem_nil _⟩

/-! ### Files -/

/-- **Writing a profile and reading it back.** A profile with a sign can be written. However it is
written, loading the document on any other profile gives it back, as one of no built-in kind; and
so does any other document with the same elements. -/
theorem loads_of_describes (hsign : p.sign ≠ .unspecified)
    (hlength : ∀ f, (Nat.toDigits 10 (p.number f).natAbs).length ≤ Text.maxDigits) :
    (∃ root text, Describes root p ∧ Xml.Spells (String.toList text) root) ∧
      (∀ root text, Describes root p → Xml.Spells (String.toList text) root →
        ∀ (base : Profile) fs path, fs.load path = .ok (.ok text.toUTF8) →
          base.Loads fs path { p with kind := .custom }) ∧
      ∀ root, Describes root p → ∀ (base : Profile) fs path, IsPlatformFile fs path root →
        base.Loads fs path { p with kind := .custom } := by
  have hloads (root : Element) (h : Describes root p) (base : Profile) (fs : FileSystem)
      (path : Path) (hfile : IsPlatformFile fs path root) :
      base.Loads fs path { p with kind := .custom } := by
    rw [← override_of_describes h hlength base path]
    exact Profile.loads_override hfile base
  refine ⟨⟨p.toElement, .ofList p.toElement.spelled, describes_toElement hsign, ?_⟩, ?_, hloads⟩
  · rw [String.toList_ofList]
    exact Xml.spells_spelled (isPlain_toElement hsign)
  · intro root text h hspells base fs path hload
    exact hloads root h base fs path ⟨⟨_, hload, Xml.parse_of_spells hspells⟩, h.tag_eq⟩

namespace WritingSample

/-- A layout that no machine has. -/
def odd : Profile where
  kind := .native
  size := fun t => if t = .pointer then -12 else 3
  sign := .unsigned
  charBits := 9

/-- The sizes of this layout, with blanks around them. -/
def size (t : Size) : Element := leaf t.tag ("\n" ++ toString (odd.size t) ++ " ")

def sign : Element := leaf "default-sign" " unsigned"

def bits : Element := leaf "char_bit" "9"

def sizes : Element := .mk "sizeof" [] none (Size.all.reverse.map size)

/-- The document begins with the sizes, and these are in reverse order. -/
def backwards : Element := .mk "platform" [] none [sizes, sign, bits]

theorem describes_backwards : Describes backwards odd := by
  have hsign : WritesSign sign.content .unsigned := ⟨nofun, " ", "nsigned", rfl, by decide⟩
  have hbits : HoldsNumber bits "char_bit" odd.charBits := ⟨rfl, "", "", by decide, rfl, rfl⟩
  have hsize (t : Size) : HoldsNumber (size t) t.tag (odd.size t) :=
    ⟨rfl, "\n", " ", rfl, by decide, by decide⟩
  have hperm : [sizes, sign, bits].Perm [sign, bits, sizes] :=
    (List.perm_append_comm : ([sizes] ++ [sign, bits]).Perm _)
  exact ⟨rfl, sign, bits, sizes, hperm, ⟨rfl, hsign⟩, hbits, rfl, size,
    (List.reverse_perm Size.all).map size, hsize⟩

theorem length_odd_le (f : Field) :
    (Nat.toDigits 10 (odd.number f).natAbs).length ≤ Text.maxDigits := by
  cases f with
  | charBits => decide
  | size t => cases t <;> decide

end WritingSample

open WritingSample OverridingSample in
/-- Sizes in reverse order, blanks and a word for the sign do not matter. -/
theorem loads_of_describes_sample : ∃ base, builtin? .win64 = some base ∧
    base.Loads (holding backwards) file { odd with kind := .custom } := by
  obtain ⟨base, hbase⟩ : ∃ base, builtin? .win64 = some base := ⟨_, rfl⟩
  have hspells : Xml.Spells (String.ofList backwards.spelled).toList backwards := by
    rw [String.toList_ofList]
    exact Xml.spells_spelled (by decide +kernel)
  obtain ⟨-, hloads, -⟩ := loads_of_describes (show odd.sign ≠ .unspecified by decide) length_odd_le
  exact ⟨base, hbase, hloads backwards _ describes_backwards hspells base _ _ rfl⟩

end Platform

end BuildDescriptor
