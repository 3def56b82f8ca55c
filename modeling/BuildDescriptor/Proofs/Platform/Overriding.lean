import BuildDescriptor.Proofs.Platform.Fields
import BuildDescriptor.Proofs.Session.PlatformFiles
import BuildDescriptor.Proofs.Text.Numeral
import BuildDescriptor.Proofs.Xml.Order
import BuildDescriptor.Proofs.Xml.Spelling

/-!
# Overriding one profile by files

A platform file overrides a profile field by field. What a field becomes is told by the places in
the document where a value for it is given: the value at the last of these places counts, in
whichever section it stands, and a field without such a place keeps what it had. So overriding is
right-biased, and two files one after the other do what the elements of both do in one file.

Elements that give nothing have no part in this. There are several reasons why an element gives
nothing: its tag is not known where it stands, or there is no number, or no sign, in its text, which
may also be blank. All of these elements can be deleted, and so can whatever is inside of an element
that is read for its text only.

## Main definitions

* `Platform.GivesNumber`, `Platform.GivesSign` — the places where a value is given
* `Platform.Idle`, `Platform.IdleSize` — the elements that give nothing
* `Platform.Pruned` — a root element without some of these
* `Platform.Overridden` — what becomes of the fields of a profile

## Main results

* `Platform.inDocumentOrder_given`, `Platform.inDocumentOrder_givenSigns` — the values that are
  found are those that are given
* `Platform.override_override` — two files in one
* `Platform.override_of_pruned` — idle elements can be deleted
* `Platform.loads_overridden` — overriding, for files
-/

namespace BuildDescriptor

open Xml (Element InDocumentOrder)

namespace Platform

variable {p p' : Profile} {f : Field} {t : Size} {e e' root root' : Element}
  {path path' : Path} {text : String} {n : Int} {s : CharSign}

/-! ### What an element holds -/

/-- The tag of an element that gives the size of a type. -/
def Size.tag : Size → String
  | .bool => "bool"
  | .short => "short"
  | .int => "int"
  | .long => "long"
  | .longLong => "long-long"
  | .float => "float"
  | .double => "double"
  | .longDouble => "long-double"
  | .pointer => "pointer"
  | .sizeType => "size_t"
  | .wchar => "wchar_t"

theorem of_ite_eq_some {α : Type} {c : Prop} [Decidable c] {a b : α} {x : Option α}
    (h : (if c then some a else x) = some b) : c ∧ a = b ∨ x = some b := by
  split at h
  · exact .inl ⟨‹c›, Option.some.inj h⟩
  · exact .inr h

theorem Size.ofTag?_eq_some_iff {tag : String} : Size.ofTag? tag = some t ↔ tag = t.tag := by
  constructor
  · intro h
    unfold Size.ofTag? at h
    repeat
      rcases of_ite_eq_some h with ⟨htag, rfl⟩ | h
      · exact htag
    cases h
  · rintro rfl
    cases t <;> rfl

theorem integer?_eq_some_iff : integer? e = some n ↔ Text.Writes e.content n :=
  Text.readInteger?_strip_eq_some_iff

theorem integer?_eq_none_iff : integer? e = none ↔ ∀ n, ¬ Text.Writes e.content n := by
  rw [Option.eq_none_iff_forall_ne_some]
  exact forall_congr' fun n => not_congr integer?_eq_some_iff

/-- A text that begins with the letter for a sign, blanks in front of it aside. -/
def WritesSign (text : String) (s : CharSign) : Prop :=
  s ≠ .unspecified ∧ ∃ before rest, text = before ++ s.letter ++ rest ∧
    Text.isBlankText before = true

/-- The letter is what is left in front once the text is trimmed. -/
theorem CharSign.ofText?_of_trim {cs : List Char}
    (h : Text.trim text.toList = s.letter.toList ++ cs) (hs : s ≠ .unspecified) :
    CharSign.ofText? text = some s := by
  rw [CharSign.ofText?, Text.strip, String.toList_ofList, h]
  cases s with
  | signed | unsigned => rfl
  | unspecified => exact absurd rfl hs

theorem CharSign.exists_trim_of_ofText? (h : CharSign.ofText? text = some s) :
    s ≠ .unspecified ∧ ∃ cs, Text.trim text.toList = s.letter.toList ++ cs := by
  rw [CharSign.ofText?, Text.strip, String.toList_ofList] at h
  split at h
  · rename_i cs hcs
    cases h
    exact ⟨by decide, cs, hcs⟩
  · rename_i cs hcs
    cases h
    exact ⟨by decide, cs, hcs⟩
  · cases h

theorem CharSign.exists_letter (hs : s ≠ .unspecified) :
    ∃ c, s.letter.toList = [c] ∧ Text.isBlank c = false := by
  cases s with
  | signed => exact ⟨'s', rfl, by decide⟩
  | unsigned => exact ⟨'u', rfl, by decide⟩
  | unspecified => exact absurd rfl hs

theorem CharSign.ofText?_eq_some_iff : CharSign.ofText? text = some s ↔ WritesSign text s := by
  constructor
  · intro h
    obtain ⟨hs, cs, hcs⟩ := CharSign.exists_trim_of_ofText? h
    obtain ⟨before, after, htext, hbefore, -⟩ := Text.exists_trim text.toList
    refine ⟨hs, .ofList before, .ofList (cs ++ after), ?_, ?_⟩
    · rw [← String.toList_inj, htext, hcs]
      simp
    · simpa [Text.isBlankText] using hbefore
  · rintro ⟨hs, before, rest, rfl, hbefore⟩
    obtain ⟨c, hc, hblank⟩ := CharSign.exists_letter hs
    obtain ⟨cs, hcs⟩ := Text.exists_trim_cons (List.all_eq_true.mp hbefore) hblank rest.toList
    have htrim : Text.trim (before ++ s.letter ++ rest).toList = s.letter.toList ++ cs := by
      rw [String.toList_append, String.toList_append, hc, List.append_assoc]
      exact hcs
    exact CharSign.ofText?_of_trim htrim hs

/-- The sign that a child of the root element gives. -/
def sign? (e : Element) : Option CharSign :=
  if e.tag = "default-sign" then CharSign.ofText? e.content else none

/-- The number of bits that a child of the root element gives. -/
def bits? (e : Element) : Option Int :=
  if e.tag = "char_bit" then integer? e else none

/-- The number that an element of a section of sizes gives for a type. -/
def size? (t : Size) (e : Element) : Option Int :=
  if e.tag = t.tag then integer? e else none

theorem sign?_eq_some_iff :
    sign? e = some s ↔ e.tag = "default-sign" ∧ WritesSign e.content s := by
  rw [sign?, Option.ite_none_right_eq_some, CharSign.ofText?_eq_some_iff]

theorem bits?_eq_some_iff :
    bits? e = some n ↔ e.tag = "char_bit" ∧ Text.Writes e.content n := by
  rw [bits?, Option.ite_none_right_eq_some, integer?_eq_some_iff]

theorem size?_eq_some_iff :
    size? t e = some n ↔ e.tag = t.tag ∧ Text.Writes e.content n := by
  rw [size?, Option.ite_none_right_eq_some, integer?_eq_some_iff]

/-- The signs that a root element gives, in the order of the document. -/
def givenSigns (root : Element) : List CharSign :=
  root.children.filterMap sign?

theorem given_charBits (root : Element) : given root .charBits = root.children.filterMap bits? := by
  rw [given, List.filterMap_eq_flatMap_toList]
  refine List.flatMap_congr fun e _ => ?_
  rw [givenBy, bits?]
  split <;> rfl

theorem given_size (root : Element) (t : Size) : given root (.size t) =
    root.children.flatMap fun e =>
      if (decide (e.tag = "sizeof")) = true then e.children.filterMap (size? t) else [] := by
  refine List.flatMap_congr fun e _ => ?_
  simp only [givenBy, List.filterMap_filter, decide_eq_true_eq, Size.ofTag?_eq_some_iff]
  rfl

/-! ### The places where a value is given -/

/-- The element at a place holds a number for a field. -/
inductive GivesNumber (root : Element) : Field → List Nat → Int → Prop
  | charBits {i : Nat} {e : Element} {n : Int} (he : root.children[i]? = some e)
      (htag : e.tag = "char_bit") (hn : Text.Writes e.content n) : GivesNumber root .charBits [i] n
  | size {i j : Nat} {sizes e : Element} {t : Size} {n : Int}
      (hsizes : root.children[i]? = some sizes) (htag : sizes.tag = "sizeof")
      (he : sizes.children[j]? = some e) (ht : e.tag = t.tag) (hn : Text.Writes e.content n) :
      GivesNumber root (.size t) [i, j] n

/-- The element at a place holds a sign. -/
inductive GivesSign (root : Element) : List Nat → CharSign → Prop
  | mk {i : Nat} {e : Element} {s : CharSign} (he : root.children[i]? = some e)
      (htag : e.tag = "default-sign") (hs : WritesSign e.content s) : GivesSign root [i] s

theorem inDocumentOrder_givenSigns (root : Element) :
    InDocumentOrder (GivesSign root) (givenSigns root) := by
  refine (InDocumentOrder.filterMap sign? root.children).congr fun place s => ?_
  simp only [sign?_eq_some_iff]
  constructor
  · rintro ⟨i, e, rfl, he, htag, hs⟩
    exact ⟨he, htag, hs⟩
  · rintro ⟨he, htag, hs⟩
    exact ⟨_, _, rfl, he, htag, hs⟩

theorem inDocumentOrder_given (root : Element) (f : Field) :
    InDocumentOrder (GivesNumber root f) (given root f) := by
  cases f with
  | charBits =>
    rw [given_charBits]
    refine (InDocumentOrder.filterMap bits? root.children).congr fun place n => ?_
    simp only [bits?_eq_some_iff]
    constructor
    · rintro ⟨i, e, rfl, he, htag, hn⟩
      exact .charBits he htag hn
    · intro h
      cases h with
      | charBits he htag hn => exact ⟨_, _, rfl, he, htag, hn⟩
  | size t =>
    rw [given_size]
    refine (InDocumentOrder.items _ (size? t) root.children).congr fun place n => ?_
    simp only [size?_eq_some_iff, decide_eq_true_eq]
    constructor
    · rintro ⟨i, j, sizes, e, rfl, hsizes, htag, he, ht, hn⟩
      exact .size hsizes htag he ht hn
    · intro h
      cases h with
      | size hsizes htag he ht hn => exact ⟨_, _, _, _, rfl, hsizes, htag, he, ht, hn⟩

/-! ### What decides about an overridden profile -/

/-- The sign that a setting gives. -/
def Setting.sign? : Setting → Option CharSign
  | .sign s => some s
  | .charBits _ | .size _ _ => none

theorem sign_apply (p : Profile) (s : Setting) : (s.apply p).sign = s.sign?.getD p.sign := by
  cases s <;> rfl

theorem sign?_numberSetting (path : Path) (f : Field) (e : Element) :
    (numberSetting path f.setting e).toOption.bind Setting.sign? = none := by
  unfold numberSetting
  split
  · cases f <;> rfl
  · rfl

theorem sign?_signSetting (path : Path) (e : Element) :
    (signSetting path e).toOption.bind Setting.sign? = CharSign.ofText? e.content := by
  unfold signSetting
  split <;> simp [*, Except.toOption, Setting.sign?]

theorem filterMap_childSettings_sign (path : Path) (e : Element) :
    ((childSettings path e).filterMap fun s => s.toOption.bind Setting.sign?) =
      (sign? e).toList := by
  have hbits : (numberSetting path .charBits e).toOption.bind Setting.sign? = none :=
    sign?_numberSetting path .charBits e
  unfold childSettings sign?
  split
  · rw [List.filterMap_cons, List.filterMap_nil, sign?_signSetting]
    cases CharSign.ofText? e.content <;> rfl
  · split
    · rw [List.filterMap_cons, List.filterMap_nil, hbits]
      rfl
    · split
      · rw [List.filterMap_filterMap]
        refine List.filterMap_eq_nil_iff.mpr fun item _ => ?_
        cases Size.ofTag? item.tag with
        | none => rfl
        | some t =>
          have hsize : (numberSetting path (.size t) item).toOption.bind Setting.sign? = none :=
            sign?_numberSetting path (.size t) item
          rw [Option.map_some, Option.bind_some, hsize]
      · rfl

/-- The last sign counts. Where the file gives none, the profile keeps its sign. -/
theorem sign_override (p : Profile) (path : Path) (root : Element) :
    (p.override path root).sign = (givenSigns root).getLast?.getD p.sign := by
  have hgiven : (settings path root).filterMap (fun s => s.toOption.bind Setting.sign?) =
      givenSigns root := by
    rw [settings, givenSigns, List.filterMap_flatMap, List.filterMap_eq_flatMap_toList]
    exact List.flatMap_congr fun e _ => filterMap_childSettings_sign path e
  rw [← hgiven]
  exact read_applyAll Profile.sign Setting.sign? sign_apply p (settings path root)

/-- A profile is its kind, its sign and its numbers. -/
theorem Profile.eq_of_number (hkind : p.kind = p'.kind) (hsign : p.sign = p'.sign)
    (hnumber : ∀ f, p.number f = p'.number f) : p = p' := by
  obtain ⟨kind, size, sign, charBits⟩ := p
  obtain ⟨kind', size', sign', charBits'⟩ := p'
  have hsize : size = size' := funext fun t => hnumber (.size t)
  have hbits : charBits = charBits' := hnumber .charBits
  cases hkind
  cases hsign
  rw [hsize, hbits]

/-- What two files make of two profiles is the same if the last values are. -/
theorem override_eq_override
    (hsign : (givenSigns root).getLast?.getD p.sign = (givenSigns root').getLast?.getD p'.sign)
    (hnumber : ∀ f,
      (given root f).getLast?.getD (p.number f) = (given root' f).getLast?.getD (p'.number f)) :
    p.override path root = p'.override path' root' := by
  refine Profile.eq_of_number rfl ?_ fun f => ?_
  · rw [sign_override, sign_override, hsign]
  · rw [number_override, number_override, hnumber]

/-- **Two files in one.** -/
theorem override_override {root₁ root₂ : Element} {path₁ path₂ : Path}
    (h : root₂.children = root.children ++ root₁.children) :
    (p.override path root).override path₁ root₁ = p.override path₂ root₂ := by
  have hsigns : givenSigns root₂ = givenSigns root ++ givenSigns root₁ := by
    rw [givenSigns, h, List.filterMap_append]
    rfl
  have hgiven (f : Field) : given root₂ f = given root f ++ given root₁ f := by
    rw [given, h, List.flatMap_append]
    rfl
  refine override_eq_override ?_ fun f => ?_
  · rw [sign_override, hsigns, List.getLast?_append, Option.getD_or]
  · rw [number_override, hgiven, List.getLast?_append, Option.getD_or]

/-- The same file once more changes nothing. -/
theorem override_override_self :
    (p.override path root).override path root = p.override path root := by
  refine override_eq_override ?_ fun f => ?_
  · rw [sign_override]
    cases (givenSigns root).getLast? <;> rfl
  · rw [number_override]
    cases (given root f).getLast? <;> rfl

/-! ### Elements that give nothing -/

/-- An element of a section of sizes that gives none. -/
def IdleSize (e : Element) : Prop :=
  (∀ t : Size, e.tag ≠ t.tag) ∨ ∀ n, ¬ Text.Writes e.content n

/-- A child of the root element that gives nothing. -/
inductive Idle : Element → Prop
  | unknown {e : Element} (h : e.tag ∉ ["default-sign", "char_bit", "sizeof"]) : Idle e
  | sign {e : Element} (htag : e.tag = "default-sign") (h : ∀ s, ¬ WritesSign e.content s) : Idle e
  | charBits {e : Element} (htag : e.tag = "char_bit") (h : ∀ n, ¬ Text.Writes e.content n) : Idle e
  | sizes {e : Element} (htag : e.tag = "sizeof") (h : ∀ item ∈ e.children, IdleSize item) : Idle e

/-- The second list is the first one without some elements, which are idle. Those that are left need
not be the same as before, but they are alike. -/
inductive Trimmed (Idle : Element → Prop) (Alike : Element → Element → Prop) :
    List Element → List Element → Prop
  | nil : Trimmed Idle Alike [] []
  | skip {e : Element} {es es' : List Element} (he : Idle e) (h : Trimmed Idle Alike es es') :
      Trimmed Idle Alike (e :: es) es'
  | keep {e e' : Element} {es es' : List Element} (he : Alike e e')
      (h : Trimmed Idle Alike es es') : Trimmed Idle Alike (e :: es) (e' :: es')

/-- Two elements with one tag and one text, whatever is inside of them. -/
def AlikeText (e e' : Element) : Prop := e.tag = e'.tag ∧ e.content = e'.content

/-- The second element has the same text as the first one or, if it is a section of sizes, it is the
first one without some of the elements that give no size. -/
inductive AlikeChild : Element → Element → Prop
  | text {e e' : Element} (hne : e.tag ≠ "sizeof") (h : AlikeText e e') : AlikeChild e e'
  | sizes {e e' : Element} (htag : e.tag = "sizeof") (htag' : e'.tag = "sizeof")
      (h : Trimmed IdleSize AlikeText e.children e'.children) : AlikeChild e e'

/-- The second root element is the first one without some elements that give nothing. -/
def Pruned (root root' : Element) : Prop :=
  Trimmed Idle AlikeChild root.children root'.children

/-- What idle elements do not add to, and alike ones have in common, is left as it was. -/
theorem Trimmed.flatMap_eq {α : Type} {Idle : Element → Prop} {Alike : Element → Element → Prop}
    {es es' : List Element} {g : Element → List α} (h : Trimmed Idle Alike es es')
    (hidle : ∀ e, Idle e → g e = []) (halike : ∀ e e', Alike e e' → g e = g e') :
    es.flatMap g = es'.flatMap g := by
  induction h with
  | nil => rfl
  | skip he _ ih => rw [List.flatMap_cons, hidle _ he, List.nil_append, ih]
  | keep he _ ih => rw [List.flatMap_cons, List.flatMap_cons, halike _ _ he, ih]

theorem integer?_of_alike (h : AlikeText e e') : integer? e = integer? e' := by
  rw [integer?, integer?, h.2]

theorem size?_of_idle (h : IdleSize e) : size? t e = none := by
  refine Option.eq_none_iff_forall_ne_some.mpr fun n hn => ?_
  obtain ⟨htag, hwrites⟩ := size?_eq_some_iff.mp hn
  rcases h with h | h
  · exact h t htag
  · exact h n hwrites

theorem size?_of_alike (h : AlikeText e e') : size? t e = size? t e' := by
  rw [size?, size?, h.1, integer?_of_alike h]

theorem sign?_of_idle (h : Idle e) : sign? e = none := by
  refine Option.eq_none_iff_forall_ne_some.mpr fun s hs => ?_
  obtain ⟨htag, hwrites⟩ := sign?_eq_some_iff.mp hs
  cases h with
  | unknown h => exact h (by simp [htag])
  | sign _ h => exact h s hwrites
  | charBits htag' _ | sizes htag' _ => simp [htag] at htag'

theorem sign?_of_alike (h : AlikeChild e e') : sign? e = sign? e' := by
  cases h with
  | text _ h => rw [sign?, sign?, h.1, h.2]
  | sizes htag htag' _ => rw [sign?, sign?, if_neg (by simp [htag]), if_neg (by simp [htag'])]

theorem bits?_of_idle (h : Idle e) : bits? e = none := by
  refine Option.eq_none_iff_forall_ne_some.mpr fun n hn => ?_
  obtain ⟨htag, hwrites⟩ := bits?_eq_some_iff.mp hn
  cases h with
  | unknown h => exact h (by simp [htag])
  | charBits _ h => exact h n hwrites
  | sign htag' _ | sizes htag' _ => simp [htag] at htag'

theorem bits?_of_alike (h : AlikeChild e e') : bits? e = bits? e' := by
  cases h with
  | text _ h => rw [bits?, bits?, h.1, integer?_of_alike h]
  | sizes htag htag' _ => rw [bits?, bits?, if_neg (by simp [htag]), if_neg (by simp [htag'])]

theorem Trimmed.filterMap_eq {α : Type} {Idle : Element → Prop} {Alike : Element → Element → Prop}
    {es es' : List Element} {g : Element → Option α} (h : Trimmed Idle Alike es es')
    (hidle : ∀ e, Idle e → g e = none) (halike : ∀ e e', Alike e e' → g e = g e') :
    es.filterMap g = es'.filterMap g := by
  rw [List.filterMap_eq_flatMap_toList, List.filterMap_eq_flatMap_toList]
  refine h.flatMap_eq (fun e he => ?_) fun e e' he => ?_
  · rw [hidle e he, Option.toList_none]
  · rw [halike e e' he]

theorem given_of_pruned (h : Pruned root root') (f : Field) : given root f = given root' f := by
  cases f with
  | charBits =>
    rw [given_charBits, given_charBits]
    exact h.filterMap_eq (fun _ => bits?_of_idle) fun _ _ => bits?_of_alike
  | size t =>
    rw [given_size, given_size]
    simp only [decide_eq_true_eq]
    refine h.flatMap_eq (fun e he => ?_) fun e e' he => ?_
    · split
      · rename_i htag
        cases he with
        | unknown h => exact absurd (by simp [htag]) h
        | sizes _ h =>
          exact List.filterMap_eq_nil_iff.mpr fun item hitem => size?_of_idle (h item hitem)
        | sign htag' _ | charBits htag' _ => simp [htag] at htag'
      · rfl
    · cases he with
      | text hne h => rw [if_neg hne, if_neg (h.1 ▸ hne)]
      | sizes htag htag' h =>
        rw [if_pos htag, if_pos htag']
        exact h.filterMap_eq (fun _ => size?_of_idle) fun _ _ => size?_of_alike

theorem givenSigns_of_pruned (h : Pruned root root') : givenSigns root = givenSigns root' :=
  h.filterMap_eq (fun _ => sign?_of_idle) fun _ _ => sign?_of_alike

/-- **Idle elements can be deleted.** -/
theorem override_of_pruned (h : Pruned root root') :
    p.override path' root' = p.override path root :=
  override_eq_override (by rw [givenSigns_of_pruned h]) fun f => by rw [given_of_pruned h]

/-! ### Files -/

/-- A platform file is loaded on a profile, with this one as the result. -/
def Profile.Loads (p : Profile) (fs : FileSystem) (path : Path) (q : Profile) : Prop :=
  ∃ notices, p.loadFile fs path = .ok ⟨.ok q, notices⟩

theorem Profile.loads_override {fs : FileSystem} (h : IsPlatformFile fs path root) (p : Profile) :
    p.Loads fs path (p.override path root) := by
  obtain ⟨hread, htag⟩ := isPlatformFile_iff.mp h
  refine ⟨noticesOf (settings path root), ?_⟩
  rw [Profile.loadFile, hread, ok_bind]
  simp only [htag, if_true]
  rfl

theorem Profile.Loads.unique {fs : FileSystem} {q q' : Profile} (h : p.Loads fs path q)
    (h' : p.Loads fs path q') : q = q' := by
  obtain ⟨_, h⟩ := h
  obtain ⟨_, h'⟩ := h'
  cases h.symm.trans h'
  rfl

/-- What becomes of the fields of a profile. -/
structure Overridden (base : Profile) (root : Element) (q : Profile) : Prop where
  kind_eq : q.kind = .custom
  sign_last : Xml.LastCounts (GivesSign root) base.sign q.sign
  number_last : ∀ f, Xml.LastCounts (GivesNumber root f) (base.number f) (q.number f)
  bits_eq : ∀ t, q.bits t = q.charBits * q.size t

theorem overridden_override (base : Profile) (path : Path) (root : Element) :
    Overridden base root (base.override path root) where
  kind_eq := rfl
  sign_last := by
    rw [sign_override]
    exact (inDocumentOrder_givenSigns root).lastCounts base.sign
  number_last f := by
    rw [number_override]
    exact (inDocumentOrder_given root f).lastCounts (base.number f)
  bits_eq _ := rfl

/-- **Overriding a profile by a file.** For each field the value at the last place counts where the
file gives one, and a field without such a place keeps its value. Loading the file again changes
nothing, and neither does it to delete elements that give nothing. Loading another file afterwards
does what one file with the elements of both does. -/
theorem loads_overridden {fs : FileSystem} (base : Profile) (h : IsPlatformFile fs path root) :
    ∃ q, base.Loads fs path q ∧ Overridden base root q ∧ q.Loads fs path q ∧
      (∀ fs' path' root', IsPlatformFile fs' path' root' → Pruned root root' →
        base.Loads fs' path' q) ∧
      ∀ fs₁ path₁ root₁ fs₂ path₂ root₂, IsPlatformFile fs₁ path₁ root₁ →
        IsPlatformFile fs₂ path₂ root₂ → root₂.children = root.children ++ root₁.children →
        ∃ r, q.Loads fs₁ path₁ r ∧ base.Loads fs₂ path₂ r := by
  refine ⟨base.override path root, Profile.loads_override h base,
    overridden_override base path root, ?_, ?_, ?_⟩
  · have hloads := Profile.loads_override h (base.override path root)
    rwa [override_override_self] at hloads
  · intro fs' path' root' h' hpruned
    have hloads := Profile.loads_override h' base
    rwa [override_of_pruned hpruned] at hloads
  · intro fs₁ path₁ root₁ fs₂ path₂ root₂ h₁ h₂ hchildren
    have hloads := Profile.loads_override h₂ base
    rw [← override_override hchildren] at hloads
    exact ⟨_, Profile.loads_override h₁ _, hloads⟩

namespace OverridingSample

/-- Two sizes for one type, in two sections, and between them elements that give nothing. -/
def twice : Element := .mk "platform" [] none
  [.mk "sizeof" [] none [.mk "int" [] (some "4") [], .mk "int" [] (some "x") []],
    .mk "default-sign" [] (some "q") [], .mk "note" [] none [],
    .mk "sizeof" [] none [.mk "int" [] (some " 2 ") []]]

/-- The same without what gives nothing. -/
def bare : Element := .mk "platform" [] none
  [.mk "sizeof" [] none [.mk "int" [] (some "4") []],
    .mk "sizeof" [] none [.mk "int" [] (some " 2 ") []]]

/-- A sign and nothing else. -/
def signOnly : Element := .mk "platform" [] none [.mk "default-sign" [] (some "u") []]

def both : Element := .mk "platform" [] none (twice.children ++ signOnly.children)

/-- A file system with one document in every file. -/
def holding (e : Element) : FileSystem :=
  ⟨fun _ => .ok (.file (String.ofList e.spelled).toUTF8)⟩

def file : Path := ⟨"", ["p.xml"]⟩

theorem isPlatformFile_holding (hplain : e.isPlain = true) (htag : e.tag = "platform") :
    IsPlatformFile (holding e) file e := by
  refine ⟨⟨_, by rfl, Xml.parse_of_spells ?_⟩, htag⟩
  rw [String.toList_ofList]
  exact Xml.spells_spelled hplain

theorem pruned_twice : Pruned twice bare := by
  have hsize : IdleSize (.mk "int" [] (some "x") []) :=
    .inr (integer?_eq_none_iff.mp (by decide +kernel))
  have hsign : Idle (.mk "default-sign" [] (some "q") []) := by
    refine .sign rfl fun s hs => ?_
    have hfound : CharSign.ofText? "q" = some s := CharSign.ofText?_eq_some_iff.mpr hs
    have hnone : CharSign.ofText? "q" = none := by decide +kernel
    rw [hnone] at hfound
    cases hfound
  have hnote : Idle (.mk "note" [] none []) := .unknown (by decide)
  exact .keep (.sizes rfl rfl (.keep ⟨rfl, rfl⟩ (.skip hsize .nil)))
    (.skip hsign (.skip hnote (.keep (.sizes rfl rfl (.keep ⟨rfl, rfl⟩ .nil)) .nil)))

end OverridingSample

open OverridingSample in
/-- The second of the two sizes counts, and what gives nothing does not matter. -/
theorem loads_overridden_sample : ∃ base q, builtin? .unix64 = some base ∧
    base.Loads (holding twice) file q ∧ q.size .int = 2 ∧ q.bits .int = 16 ∧
    q.size .pointer = 8 ∧ q.Loads (holding twice) file q ∧
    base.Loads (holding bare) file q ∧
    ∃ r, q.Loads (holding signOnly) file r ∧ base.Loads (holding both) file r := by
  obtain ⟨base, hbase⟩ : ∃ base, builtin? .unix64 = some base := ⟨_, rfl⟩
  have htwice : IsPlatformFile (holding twice) file twice :=
    isPlatformFile_holding (by decide) rfl
  have hbare : IsPlatformFile (holding bare) file bare :=
    isPlatformFile_holding (by decide) rfl
  have hsign : IsPlatformFile (holding signOnly) file signOnly :=
    isPlatformFile_holding (by decide) rfl
  have hall : IsPlatformFile (holding both) file both :=
    isPlatformFile_holding (by decide) rfl
  obtain ⟨q, hloads, -, hagain, hpruned, hboth⟩ := loads_overridden base htwice
  obtain rfl : q = base.override file twice := hloads.unique (Profile.loads_override htwice base)
  refine ⟨base, _, hbase, hloads, ?_, ?_, ?_, hagain, hpruned _ _ _ hbare pruned_twice,
    hboth _ _ _ _ _ _ hsign hall rfl⟩
  all_goals
    cases hbase
    decide +kernel

end Platform

end BuildDescriptor
