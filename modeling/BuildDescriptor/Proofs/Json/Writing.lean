import BuildDescriptor.Json.Writer
import BuildDescriptor.Proofs.Json.Listing

/-!
# What is written is read back

A value is written with line ends and indentation, and with an escape for every character from
outside the printable range of ASCII. None of this is lost on the reader: the text is one of the
spellings of the value, so it is read as the value.

The only place where the writer and the reader do not speak of the same things is inside a string.
There the text names UTF-16 units, of which a character beyond `U+FFFF` has two. A character is
never a surrogate, so the two halves of a pair are put together again, and nothing else is.

Numbers are left out here. A value with numbers is read back only if its integers have no more
digits than a number may have, and if its literals are those of numbers.

## Main definitions

* `Json.units` — the UTF-16 units of a character
* `Json.Escaped` — the three ways in which a character stands in a string
* `Json.Legible` — a value whose text is ASCII and spells it, at any indentation

## Main results

* `Json.stringBody_escapes` — an escaped text spells the text
* `Json.Legible.array`, `Json.Legible.object` — containers of values that are legible
* `Json.Legible.decode_render` — what is written is read back
* `Json.Legible.render_inj` — different values have different texts
-/

namespace BuildDescriptor

namespace Text

/-! ### Hexadecimal digits -/

theorem hexDigits_one {n : Nat} (h : n < 16) : hexDigits 1 n = [Nat.digitChar n] := by
  rw [hexDigits, Nat.toDigits_of_lt_base h]
  rfl

/-- The last of several digits. -/
theorem hexDigits_succ (width n : Nat) :
    hexDigits (width + 2) n = hexDigits (width + 1) (n / 16) ++ [Nat.digitChar (n % 16)] := by
  rcases Nat.lt_or_ge n 16 with h | h
  · have hzeros : List.replicate (width + 1) '0' = List.replicate width '0' ++ ['0'] :=
      List.replicate_succ'
    simp only [hexDigits, Nat.toDigits_of_lt_base h, Nat.div_eq_of_lt h, Nat.mod_eq_of_lt h,
      Nat.toDigits_of_lt_base (show 0 < 16 by decide), List.length_singleton]
    exact congrArg (· ++ [Nat.digitChar n]) hzeros
  · have hwidth (k : Nat) : width + 2 - (k + 1) = width + 1 - k := by omega
    simp only [hexDigits, Nat.toDigits_of_base_le (by decide) h, List.length_append,
      List.length_singleton, hwidth, List.append_assoc]

end Text

namespace Json

variable {levels : Nat} {cs ds body : List Char} {codes : List Nat} {c : Char} {v : Json}
  {vs : List Json}

/-! ### ASCII -/

/-- Nothing but ASCII. -/
def IsAscii (cs : List Char) : Prop := ∀ c ∈ cs, c.toNat < 128

theorem isAscii_nil : IsAscii [] := nofun

theorem isAscii_cons : IsAscii (c :: cs) ↔ c.toNat < 128 ∧ IsAscii cs := List.forall_mem_cons

theorem isAscii_append : IsAscii (cs ++ ds) ↔ IsAscii cs ∧ IsAscii ds := List.forall_mem_append

theorem isAscii_of_all (h : cs.all (fun c => decide (c.toNat < 128)) = true) : IsAscii cs :=
  fun c hc => of_decide_eq_true (List.all_eq_true.mp h c hc)

theorem isAscii_flatMap {α : Type} {f : α → List Char} {l : List α} (h : ∀ a ∈ l, IsAscii (f a)) :
    IsAscii (l.flatMap f) := by
  intro c hc
  obtain ⟨a, ha, hc⟩ := List.mem_flatMap.mp hc
  exact h a ha c hc

/-! ### Escapes -/

theorem hexValue?_digitChar : ∀ d < 16, hexValue? (Nat.digitChar d) = some d := by
  decide

theorem toNat_digitChar_lt : ∀ d < 16, (Nat.digitChar d).toNat < 128 := by
  decide

/-- The escape for a unit has the four digits that the reader takes. -/
theorem unitEscape_eq {unit : Nat} (h : unit < 0x10000) :
    unitEscape unit = ['\\', 'u', Nat.digitChar (unit / 16 / 16 / 16),
      Nat.digitChar (unit / 16 / 16 % 16), Nat.digitChar (unit / 16 % 16),
      Nat.digitChar (unit % 16)] := by
  rw [unitEscape, Text.hexDigits_succ, Text.hexDigits_succ, Text.hexDigits_succ,
    Text.hexDigits_one (by omega)]
  rfl

theorem hex4?_unitEscape {unit : Nat} (h : unit < 0x10000) :
    hex4? (Nat.digitChar (unit / 16 / 16 / 16)) (Nat.digitChar (unit / 16 / 16 % 16))
      (Nat.digitChar (unit / 16 % 16)) (Nat.digitChar (unit % 16)) = some unit := by
  have hvalue : ((unit / 16 / 16 / 16 * 16 + unit / 16 / 16 % 16) * 16 + unit / 16 % 16) * 16 +
      unit % 16 = unit := by
    omega
  rw [hex4?, hexValue?_digitChar _ (by omega), hexValue?_digitChar _ (Nat.mod_lt _ (by decide)),
    hexValue?_digitChar _ (Nat.mod_lt _ (by decide)),
    hexValue?_digitChar _ (Nat.mod_lt _ (by decide))]
  exact congrArg some hvalue

theorem isAscii_unitEscape {unit : Nat} (h : unit < 0x10000) : IsAscii (unitEscape unit) := by
  rw [unitEscape_eq h]
  simp only [isAscii_cons]
  exact ⟨by decide, by decide, toNat_digitChar_lt _ (by omega),
    toNat_digitChar_lt _ (Nat.mod_lt _ (by decide)),
    toNat_digitChar_lt _ (Nat.mod_lt _ (by decide)),
    toNat_digitChar_lt _ (Nat.mod_lt _ (by decide)), isAscii_nil⟩

/-- Escaped units are read as these units. -/
theorem StringBody.unitEscapes_append {units : List Nat} (h : ∀ unit ∈ units, unit < 0x10000)
    (hbody : StringBody codes body) :
    StringBody (units ++ codes) (units.flatMap unitEscape ++ body) := by
  induction units with
  | nil => exact hbody
  | cons unit units ih =>
    obtain ⟨hunit, hunits⟩ := List.forall_mem_cons.mp h
    rw [List.flatMap_cons, List.append_assoc, unitEscape_eq hunit]
    exact .unicode (hex4?_unitEscape hunit) (ih hunits)

/-! ### Units -/

/-- The UTF-16 units of a character. -/
def units (c : Char) : List Nat :=
  if c.toNat < 0x10000 then [c.toNat]
  else [0xD800 + (c.toNat - 0x10000) / 0x400, 0xDC00 + (c.toNat - 0x10000) % 0x400]

/-- A character is no half of a surrogate pair. -/
theorem toNat_cases (c : Char) : c.toNat < 0xD800 ∨ 0xDFFF < c.toNat ∧ c.toNat < 0x110000 :=
  c.valid

theorem isHighSurrogate_toNat (c : Char) : isHighSurrogate c.toNat = false := by
  have hcases := toNat_cases c
  rw [isHighSurrogate, Bool.and_eq_false_iff, decide_eq_false_iff_not, decide_eq_false_iff_not]
  omega

theorem units_lt (c : Char) : ∀ unit ∈ units c, unit < 0x10000 := by
  have hcases := toNat_cases c
  rw [units]
  split
  · exact List.forall_mem_singleton.mpr ‹_›
  · rw [List.forall_mem_cons, List.forall_mem_singleton]
    omega

theorem charOf_toNat (c : Char) : charOf c.toNat = c := by
  rw [charOf, if_pos (toNat_cases c), Char.ofNat_toNat]

theorem joinSurrogates_cons {code : Nat} (h : isHighSurrogate code = false) (codes : List Nat) :
    joinSurrogates (code :: codes) = charOf code :: joinSurrogates codes := by
  cases codes with
  | nil => rfl
  | cons low codes => rw [joinSurrogates, h, Bool.false_and, if_neg (by decide)]

/-- The units of a character are put together to the character. -/
theorem joinSurrogates_units_append (c : Char) (codes : List Nat) :
    joinSurrogates (units c ++ codes) = c :: joinSurrogates codes := by
  have hcases := toNat_cases c
  rw [units]
  split
  · rw [List.singleton_append, joinSurrogates_cons (isHighSurrogate_toNat c), charOf_toNat]
  · rename_i hle
    have hhigh : isHighSurrogate (0xD800 + (c.toNat - 0x10000) / 0x400) = true := by
      rw [isHighSurrogate, Bool.and_eq_true, decide_eq_true_eq, decide_eq_true_eq]
      omega
    have hlow : isLowSurrogate (0xDC00 + (c.toNat - 0x10000) % 0x400) = true := by
      rw [isLowSurrogate, Bool.and_eq_true, decide_eq_true_eq, decide_eq_true_eq]
      omega
    have hpair : 0x10000 + (0xD800 + (c.toNat - 0x10000) / 0x400 - 0xD800) * 0x400 +
        (0xDC00 + (c.toNat - 0x10000) % 0x400 - 0xDC00) = c.toNat := by
      omega
    rw [List.cons_append, List.cons_append, List.nil_append, joinSurrogates, hhigh, hlow,
      Bool.and_self, if_pos rfl, hpair, charOf_toNat]

theorem joinSurrogates_units (cs : List Char) : joinSurrogates (cs.flatMap units) = cs := by
  induction cs with
  | nil => rfl
  | cons c cs ih => rw [List.flatMap_cons, joinSurrogates_units_append, ih]

theorem textOfCodes_units (s : String) : textOfCodes (s.toList.flatMap units) = s := by
  rw [textOfCodes, joinSurrogates_units, String.ofList_toList]

/-! ### Escapes of characters -/

/-- How a character stands in a string. -/
inductive Escaped (c : Char) : Prop
  /-- As a backslash and a letter. -/
  | letter {e : Char} (h : escape? e = some c) (he : e.toNat < 128) (hc : c.toNat < 128)
      (heq : escapeChar c = ['\\', e])
  /-- As itself. -/
  | plain (hquote : c ≠ '"') (hslash : c ≠ '\\') (hle : ¬ c.toNat < 0x20) (hlt : c.toNat < 128)
      (heq : escapeChar c = [c])
  /-- By its units. -/
  | units (heq : escapeChar c = (units c).flatMap unitEscape)

/-- The letters of the short escapes, with the characters that they stand for. -/
def letters : List (Char × Char) :=
  [('"', '"'), ('\\', '\\'), ('n', '\n'), ('r', '\r'), ('t', '\t'), ('f', '\x0c'), ('b', '\x08')]

theorem escaped_of_mem_letters : ∀ p ∈ letters, escape? p.1 = some p.2 ∧ p.1.toNat < 128 ∧
    p.2.toNat < 128 ∧ escapeChar p.2 = ['\\', p.1] := by
  decide

theorem escapeChar_eq (h : ∀ p ∈ letters, c ≠ p.2) :
    escapeChar c =
      if decide (' ' ≤ c) && decide (c ≤ '~') then [c] else (units c).flatMap unitEscape := by
  simp only [letters, List.forall_mem_cons] at h
  obtain ⟨hquote, hslash, hn, hr, ht, hf, hb, -⟩ := h
  simp only [escapeChar, hquote, hslash, hn, hr, ht, hf, hb, decide_false, Bool.or_false,
    Bool.false_eq_true, if_false, units, apply_ite (List.flatMap unitEscape), List.flatMap_cons,
    List.flatMap_nil, List.append_nil]

theorem toNat_of_printable (h : (decide (' ' ≤ c) && decide (c ≤ '~')) = true) :
    0x20 ≤ c.toNat ∧ c.toNat < 128 := by
  rw [Bool.and_eq_true, decide_eq_true_eq, decide_eq_true_eq, Char.le_def, Char.le_def,
    UInt32.le_iff_toNat_le, UInt32.le_iff_toNat_le] at h
  obtain ⟨hle, hlt⟩ : 32 ≤ c.toNat ∧ c.toNat ≤ 126 := h
  omega

theorem escaped (c : Char) : Escaped c := by
  by_cases h : ∃ p ∈ letters, p.2 = c
  · obtain ⟨p, hp, rfl⟩ := h
    obtain ⟨he, hlt, hc, heq⟩ := escaped_of_mem_letters p hp
    exact .letter he hlt hc heq
  · have hne : ∀ p ∈ letters, c ≠ p.2 := fun p hp heq => h ⟨p, hp, heq.symm⟩
    have heq := escapeChar_eq hne
    split at heq
    · obtain ⟨hle, hlt⟩ := toNat_of_printable ‹_›
      exact .plain (hne ('"', '"') (by decide)) (hne ('\\', '\\') (by decide)) (by omega) hlt heq
    · exact .units heq

/-- A character is escaped to its units. -/
theorem StringBody.escapeChar_append (c : Char) (hbody : StringBody codes body) :
    StringBody (units c ++ codes) (escapeChar c ++ body) := by
  cases escaped c with
  | letter h he hc heq =>
    rw [heq, units, if_pos (by omega)]
    exact .escape h hbody
  | plain hquote hslash hle hlt heq =>
    rw [heq, units, if_pos (by omega)]
    exact .plain hquote hslash hle hbody
  | units heq =>
    rw [heq]
    exact hbody.unitEscapes_append (units_lt c)

theorem isAscii_escapeChar (c : Char) : IsAscii (escapeChar c) := by
  cases escaped c with
  | letter h he hc heq =>
    rw [heq, isAscii_cons, isAscii_cons]
    exact ⟨by decide, he, isAscii_nil⟩
  | plain hquote hslash hle hlt heq =>
    rw [heq, isAscii_cons]
    exact ⟨hlt, isAscii_nil⟩
  | units heq =>
    rw [heq]
    exact isAscii_flatMap fun unit hunit => isAscii_unitEscape (units_lt c unit hunit)

/-- **An escaped text spells the text.** -/
theorem stringBody_escapes (s : String) :
    StringBody (s.toList.flatMap units) (s.toList.flatMap escapeChar ++ ['"']) := by
  induction s.toList with
  | nil => exact .closing
  | cons c cs ih =>
    rw [List.flatMap_cons, List.flatMap_cons, List.append_assoc]
    exact ih.escapeChar_append c

example : writeString "\"\n😀" = "\"\\\"\\n\\ud83d\\ude00\"".toList := by decide

/-! ### Values -/

/-- A value whose text is ASCII and spells the value, at any indentation. -/
structure Legible (levels : Nat) (v : Json) : Prop where
  /-- The text spells the value, with so many levels of containers in it. -/
  spelled : ∀ level, Spelled levels (.value v) (write level v)
  /-- The text is ASCII. -/
  ascii : ∀ level, IsAscii (write level v)

theorem spaces_newline (level : Nat) : Spaces (newline level) := by
  intro c hc
  rcases List.mem_cons.mp hc with rfl | hc
  · rfl
  · rw [List.eq_of_mem_replicate hc]
    rfl

theorem isAscii_of_spaces {spaces : List Char} (h : Spaces spaces) : IsAscii spaces := by
  intro c hc
  have hspace := h c hc
  simp only [isSpace, Bool.or_eq_true, beq_iff_eq] at hspace
  rcases hspace with ((rfl | rfl) | rfl) | rfl <;> decide

theorem isAscii_writeString (s : String) : IsAscii (writeString s) := by
  rw [writeString, isAscii_append, isAscii_cons, isAscii_cons]
  exact ⟨⟨by decide, isAscii_flatMap fun c _ => isAscii_escapeChar c⟩, by decide, isAscii_nil⟩

theorem legible_null : Legible levels .null where
  spelled _ := .bare (bare_of_mem_words (by decide : ("null", Json.null) ∈ words))
  ascii _ := by
    rw [write]
    exact isAscii_of_all (by decide)

theorem legible_string (s : String) : Legible levels (.string s) where
  spelled level := by
    have h : Spelled levels (.value (.string (textOfCodes (s.toList.flatMap units)))) _ :=
      .string (stringBody_escapes s)
    rwa [textOfCodes_units] at h
  ascii level := by
    rw [write]
    exact isAscii_writeString s

section Containers

variable {spaces : List Char} {m : String × Json} {ms : List (String × Json)}

/-- The items of an array from the first one on, by induction on those after it. -/
theorem spelled_items (level : Nat) (hspaces : Spaces spaces)
    (h : ∀ w ∈ v :: vs, Legible levels w) :
    Spelled levels (.items (v :: vs))
      (write level v ++ (writeItems level vs ++ (spaces ++ [']']))) := by
  induction vs generalizing v with
  | nil => exact .lastItem ((h v (List.mem_cons_self ..)).spelled level) hspaces
  | cons w vs ih =>
    have hmore := ih fun x hx => h x (List.mem_cons_of_mem _ hx)
    have hitems := Spelled.moreItems ((h v (List.mem_cons_self ..)).spelled level) (s := []) nofun
      (spaces_newline level) hmore
    simpa [writeItems] using hitems

theorem isAscii_writeItems (level : Nat) (h : ∀ v ∈ vs, Legible levels v) :
    IsAscii (writeItems level vs) := by
  induction vs with
  | nil => exact isAscii_nil
  | cons v vs ih =>
    obtain ⟨hv, hvs⟩ := List.forall_mem_cons.mp h
    rw [writeItems, isAscii_append, isAscii_append, isAscii_cons]
    exact ⟨⟨⟨by decide, isAscii_of_spaces (spaces_newline level)⟩, hv.ascii level⟩, ih hvs⟩

/-- **An array of legible values.** -/
theorem Legible.array (h : ∀ v ∈ vs, Legible levels v) : Legible (levels + 1) (.array vs) := by
  cases vs with
  | nil =>
    refine ⟨fun level => ?_, fun level => ?_⟩
    · exact .emptyArray (s := []) nofun
    · rw [write]
      exact isAscii_of_all (by decide)
  | cons v vs =>
    obtain ⟨hv, hvs⟩ := List.forall_mem_cons.mp h
    refine ⟨fun level => ?_, fun level => ?_⟩
    · have harray := Spelled.array (spaces_newline (level + 1))
        (spelled_items (level + 1) (spaces_newline level) h)
      simpa [write] using harray
    · simp only [write, isAscii_append, isAscii_cons]
      exact ⟨⟨⟨⟨⟨by decide, isAscii_of_spaces (spaces_newline _)⟩, hv.ascii _⟩,
        isAscii_writeItems _ hvs⟩, isAscii_of_spaces (spaces_newline _)⟩, by decide, isAscii_nil⟩

theorem spelled_member (level : Nat) (h : Legible levels m.2) :
    Spelled levels (.member m) (writeMember level m) := by
  obtain ⟨name, v⟩ := m
  have hspace : Spaces [' '] := List.forall_mem_singleton.mpr rfl
  have hmember := Spelled.member (stringBody_escapes name) (s := []) nofun hspace (h.spelled level)
  rw [textOfCodes_units] at hmember
  simpa [writeMember, writeString] using hmember

theorem isAscii_writeMember (level : Nat) (h : Legible levels m.2) :
    IsAscii (writeMember level m) := by
  rw [writeMember, isAscii_append, isAscii_cons, isAscii_cons]
  exact ⟨isAscii_writeString m.1, by decide, by decide, h.ascii level⟩

/-- The members of an object from the first one on, by induction on those after it. -/
theorem spelled_members (level : Nat) (hspaces : Spaces spaces)
    (h : ∀ n ∈ m :: ms, Legible levels n.2) :
    Spelled levels (.members (m :: ms))
      (writeMember level m ++ (writeMembers level ms ++ (spaces ++ ['}']))) := by
  induction ms generalizing m with
  | nil => exact .lastMember (spelled_member level (h m (List.mem_cons_self ..))) hspaces
  | cons n ms ih =>
    have hmore := ih fun x hx => h x (List.mem_cons_of_mem _ hx)
    have hmembers := Spelled.moreMembers (spelled_member level (h m (List.mem_cons_self ..)))
      (s := []) nofun (spaces_newline level) hmore
    simpa [writeMembers] using hmembers

theorem isAscii_writeMembers (level : Nat) (h : ∀ m ∈ ms, Legible levels m.2) :
    IsAscii (writeMembers level ms) := by
  induction ms with
  | nil => exact isAscii_nil
  | cons m ms ih =>
    obtain ⟨hm, hms⟩ := List.forall_mem_cons.mp h
    rw [writeMembers, isAscii_append, isAscii_append, isAscii_cons]
    exact ⟨⟨⟨by decide, isAscii_of_spaces (spaces_newline level)⟩,
      isAscii_writeMember level hm⟩, ih hms⟩

/-- **An object of legible values.** -/
theorem Legible.object (h : ∀ m ∈ ms, Legible levels m.2) : Legible (levels + 1) (.object ms) := by
  cases ms with
  | nil =>
    refine ⟨fun level => ?_, fun level => ?_⟩
    · exact .emptyObject (s := []) nofun
    · rw [write]
      exact isAscii_of_all (by decide)
  | cons m ms =>
    obtain ⟨hm, hms⟩ := List.forall_mem_cons.mp h
    refine ⟨fun level => ?_, fun level => ?_⟩
    · have hobject := Spelled.object (spaces_newline (level + 1))
        (spelled_members (level + 1) (spaces_newline level) h)
      simpa [write] using hobject
    · simp only [write, isAscii_append, isAscii_cons]
      exact ⟨⟨⟨⟨⟨by decide, isAscii_of_spaces (spaces_newline _)⟩, isAscii_writeMember _ hm⟩,
        isAscii_writeMembers _ hms⟩, isAscii_of_spaces (spaces_newline _)⟩, by decide, isAscii_nil⟩

end Containers

/-- **What is written is read back.** -/
theorem Legible.decode_render [Capacity] (h : Legible maxNesting v) :
    decode (render v) = .ok v := by
  have hspelled := h.spelled 0
  have hskip : skipSpaces (write 0 v) = write 0 v := by
    simpa using hspelled.begins.skipSpaces_append (show Spaces [] from nofun)
  have hread := hspelled.readBack [] nofun
  rw [List.append_nil] at hread
  refine decode_eq_ok_iff.mpr ⟨[], ?_, nofun⟩
  rw [render, String.toList_ofList, hskip, hread]

theorem Legible.isAscii_render [Capacity] (h : Legible maxNesting v) :
    IsAscii (render v).toList := by
  rw [render, String.toList_ofList]
  exact h.ascii 0

/-- Different values have different texts. -/
theorem Legible.render_inj [Capacity] {w : Json} (h : Legible maxNesting v)
    (hw : Legible maxNesting w) : render v = render w ↔ v = w := by
  refine ⟨fun heq => ?_, congrArg render⟩
  have hread := h.decode_render
  rw [heq, hw.decode_render] at hread
  exact (Except.ok.inj hread).symm

end Json

end BuildDescriptor
