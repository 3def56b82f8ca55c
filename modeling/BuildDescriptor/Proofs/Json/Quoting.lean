import BuildDescriptor.Proofs.Json.Spelling

/-!
# What is inside string literals

A scan that counts quotes tells the characters of a JSON text that are inside its string literals
from those that are outside. The texts of values without objects have no brace outside, and so has
the text of a record before the brace that ends it.

A reader that starts at a brace *inside* a literal takes the two the other way round: what is
outside for it was inside, and the quote with which it begins a string was the one that ended the
literal. Behind such a quote JSON goes on with a delimiter, so every name that this reader finds
begins with one. That is how to tell an object that is read off the inside of a literal from a
record.

## Main definitions

* `Json.Place`, `Json.Place.run` — the scan
* `Json.Place.closings` — the number of braces outside literals that close an object
* `Json.Clear`, `Json.Flat` — no brace outside a literal
* `Json.ObjectFree`, `Json.IsRecord` — values without objects, objects with such values
* `Json.Foreign` — names that begin with a delimiter

## Main results

* `Json.Spelled.isFlat` — the texts of records
* `Json.Spelled.foreign` — a reader that starts inside a literal
-/

namespace BuildDescriptor

namespace Json

variable {levels : Nat} {cs ds used body spaces : List Char} {c : Char} {codes : List Nat}

/-! ### The scan -/

/-- Where in a JSON text a character stands. -/
inductive Place
  | outside
  /-- Outside, right behind the quote that ends a literal. -/
  | closed
  | inside
  /-- Inside, right behind a backslash. -/
  | escaped
deriving DecidableEq, Repr

namespace Place

/-- The place behind a character. -/
def after : Place → Char → Place
  | inside, c => if c = '"' then closed else if c = '\\' then escaped else inside
  | escaped, _ => inside
  | _, c => if c = '"' then inside else outside

/-- The place behind a text. -/
def run (p : Place) (cs : List Char) : Place := cs.foldl after p

/-- Whether a place is outside the literals. -/
def isOutside : Place → Bool
  | outside => true
  | closed => true
  | _ => false

/-- The number of braces outside the literals that close an object. -/
def closings : Place → List Char → Nat
  | _, [] => 0
  | p, c :: cs => (if p.isOutside && c = '}' then 1 else 0) + closings (p.after c) cs

/-- Whether a character may stand at a place of a text without objects. Behind a literal, only a
delimiter may. -/
def admits : Place → Char → Bool
  | outside, c => c ≠ '{' && c ≠ '}' && c ≠ '\\'
  | closed, c => c ∈ delimiters && c ≠ '}'
  | _, _ => true

variable {p : Place}

@[simp] theorem run_nil : p.run [] = p := rfl

@[simp] theorem run_cons : p.run (c :: cs) = (p.after c).run cs := rfl

@[simp] theorem run_append : p.run (cs ++ ds) = (p.run cs).run ds :=
  List.foldl_append

theorem after_of_isOutside (hp : p.isOutside = true) (h : c ≠ '"') : p.after c = .outside := by
  cases p with
  | outside => exact if_neg h
  | closed => exact if_neg h
  | inside => cases hp
  | escaped => cases hp

theorem closings_append : p.closings (cs ++ ds) = p.closings cs + (p.run cs).closings ds := by
  induction cs generalizing p with
  | nil => simp [closings]
  | cons c cs ih =>
    rw [List.cons_append, closings, closings, ih, run_cons]
    omega

end Place

/-- A text in which every character may stand where it does. -/
def Clear : Place → List Char → Prop
  | _, [] => True
  | p, c :: cs => p.admits c = true ∧ Clear (p.after c) cs

variable {p : Place}

@[simp] theorem clear_nil : Clear p [] := trivial

@[simp] theorem clear_cons : Clear p (c :: cs) ↔ p.admits c = true ∧ Clear (p.after c) cs := Iff.rfl

@[simp] theorem clear_append : Clear p (cs ++ ds) ↔ Clear p cs ∧ Clear (p.run cs) ds := by
  induction cs generalizing p with
  | nil => simp
  | cons c cs ih => rw [List.cons_append, clear_cons, clear_cons, ih, and_assoc, Place.run_cons]

theorem Clear.closings_eq_zero (h : Clear p cs) : p.closings cs = 0 := by
  induction cs generalizing p with
  | nil => rfl
  | cons c cs ih =>
    have hbrace : (p.isOutside && c = '}') = false := by
      have hadmits := h.1
      cases p with
      | outside =>
        simp only [Place.admits, Bool.and_eq_true] at hadmits
        simpa [Place.isOutside] using hadmits.1.2
      | closed =>
        simp only [Place.admits, Bool.and_eq_true] at hadmits
        simpa [Place.isOutside] using hadmits.2
      | inside => rfl
      | escaped => rfl
    rw [Place.closings, hbrace, ih h.2]
    rfl

/-- An opening brace in such a text is inside a literal, and so is what follows it. -/
theorem Clear.of_brace (h : Clear p ('{' :: cs)) : Clear .inside cs := by
  cases p with
  | outside => exact absurd h.1 (by decide)
  | closed => exact absurd h.1 (by decide)
  | inside => exact h.2
  | escaped => exact h.2

/-! ### Texts without objects -/

/-- A text that begins and ends outside the literals and has no brace there. -/
def Flat (cs : List Char) : Prop := Clear .outside cs ∧ (Place.outside.run cs).isOutside = true

/-- A delimiter may stand outside the literals, and what follows it is outside too. -/
theorem Place.admits_delimiter (hp : p.isOutside = true) (hc : c ∈ delimiters) (hbrace : c ≠ '}') :
    p.admits c = true ∧ p.after c = .outside := by
  have hall : (delimiters.all fun c => c == '}' || (p.admits c && p.after c == .outside)) =
      true := by
    cases p with
    | outside => decide
    | closed => decide
    | inside => cases hp
    | escaped => cases hp
  have hdelimiter := List.all_eq_true.mp hall c hc
  rw [Bool.or_eq_true, beq_iff_eq, Bool.and_eq_true, beq_iff_eq] at hdelimiter
  exact hdelimiter.resolve_left hbrace

theorem flat_nil : Flat [] := ⟨trivial, rfl⟩

/-- A delimiter, and what follows it. -/
theorem Flat.append_cons (h : Flat cs) (hc : c ∈ delimiters) (hbrace : c ≠ '}') (hds : Flat ds) :
    Flat (cs ++ c :: ds) := by
  obtain ⟨hadmits, hafter⟩ := Place.admits_delimiter h.2 hc hbrace
  refine ⟨clear_append.mpr ⟨h.1, hadmits, ?_⟩, ?_⟩
  · rw [hafter]
    exact hds.1
  · rw [Place.run_append, Place.run_cons, hafter]
    exact hds.2

theorem Flat.bracket_cons (h : Flat cs) : Flat ('[' :: cs) := ⟨⟨by decide, h.1⟩, h.2⟩

/-- A space, and what follows it. -/
theorem Flat.append_space_cons (h : Flat cs) (hspace : isSpace c = true) (hds : Flat ds) :
    Flat (cs ++ c :: ds) :=
  h.append_cons (mem_delimiters_of_isSpace hspace) (ne_of_isSpace hspace (by decide)) hds

/-- Spaces, and what follows them. -/
theorem Flat.spaces_append (hspaces : Spaces spaces) (h : Flat ds) : Flat (spaces ++ ds) := by
  induction spaces with
  | nil => exact h
  | cons c spaces ih =>
    exact flat_nil.append_space_cons (hspaces c (List.mem_cons_self ..))
      (ih fun d hd => hspaces d (List.mem_cons_of_mem _ hd))

theorem Flat.append_spaces (h : Flat cs) (hspaces : Spaces spaces) : Flat (cs ++ spaces) := by
  cases spaces with
  | nil =>
    rw [List.append_nil]
    exact h
  | cons c spaces =>
    have hmore : Flat (spaces ++ []) :=
      flat_nil.spaces_append fun d hd => hspaces d (List.mem_cons_of_mem _ hd)
    rw [List.append_nil] at hmore
    exact h.append_space_cons (hspaces c (List.mem_cons_self ..)) hmore

theorem ne_quote_of_hexValue? {code : Nat} (h : hexValue? c = some code) : c ≠ '"' ∧ c ≠ '\\' := by
  constructor
  · rintro rfl
    cases h
  · rintro rfl
    cases h

theorem Place.after_inside (hquote : c ≠ '"') (hslash : c ≠ '\\') :
    Place.inside.after c = .inside := by
  rw [Place.after, if_neg hquote, if_neg hslash]

theorem Place.after_hexDigit {code : Nat} (h : hexValue? c = some code) :
    Place.inside.after c = .inside :=
  Place.after_inside (ne_quote_of_hexValue? h).1 (ne_quote_of_hexValue? h).2

/-- The text of a string leads behind the literal. -/
theorem StringBody.inside_run (h : StringBody codes body) :
    Clear .inside body ∧ Place.inside.run body = .closed := by
  induction h with
  | closing => exact ⟨⟨rfl, trivial⟩, rfl⟩
  | unicode h _ ih =>
    simp only [hex4?, Option.bind_eq_bind, Option.bind_eq_some_iff] at h
    obtain ⟨a', ha, b', hb, c', hc, d', hd, -⟩ := h
    have hslash : Place.inside.after '\\' = .escaped := rfl
    have hletter : Place.escaped.after 'u' = .inside := rfl
    simp only [clear_cons, Place.run_cons, hslash, hletter, Place.after_hexDigit ha,
      Place.after_hexDigit hb, Place.after_hexDigit hc, Place.after_hexDigit hd, Place.admits,
      true_and]
    exact ih
  | @escape c e codes body h _ ih => exact ⟨⟨rfl, rfl, ih.1⟩, ih.2⟩
  | plain hquote hslash _ _ ih =>
    simp only [clear_cons, Place.run_cons, Place.after_inside hquote hslash, Place.admits,
      true_and]
    exact ih

theorem StringBody.flat (h : StringBody codes body) : Flat ('"' :: body) := by
  have hafter : Place.outside.after '"' = .inside := rfl
  refine ⟨⟨by decide, ?_⟩, ?_⟩
  · rw [hafter]
    exact h.inside_run.1
  · rw [Place.run_cons, hafter, h.inside_run.2]
    rfl

theorem flat_of_not_structural (h : ∀ c ∈ cs, c ∉ structural) : Flat cs := by
  induction cs with
  | nil => exact flat_nil
  | cons c cs ih =>
    have hc : ∀ d ∈ structural, c ≠ d := by
      rintro d hd rfl
      exact h c (List.mem_cons_self ..) hd
    have hafter : Place.outside.after c = .outside :=
      Place.after_of_isOutside rfl (hc '"' (by decide))
    have hadmits : Place.outside.admits c = true := by
      simp [Place.admits, hc '{' (by decide), hc '}' (by decide), hc '\\' (by decide)]
    obtain ⟨hclear, hrun⟩ := ih fun d hd => h d (List.mem_cons_of_mem _ hd)
    refine ⟨⟨hadmits, ?_⟩, ?_⟩
    · rw [hafter]
      exact hclear
    · rw [Place.run_cons, hafter]
      exact hrun

/-! ### Records -/

/-- A value without objects in it. -/
inductive ObjectFree : Json → Prop
  | null : ObjectFree .null
  | bool (b : Bool) : ObjectFree (.bool b)
  | integer (n : Int) : ObjectFree (.integer n)
  | decimal (literal : String) : ObjectFree (.decimal literal)
  | string (text : String) : ObjectFree (.string text)
  | array {vs : List Json} (h : ∀ v ∈ vs, ObjectFree v) : ObjectFree (.array vs)

/-- An object whose members have no object in their values. -/
def IsRecord (v : Json) : Prop := ∃ ms, v = .object ms ∧ ∀ m ∈ ms, ObjectFree m.2

/-- A phrase without objects, but for the one whose members it is. -/
def Phrase.ObjectFree : Phrase → Prop
  | .value v => v.ObjectFree
  | .items vs => ∀ v ∈ vs, v.ObjectFree
  | .member m => m.2.ObjectFree
  | .members ms => ∀ m ∈ ms, m.2.ObjectFree

/-- The text of a phrase has no brace outside the literals, but for the one that ends it. -/
def Phrase.IsFlat : Phrase → List Char → Prop
  | .members _, used => ∃ inner, used = inner ++ ['}'] ∧ Flat inner
  | _, used => Flat used

/-- **The texts of records.** -/
theorem Spelled.isFlat {p : Phrase} (h : Spelled levels p used) (hfree : p.ObjectFree) :
    p.IsFlat used := by
  have hbracket : ']' ∈ delimiters := by decide
  have hcomma : ',' ∈ delimiters := by decide
  have hcolon : ':' ∈ delimiters := by decide
  induction h with
  | string h => exact h.flat
  | bare h => exact flat_of_not_structural h.plain
  | emptyArray hs =>
    exact ((flat_nil.append_spaces hs).append_cons hbracket (by decide) flat_nil).bracket_cons
  | array hs _ ih =>
    cases hfree with
    | array hfree =>
      have hbody : Flat _ := ih hfree
      exact (hbody.spaces_append hs).bracket_cons
  | emptyObject hs => cases hfree
  | object hs _ ih => cases hfree
  | lastItem _ hs ih =>
    have hused : Flat _ := ih (hfree _ (List.mem_cons_self ..))
    have htext := (hused.append_spaces hs).append_cons hbracket (by decide) flat_nil
    simpa [Phrase.IsFlat] using htext
  | moreItems _ hs hs' _ ih ihmore =>
    have hused : Flat _ := ih (hfree _ (List.mem_cons_self ..))
    have hbody : Flat _ := ihmore fun v hv => hfree v (List.mem_cons_of_mem _ hv)
    have htext := (hused.append_spaces hs).append_cons hcomma (by decide) (hbody.spaces_append hs')
    simpa [Phrase.IsFlat] using htext
  | member hname hs hs' _ ih =>
    have hused : Flat _ := ih hfree
    have htext := (hname.flat.append_spaces hs).append_cons hcolon (by decide)
      (hused.spaces_append hs')
    simpa [Phrase.IsFlat] using htext
  | lastMember _ hs ih =>
    have hused : Flat _ := ih (hfree _ (List.mem_cons_self ..))
    exact ⟨_, by simp, hused.append_spaces hs⟩
  | moreMembers _ hs hs' _ ih ihmore =>
    have hused : Flat _ := ih (hfree _ (List.mem_cons_self ..))
    obtain ⟨inner, rfl, hinner⟩ := ihmore fun m hm => hfree m (List.mem_cons_of_mem _ hm)
    exact ⟨_, by simp, (hused.append_spaces hs).append_cons hcomma (by decide)
      (hinner.spaces_append hs')⟩

/-- The text of a record, up to the brace that ends it. -/
theorem IsRecord.exists_inner {v : Json} (hrecord : v.IsRecord)
    (h : Spelled levels (.value v) used) :
    ∃ inner, used = '{' :: (inner ++ ['}']) ∧ Flat inner := by
  obtain ⟨ms, rfl, hfree⟩ := hrecord
  cases h with
  | bare h => cases h.isContainer_eq_false
  | emptyObject hs => exact ⟨_, rfl, flat_nil.append_spaces hs⟩
  | object hs hmembers =>
    obtain ⟨inner, rfl, hinner⟩ := hmembers.isFlat (p := .members ms) hfree
    exact ⟨_, by rw [List.append_assoc], hinner.spaces_append hs⟩

/-! ### Readers that start inside a literal -/

/-- A name that begins with a delimiter. -/
def Foreign (name : String) : Prop := ∃ c cs, name.toList = c :: cs ∧ c ∈ delimiters

/-- The names that a phrase gives to members. -/
def Phrase.names : Phrase → List String
  | .member m => [m.1]
  | .members ms => ms.map (·.1)
  | _ => []

theorem foreign_textOfCodes (hc : c ∈ delimiters) (codes : List Nat) :
    Foreign (textOfCodes (c.toNat :: codes)) := by
  have hall : (delimiters.all fun c => !isHighSurrogate c.toNat && charOf c.toNat == c) = true := by
    decide
  have hcode := List.all_eq_true.mp hall c hc
  rw [Bool.and_eq_true, Bool.not_eq_true', beq_iff_eq] at hcode
  obtain ⟨hhigh, hchar⟩ := hcode
  rw [Foreign, textOfCodes, String.toList_ofList]
  cases codes with
  | nil => exact ⟨c, [], by rw [joinSurrogates, hchar], hc⟩
  | cons low codes =>
    refine ⟨c, joinSurrogates (low :: codes), ?_, hc⟩
    rw [joinSurrogates, hhigh, Bool.false_and, if_neg (by decide), hchar]

/-- What is outside the literals ends, as the text of a string, with the next quote. -/
theorem StringBody.outside_run (h : StringBody codes body) (hclear : Clear .outside body) :
    Place.outside.run body = .inside := by
  induction h with
  | closing => rfl
  | unicode _ _ _ => exact absurd hclear.1 (by decide)
  | escape _ _ _ => exact absurd hclear.1 (by decide)
  | @plain c codes body hquote _ _ _ ih =>
    have hafter : Place.outside.after c = .outside := Place.after_of_isOutside rfl hquote
    rw [Clear, hafter] at hclear
    rw [Place.run_cons, hafter]
    exact ih hclear.2

/-- Read from the quote that ends a literal, a string begins with a delimiter. -/
theorem StringBody.closed_run (h : StringBody codes body) (hclear : Clear .closed body) :
    Place.closed.run body = .inside ∧ Foreign (textOfCodes codes) := by
  cases h with
  | closing => exact absurd hclear.1 (by decide)
  | unicode _ _ => exact absurd hclear.1 (by decide)
  | escape _ _ => exact absurd hclear.1 (by decide)
  | @plain c codes body hquote _ _ hbody =>
    have hafter : Place.closed.after c = .outside := Place.after_of_isOutside rfl hquote
    have hc : c ∈ delimiters := by
      have := hclear.1
      simp only [Place.admits, Bool.and_eq_true, decide_eq_true_eq] at this
      exact this.1
    rw [Clear, hafter] at hclear
    rw [Place.run_cons, hafter]
    exact ⟨hbody.outside_run hclear.2, foreign_textOfCodes hc codes⟩

theorem Place.inside_run (h : ∀ c ∈ cs, c ≠ '"' ∧ c ≠ '\\') : Place.inside.run cs = .inside := by
  induction cs with
  | nil => rfl
  | cons c cs ih =>
    obtain ⟨hquote, hslash⟩ := h c (List.mem_cons_self ..)
    rw [Place.run_cons, Place.after_inside hquote hslash]
    exact ih fun d hd => h d (List.mem_cons_of_mem _ hd)

theorem Spaces.inside_run (h : Spaces spaces) : Place.inside.run spaces = .inside := by
  refine Place.inside_run fun c hc => ?_
  exact ⟨ne_of_isSpace (h c hc) (by decide), ne_of_isSpace (h c hc) (by decide)⟩

/-- **A reader that starts inside a literal.** It ends inside a literal too, and every name that it
finds begins with a delimiter. -/
theorem Spelled.foreign {p : Phrase} (h : Spelled levels p used) (hclear : Clear .inside used) :
    Place.inside.run used = .inside ∧ ∀ name ∈ p.names, Foreign name := by
  have hquote : Place.inside.after '"' = .closed := rfl
  have hopenBracket : Place.inside.after '[' = .inside := rfl
  have hcloseBracket : Place.inside.after ']' = .inside := rfl
  have hopenBrace : Place.inside.after '{' = .inside := rfl
  have hcloseBrace : Place.inside.after '}' = .inside := rfl
  have hcomma : Place.inside.after ',' = .inside := rfl
  have hcolon : Place.inside.after ':' = .inside := rfl
  induction h with
  | string h =>
    rw [Clear, hquote] at hclear
    rw [Place.run_cons, hquote]
    exact ⟨(h.closed_run hclear.2).1, nofun⟩
  | bare h =>
    refine ⟨Place.inside_run fun c hc => ?_, nofun⟩
    have hplain := h.plain c hc
    constructor
    · rintro rfl
      exact hplain (by decide)
    · rintro rfl
      exact hplain (by decide)
  | emptyArray hs =>
    simp only [Place.run_cons, Place.run_append, hopenBracket, hs.inside_run, hcloseBracket]
    exact ⟨rfl, nofun⟩
  | array hs _ ih =>
    simp only [clear_cons, clear_append, hopenBracket, hs.inside_run] at hclear
    simp only [Place.run_cons, Place.run_append, hopenBracket, hs.inside_run]
    exact ⟨(ih hclear.2.2).1, nofun⟩
  | emptyObject hs =>
    simp only [Place.run_cons, Place.run_append, hopenBrace, hs.inside_run, hcloseBrace]
    exact ⟨rfl, nofun⟩
  | object hs _ ih =>
    simp only [clear_cons, clear_append, hopenBrace, hs.inside_run] at hclear
    simp only [Place.run_cons, Place.run_append, hopenBrace, hs.inside_run]
    exact ⟨(ih hclear.2.2).1, nofun⟩
  | lastItem _ hs ih =>
    rw [clear_append] at hclear
    obtain ⟨hrun, -⟩ := ih hclear.1
    simp only [Place.run_cons, Place.run_append, hrun, hs.inside_run, hcloseBracket]
    exact ⟨rfl, nofun⟩
  | moreItems _ hs hs' _ ih ihmore =>
    rw [clear_append] at hclear
    obtain ⟨hrun, -⟩ := ih hclear.1
    simp only [clear_cons, clear_append, hrun, hs.inside_run, hcomma, hs'.inside_run] at hclear
    simp only [Place.run_cons, Place.run_append, hrun, hs.inside_run, hcomma, hs'.inside_run]
    exact ⟨(ihmore hclear.2.2.2.2).1, nofun⟩
  | member hname hs hs' _ ih =>
    simp only [clear_cons, hquote, clear_append] at hclear
    obtain ⟨hrun, hforeign⟩ := hname.closed_run hclear.2.1
    simp only [hrun, hs.inside_run, hcolon, hs'.inside_run] at hclear
    simp only [Place.run_cons, Place.run_append, hquote, hrun, hs.inside_run, hcolon,
      hs'.inside_run]
    refine ⟨(ih hclear.2.2.2.2.2).1, ?_⟩
    intro name hname
    cases List.mem_singleton.mp hname
    exact hforeign
  | lastMember _ hs ih =>
    rw [clear_append] at hclear
    obtain ⟨hrun, hforeign⟩ := ih hclear.1
    simp only [Place.run_cons, Place.run_append, hrun, hs.inside_run, hcloseBrace]
    exact ⟨rfl, hforeign⟩
  | moreMembers _ hs hs' _ ih ihmore =>
    rw [clear_append] at hclear
    obtain ⟨hrun, hforeign⟩ := ih hclear.1
    simp only [clear_cons, clear_append, hrun, hs.inside_run, hcomma, hs'.inside_run] at hclear
    simp only [Place.run_cons, Place.run_append, hrun, hs.inside_run, hcomma, hs'.inside_run]
    obtain ⟨hlast, hmore⟩ := ihmore hclear.2.2.2.2
    refine ⟨hlast, ?_⟩
    intro name hname
    rcases List.mem_cons.mp hname with rfl | hname
    · exact hforeign _ (List.mem_singleton_self _)
    · exact hmore name hname

end Json

end BuildDescriptor
