import BuildDescriptor.Xml.Document
import Mathlib.Data.List.TakeWhile

/-!
# What readers take

A reader of a document has more in front of it than text: there is an account, and there are the
letters of names. As long as no entity is referred to, none of this changes. So a reader is told by
the text it takes off the front and by the value it makes of this text, and two readers one after
the other take one piece after the other.

Only the plainest documents are looked at here: tags without attributes or spaces, and character
data that stands for itself. Which of the readers for special cases come into question is decided by
the next character, because no name begins like any of them.

## Main definitions

* `Xml.isPlainName`, `Xml.isPlainChar` — the names and characters of plain documents
* `Xml.Scan.Takes` — what a reader takes, and what it makes of it

## Main results

* `Xml.Scan.takes_opening`, `Xml.Scan.takes_closing`, `Xml.Scan.takes_plain` — one item of an
  element's content
* `Xml.Scan.takes_eventsWith` — one item, and the ones behind it
-/

namespace BuildDescriptor

namespace Xml

variable {cs mid rest : List Char} {tag : String} {d : Doctype}

/-- A name that is not qualified. -/
def isPlainName (name : String) : Bool :=
  match name.toList with
  | [] => false
  | c :: cs => Alphabet.standard.isNameStart c && cs.all Alphabet.standard.isNameChar

theorem exists_of_isPlainName (h : isPlainName tag = true) :
    ∃ c cs, tag.toList = c :: cs ∧ Alphabet.standard.isNameStart c = true ∧
      ∀ c ∈ cs, Alphabet.standard.isNameChar c = true := by
  unfold isPlainName at h
  split at h
  · cases h
  · rename_i c cs hlist
    obtain ⟨hc, hcs⟩ := Bool.and_eq_true_iff.mp h
    exact ⟨c, cs, hlist, hc, List.all_eq_true.mp hcs⟩

theorem isNameChar_of_isPlainName (h : isPlainName tag = true) :
    ∀ c ∈ tag.toList, Alphabet.standard.isNameChar c = true := by
  obtain ⟨c, cs, hlist, hc, hcs⟩ := exists_of_isPlainName h
  rw [hlist]
  exact List.forall_mem_cons.mpr ⟨by simp [Alphabet.isNameChar, hc], hcs⟩

/-- Nothing that begins with another character is in front of a name. -/
theorem not_isPrefixOf_tag (h : isPlainName tag = true) {c : Char} (w rest : List Char)
    (hc : Alphabet.standard.isNameStart c = false) :
    (c :: w).isPrefixOf (tag.toList ++ rest) = false := by
  obtain ⟨c', cs, hlist, hc', -⟩ := exists_of_isPlainName h
  have hne : c ≠ c' := by
    rintro rfl
    rw [hc] at hc'
    cases hc'
  rw [hlist]
  simp [List.isPrefixOf, hne]

/-- A character that stands for itself in the content of an element. -/
def isPlainChar (c : Char) : Bool :=
  isDocumentChar c && c != '\r' && c != '<' && c != '&' && c != ']'

namespace Scan

variable {α β : Type} {x : Scan α} {f : α → Scan β} {a : α} {b : β}

/-- A reader takes a value off the front of a text, whatever is on its account. -/
def Takes (x : Scan α) (cs : List Char) (a : α) (rest : List Char) : Prop :=
  ∀ n, x ⟨cs, .standard, n⟩ = some (a, ⟨rest, .standard, n⟩)

/-! ### Single readers -/

theorem takes_pure (a : α) (cs : List Char) : Takes (pure a) cs a cs := fun _ => rfl

theorem Takes.bind (hx : Takes x cs a mid) (hf : Takes (f a) mid b rest) :
    Takes (x >>= f) cs b rest := by
  intro n
  show (x ⟨cs, .standard, n⟩).bind _ = _
  rw [hx n]
  exact hf n

theorem takes_get_bind {f : Input → Scan β} (hf : ∀ n, Takes (f ⟨cs, .standard, n⟩) cs b rest) :
    Takes (get >>= f) cs b rest :=
  fun n => hf n n

theorem takes_ofList {g : List Char → Option (α × List Char)} (h : g cs = some (a, rest)) :
    Takes (ofList g) cs a rest := by
  intro n
  simp only [ofList, h]
  rfl

theorem takes_run {p : Char → Bool} (hcs : ∀ c ∈ cs, p c = true)
    (hrest : ∀ c ∈ rest.head?, p c = false) : Takes (run p) (cs ++ rest) cs rest := by
  refine takes_ofList ?_
  rw [List.takeWhile_append_of_pos hcs, List.dropWhile_append_of_pos hcs]
  cases rest with
  | nil => simp
  | cons c rest =>
    have hc : ¬ p c = true := by simp [hrest c rfl]
    rw [List.takeWhile_cons_of_neg hc, List.dropWhile_cons_of_neg hc, List.append_nil]

theorem takes_run_nil {p : Char → Bool} (hrest : ∀ c ∈ rest.head?, p c = false) :
    Takes (run p) rest [] rest :=
  takes_run (List.forall_mem_nil _) hrest

theorem takes_hasWord (w : String) (rest : List Char) :
    Takes (hasWord w) (w.toList ++ rest) true rest :=
  takes_ofList (by simp)

theorem takes_hasWord_false {w : String} (h : w.toList.isPrefixOf cs = false) :
    Takes (hasWord w) cs false cs :=
  takes_ofList (by simp [h])

theorem takes_word (w : String) (rest : List Char) : Takes (word w) (w.toList ++ rest) () rest :=
  takes_ofList (by simp)

theorem takes_spaces (hrest : ∀ c ∈ rest.head?, isSpace c = false) : Takes spaces rest () rest :=
  (takes_run_nil hrest).bind (takes_pure _ _)

theorem takes_remaining (cs : List Char) : Takes remaining cs cs.length cs :=
  takes_get_bind fun _ => takes_pure _ _

theorem takes_atEnd (cs : List Char) : Takes atEnd cs cs.isEmpty cs :=
  takes_get_bind fun _ => takes_pure _ _

/-! ### Tags -/

theorem takes_ncName (htag : isPlainName tag = true)
    (hrest : ∀ c ∈ rest.head?, Alphabet.standard.isNameChar c = false) :
    Takes ncName (tag.toList ++ rest) tag rest := by
  obtain ⟨c, cs, hlist, hc, hcs⟩ := exists_of_isPlainName htag
  have hchar : Takes char (c :: (cs ++ rest)) c (cs ++ rest) := takes_ofList rfl
  rw [hlist]
  refine takes_get_bind fun n => hchar.bind ?_
  simp only [hc, Bool.not_true, Bool.false_eq_true, if_false]
  refine (takes_run hcs hrest).bind ?_
  rw [← hlist, String.ofList_toList]
  exact takes_pure _ _

theorem takes_qName (htag : isPlainName tag = true)
    (hrest : ∀ c ∈ rest.head?, Alphabet.standard.isNameChar c = false ∧ c ≠ ':') :
    Takes qName (tag.toList ++ rest) ⟨none, tag⟩ rest := by
  have hcolon : ":".toList.isPrefixOf rest = false := by
    cases rest with
    | nil => rfl
    | cons c rest => simp [List.isPrefixOf, (hrest c rfl).2.symm]
  refine (takes_ncName htag fun c hc => (hrest c hc).1).bind ?_
  refine (takes_hasWord_false hcolon).bind ?_
  exact takes_pure _ _

theorem takes_attributes (d : Doctype) (name : QName) (rounds : Nat) (rest : List Char) :
    Takes (attributes d name (rounds + 1)) ('>' :: rest) ([], false) rest := by
  have hspaces : Takes (run isSpace) ('>' :: rest) [] ('>' :: rest) :=
    takes_run_nil (by simp; decide)
  exact hspaces.bind ((takes_hasWord ">" rest).bind (takes_pure _ _))

/-- A tag without attributes or spaces. -/
theorem takes_startTag (htag : isPlainName tag = true) (hd : d.rules = []) (rounds : Nat)
    (rest : List Char) : Takes (startTag d (rounds + 1)) (tag.toList ++ '>' :: rest)
      [.opening ⟨none, tag⟩ []] rest := by
  refine (takes_qName htag (by simp; decide)).bind ((takes_attributes d _ rounds rest).bind ?_)
  simp only [Doctype.missingDefaults, hd]
  exact takes_pure _ _

theorem takes_endTag (htag : isPlainName tag = true) (rest : List Char) :
    Takes endTag (tag.toList ++ '>' :: rest) (.closing tag) rest := by
  have hname : Takes (run fun c => Alphabet.standard.isNameChar c || c == ':')
      (tag.toList ++ '>' :: rest) tag.toList ('>' :: rest) := by
    refine takes_run (fun c hc => ?_) (by simp; decide)
    simp [isNameChar_of_isPlainName htag c hc]
  have hspaces : Takes spaces ('>' :: rest) () ('>' :: rest) := takes_spaces (by simp; decide)
  refine takes_get_bind fun n => hname.bind (hspaces.bind ((takes_word ">" rest).bind ?_))
  rw [String.ofList_toList]
  exact takes_pure _ _

/-! ### Content -/

theorem takes_opening (entity : String → Scan (List Event)) (htag : isPlainName tag = true)
    (hd : d.rules = []) (rounds : Nat) (rest : List Char) :
    Takes (item d entity (rounds + 1)) ('<' :: (tag.toList ++ '>' :: rest))
      [.opening ⟨none, tag⟩ []] rest := by
  have hnot (w : String) {c : Char} {cs : List Char} (hw : w.toList = c :: cs)
      (hc : Alphabet.standard.isNameStart c = false) :
      Takes (hasWord w) (tag.toList ++ '>' :: rest) false (tag.toList ++ '>' :: rest) := by
    refine takes_hasWord_false ?_
    rw [hw]
    exact not_isPrefixOf_tag htag _ _ hc
  refine (takes_hasWord "<" (tag.toList ++ '>' :: rest)).bind ?_
  refine (hnot "/" rfl (by decide)).bind ?_
  refine (hnot "!--" rfl (by decide)).bind ?_
  refine (hnot "![CDATA[" rfl (by decide)).bind ?_
  refine (hnot "?" rfl (by decide)).bind ?_
  exact takes_startTag htag hd rounds rest

theorem takes_closing (d : Doctype) (entity : String → Scan (List Event))
    (htag : isPlainName tag = true) (rounds : Nat) (rest : List Char) :
    Takes (item d entity rounds) ('<' :: '/' :: (tag.toList ++ '>' :: rest)) [.closing tag] rest :=
  (takes_hasWord "<" _).bind
    ((takes_hasWord "/" _).bind ((takes_endTag htag rest).bind (takes_pure _ _)))

theorem takes_plain (d : Doctype) (entity : String → Scan (List Event)) (rounds : Nat)
    (hne : cs ≠ []) (hcs : ∀ c ∈ cs, isPlainChar c = true) (hrest : rest.head? = some '<') :
    Takes (item d entity rounds) (cs ++ rest) [.characters cs] rest := by
  obtain ⟨c, cs, rfl⟩ := List.exists_cons_of_ne_nil hne
  obtain ⟨hc, hcs⟩ := List.forall_mem_cons.mp hcs
  have hspecial : ∀ c, isPlainChar c = true → c ≠ '<' ∧ c ≠ '&' ∧ c ≠ ']' := by
    intro c hc
    simp only [isPlainChar, Bool.and_eq_true, bne_iff_ne] at hc
    exact ⟨hc.1.1.2, hc.1.2, hc.2⟩
  obtain ⟨hlt, hamp, hbracket⟩ := hspecial c hc
  refine (takes_hasWord_false (by simp [List.isPrefixOf, hlt.symm])).bind ?_
  refine (takes_hasWord_false (by simp [List.isPrefixOf, hamp.symm])).bind ?_
  refine (takes_hasWord_false (by simp [List.isPrefixOf, hbracket.symm])).bind ?_
  have hchar : Takes char (c :: (cs ++ rest)) c (cs ++ rest) := takes_ofList rfl
  refine hchar.bind (.bind (takes_run (fun c hc => ?_) fun c hc => ?_) (takes_pure _ _))
  · simpa [and_assoc] using hspecial c (hcs c hc)
  · rw [hrest] at hc
    cases hc
    rfl

theorem takes_eventsWith_zero (d : Doctype) (entity : String → Scan (List Event)) (rounds : Nat)
    (rest : List Char) : Takes (eventsWith d entity rounds 0) rest ([], 0) rest := by
  cases rounds <;> exact takes_pure _ _

/-- One item of an element's content, if it is not empty, and the ones behind it. -/
theorem takes_eventsWith {entity : String → Scan (List Event)} {rounds depth left : Nat}
    {first others : List Event} (hne : cs ≠ [])
    (hitem : Takes (item d entity (rounds + 1)) cs first mid)
    (h : Takes (eventsWith d entity rounds (depthAfter (depth + 1) first)) mid (others, left)
      rest) :
    Takes (eventsWith d entity (rounds + 1) (depth + 1)) cs (first ++ others, left) rest := by
  have hempty : cs.isEmpty = false := by simpa using hne
  have hend : Takes atEnd cs false cs := hempty ▸ takes_atEnd cs
  rw [eventsWith]
  · exact hend.bind (hitem.bind (h.bind (takes_pure _ _)))
  · exact Nat.succ_ne_zero depth

/-! ### Documents -/

/-- Nothing surrounds a document that begins with a tag, or that is at its end. -/
theorem takes_surroundings (hspaces : ∀ c ∈ cs.head?, isSpace c = false)
    (hcomment : "<!--".toList.isPrefixOf cs = false)
    (hinstruction : "<?".toList.isPrefixOf cs = false) (rounds : Nat) :
    Takes (surroundings rounds) cs () cs := by
  cases rounds with
  | zero => exact takes_pure _ _
  | succ rounds =>
    refine (takes_spaces hspaces).bind ((takes_hasWord_false hcomment).bind ?_)
    exact (takes_hasWord_false hinstruction).bind (takes_pure _ _)

end Scan

end Xml

end BuildDescriptor
