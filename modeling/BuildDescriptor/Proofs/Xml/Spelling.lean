import BuildDescriptor.Proofs.Xml.Files
import BuildDescriptor.Proofs.Xml.Scanning

/-!
# Writing documents

An element without attributes can be written as a document in a plain way: a tag, the character
data, the elements inside one after the other, and a tag that closes it. Character data may stand
behind each of the elements inside, as it does where a document is indented. Reading such a document
gives the element back.

Reading is done in two steps, with a list of events between them, and events are not nested. So what
is said of an element has to hold in front of any other text and inside of any other element. For a
text there are the events that reading it adds, and for these events the elements that assembling
them adds to the one that is open. Both are put together along the structure of the text.

## Main definitions

* `Xml.Spells`, `Xml.SpellsAll` — the texts that are ways to write an element, or several
* `Xml.Written` — how such a text is read, in front of another text
* `Xml.Element.spelled` — the shortest way to write an element

## Main results

* `Xml.Spells.exists_written` — every way to write an element is read as it should be
* `Xml.parse_of_spells` — what is written is read back
-/

namespace BuildDescriptor

namespace Xml

variable {cs cs' mid rest content tail : List Char} {tag : String} {d : Doctype}
  {entity : String → Scan (List Event)} {rounds depth left : Nat}
  {events events' later : List Event} {e : Element} {es : List Element}

/-- A tag that opens, some text, and the tag that closes. -/
def tagged (tag : String) (inner : List Char) : List Char :=
  '<' :: (tag.toList ++ '>' :: (inner ++ '<' :: '/' :: (tag.toList ++ ['>'])))

/-- Character data as an element keeps it. -/
def keptText (content : List Char) : Option String :=
  if content.isEmpty then none else some (.ofList content)

mutual

/-- A text is a way to write an element: without attributes, and with character data of plain
characters. -/
inductive Spells : List Char → Element → Prop
  | mk {tag : String} {content inner : List Char} {children : List Element}
      (htag : isPlainName tag = true) (hcontent : ∀ c ∈ content, isPlainChar c = true)
      (h : SpellsAll inner children) :
      Spells (tagged tag (content ++ inner)) (.mk tag [] (keptText content) children)

/-- The same for the elements inside of one. Character data may stand behind each of them. -/
inductive SpellsAll : List Char → List Element → Prop
  | nil : SpellsAll [] []
  | cons {cs tail rest : List Char} {e : Element} {es : List Element} (h : Spells cs e)
      (htail : ∀ c ∈ tail, isPlainChar c = true) (hrest : SpellsAll rest es) :
      SpellsAll (cs ++ (tail ++ rest)) (e :: es)

end

/-! ### The shortest way -/

mutual

/-- An element that can be written. -/
def Element.isPlain : Element → Bool
  | .mk tag attributes text children =>
    isPlainName tag && attributes.isEmpty && text != some "" &&
      (text.getD "").toList.all isPlainChar && areAllPlain children

/-- The same for each of several elements. -/
def areAllPlain : List Element → Bool
  | [] => true
  | e :: es => e.isPlain && areAllPlain es

end

theorem areAllPlain_iff : areAllPlain es = true ↔ ∀ e ∈ es, e.isPlain = true := by
  induction es with
  | nil => simp [areAllPlain]
  | cons e es ih => rw [areAllPlain, Bool.and_eq_true, ih, List.forall_mem_cons]

mutual

/-- An element as it is written with nothing behind the elements inside. -/
def Element.spelled : Element → List Char
  | .mk tag _ text children => tagged tag ((text.getD "").toList ++ spelledAll children)

/-- The same for several elements, one after the other. -/
def spelledAll : List Element → List Char
  | [] => []
  | e :: es => e.spelled ++ spelledAll es

end

theorem keptText_toList {text : Option String} (h : text ≠ some "") :
    keptText (text.getD "").toList = text := by
  cases text with
  | none => rfl
  | some s =>
    have hs : s.toList ≠ [] := fun hnil => h (by rw [String.toList_eq_nil_iff.mp hnil])
    simp [keptText, hs]

mutual

theorem spells_spelled : ∀ {e : Element}, e.isPlain = true → Spells e.spelled e
  | .mk tag attributes text children, h => by
    simp only [Element.isPlain, Bool.and_eq_true, List.isEmpty_iff, bne_iff_ne] at h
    obtain ⟨⟨⟨⟨htag, rfl⟩, htext⟩, hcontent⟩, hchildren⟩ := h
    have hspells := Spells.mk htag (List.all_eq_true.mp hcontent) (spellsAll_spelledAll hchildren)
    rwa [keptText_toList htext] at hspells

theorem spellsAll_spelledAll : ∀ {es : List Element}, areAllPlain es = true →
    SpellsAll (spelledAll es) es
  | [], _ => .nil
  | e :: es, h => by
    obtain ⟨he, hes⟩ := Bool.and_eq_true_iff.mp h
    exact .cons (spells_spelled he) (List.forall_mem_nil _) (spellsAll_spelledAll hes)

end

/-! ### Events -/

/-- The event that character data is. -/
def charactersOf (content : List Char) : List Event :=
  if content.isEmpty then [] else [.characters content]

/-- A tag comes next. -/
def Markup (cs : List Char) : Prop := cs.head? = some '<'

/-- Some elements are written as a text: how it is read, if something suitable follows, and what is
made of it. -/
structure Written (follows : List Char → Prop) (cs : List Char) (events : List Event)
    (es : List Element) : Prop where
  /-- Reading takes as many rounds more as there are events. -/
  takes : ∀ {d : Doctype} {entity : String → Scan (List Event)} {rounds depth left : Nat}
    {mid rest : List Char} {later : List Event}, d.rules = [] → follows mid →
    Scan.Takes (Scan.eventsWith d entity rounds (depth + 1)) mid (later, left) rest →
    Scan.Takes (Scan.eventsWith d entity (rounds + events.length) (depth + 1)) (cs ++ mid)
      (events ++ later, left) rest
  /-- The elements end up inside of the one that is open, which keeps them in reverse order. -/
  assemble_eq : ∀ (f : Frame) (frames : List Frame) (later : List Event), f.scope = .initial →
    assemble (f :: frames) (events ++ later) =
      assemble ({ f with children := es.reverse ++ f.children } :: frames) later
  /-- Character data in front of the text ends where the text begins. -/
  markup : ∀ mid, follows mid → Markup (cs ++ mid)
  /-- As many rounds as the text has characters suffice. -/
  length_le : events.length ≤ cs.length

theorem length_charactersOf_le (content : List Char) :
    (charactersOf content).length ≤ content.length := by
  cases content <;> simp [charactersOf]

theorem takes_charactersOf (hcontent : ∀ c ∈ content, isPlainChar c = true) (hmid : Markup mid)
    (h : Scan.Takes (Scan.eventsWith d entity rounds (depth + 1)) mid (later, left) rest) :
    Scan.Takes (Scan.eventsWith d entity (rounds + (charactersOf content).length) (depth + 1))
      (content ++ mid) (charactersOf content ++ later, left) rest := by
  cases content with
  | nil => exact h
  | cons c cs =>
    exact Scan.takes_eventsWith (by simp)
      (Scan.takes_plain d entity _ (List.cons_ne_nil c cs) hcontent hmid) h

/-- An element that is about to be closed. -/
def openElement (tag : String) (content : List Char) (es : List Element) : Frame where
  name := tag
  tag := tag
  attributes := []
  scope := .initial
  pieces := if content.isEmpty then [] else [content]
  children := es.reverse

theorem name_openElement (tag : String) (content : List Char) (es : List Element) :
    (openElement tag content es).name = tag := rfl

theorem toElement_openElement (tag : String) (content : List Char) (es : List Element) :
    (openElement tag content es).toElement = .mk tag [] (keptText content) es := by
  cases content <;> simp [openElement, Frame.toElement, Frame.text, keptText]

theorem ofOpening_initial (tag : String) :
    Frame.ofOpening .initial ⟨none, tag⟩ [] = some (openElement tag [] []) := by
  rfl

namespace Written

/-- What is behind the tag that opens an element, through the tag that closes it. -/
theorem takes_body (hw : Written Markup cs events es) (htag : isPlainName tag = true)
    (hcontent : ∀ c ∈ content, isPlainChar c = true) (hd : d.rules = [])
    (h : Scan.Takes (Scan.eventsWith d entity rounds depth) mid (later, left) rest) :
    Scan.Takes
      (Scan.eventsWith d entity
        (rounds + 1 + events.length + (charactersOf content).length) (depth + 1))
      (content ++ (cs ++ '<' :: '/' :: (tag.toList ++ '>' :: mid)))
      (charactersOf content ++ (events ++ .closing tag :: later), left) rest := by
  have hafter : Scan.depthAfter (depth + 1) [.closing tag] = depth := by cases depth <;> rfl
  have hclosing : Scan.Takes (Scan.eventsWith d entity (rounds + 1) (depth + 1))
      ('<' :: '/' :: (tag.toList ++ '>' :: mid)) (.closing tag :: later, left) rest :=
    Scan.takes_eventsWith (List.cons_ne_nil _ _) (Scan.takes_closing d entity htag _ mid)
      (by rwa [hafter])
  exact takes_charactersOf hcontent (hw.markup _ rfl) (hw.takes hd rfl hclosing)

/-- What is made of the tag that opens an element, some content and the elements inside. -/
theorem assemble_body (hw : Written Markup cs events es) (tag : String) (content : List Char)
    (frames : List Frame) (later : List Event) (hframes : ∀ f ∈ frames.head?, f.scope = .initial) :
    assemble frames (.opening ⟨none, tag⟩ [] :: (charactersOf content ++ (events ++ later))) =
      assemble (openElement tag content es :: frames) later := by
  have hopening : assemble frames
        (.opening ⟨none, tag⟩ [] :: (charactersOf content ++ (events ++ later))) =
      assemble (openElement tag [] [] :: frames) (charactersOf content ++ (events ++ later)) := by
    cases frames with
    | nil =>
      rw [assemble]
      rfl
    | cons f frames =>
      rw [assemble]
      simp only [hframes f rfl, ofOpening_initial]
      rfl
  have hcharacters : assemble (openElement tag [] [] :: frames)
        (charactersOf content ++ (events ++ later)) =
      assemble (openElement tag content [] :: frames) (events ++ later) := by
    cases content with
    | nil => rfl
    | cons c cs =>
      show assemble (_ :: frames) (.characters (c :: cs) :: (events ++ later)) = _
      rw [assemble]
      rfl
  rw [hopening, hcharacters, hw.assemble_eq _ _ _ rfl]
  simp [openElement]

theorem tagged (hw : Written Markup cs events es) (htag : isPlainName tag = true)
    (hcontent : ∀ c ∈ content, isPlainChar c = true) :
    Written (fun _ => True) (tagged tag (content ++ cs))
      (.opening ⟨none, tag⟩ [] :: (charactersOf content ++ (events ++ [.closing tag])))
      [.mk tag [] (keptText content) es] where
  takes := by
    intro d entity rounds depth left mid rest later hd _ h
    have htext : Xml.tagged tag (content ++ cs) ++ mid = '<' :: (tag.toList ++ '>' ::
        (content ++ (cs ++ '<' :: '/' :: (tag.toList ++ '>' :: mid)))) := by
      simp [Xml.tagged]
    have hevents : (Event.opening ⟨none, tag⟩ [] ::
          (charactersOf content ++ (events ++ [.closing tag]))) ++ later =
        [.opening ⟨none, tag⟩ []] ++
          (charactersOf content ++ (events ++ .closing tag :: later)) := by
      simp
    have hrounds : rounds + (Event.opening ⟨none, tag⟩ [] ::
          (charactersOf content ++ (events ++ [.closing tag]))).length =
        rounds + 1 + events.length + (charactersOf content).length + 1 := by
      simp only [List.length_cons, List.length_append, List.length_nil]
      omega
    rw [htext, hevents, hrounds]
    exact Scan.takes_eventsWith (List.cons_ne_nil _ _) (Scan.takes_opening entity htag hd _ _)
      (hw.takes_body htag hcontent hd h)
  assemble_eq := by
    intro f frames later hf
    have hbody := hw.assemble_body tag content (f :: frames) (.closing tag :: later)
      (by simpa using hf)
    have hassoc : (Event.opening ⟨none, tag⟩ [] ::
          (charactersOf content ++ (events ++ [.closing tag]))) ++ later =
        .opening ⟨none, tag⟩ [] :: (charactersOf content ++ (events ++ .closing tag :: later)) := by
      simp
    rw [hassoc, hbody, assemble, if_pos (name_openElement tag content es), toElement_openElement]
    rfl
  markup _ _ := rfl
  length_le := by
    have hevents := hw.length_le
    have hcharacters := length_charactersOf_le content
    simp only [Xml.tagged, List.length_cons, List.length_append, List.length_nil]
    omega

theorem nil : Written Markup [] [] [] where
  takes _ _ h := h
  assemble_eq _ _ _ _ := rfl
  markup _ h := h
  length_le := Nat.le_refl 0

/-- Character data behind an element is read and dropped. -/
theorem append (hw : Written (fun _ => True) cs events [e])
    (htail : ∀ c ∈ tail, isPlainChar c = true) (hw' : Written Markup cs' events' es) :
    Written Markup (cs ++ (tail ++ cs')) (events ++ (charactersOf tail ++ events')) (e :: es) where
  takes := by
    intro d entity rounds depth left mid rest later hd hmid h
    have hlater := takes_charactersOf htail (hw'.markup mid hmid) (hw'.takes hd hmid h)
    have hrounds : rounds + (events ++ (charactersOf tail ++ events')).length =
        rounds + events'.length + (charactersOf tail).length + events.length := by
      simp only [List.length_append]
      omega
    rw [hrounds]
    simpa using hw.takes hd trivial hlater
  assemble_eq := by
    intro f frames later hf
    have hdropped (g : Frame) (hg : g.children ≠ []) (later : List Event) :
        assemble (g :: frames) (charactersOf tail ++ later) = assemble (g :: frames) later := by
      cases tail with
      | nil => rfl
      | cons c tail =>
        -- character data is kept only as long as there is no element inside
        show assemble (_ :: frames) (.characters (c :: tail) :: later) = _
        rw [assemble, Frame.addText, if_neg (by simpa using hg)]
    have hlater := hw'.assemble_eq { f with children := [e].reverse ++ f.children } frames later hf
    rw [List.append_assoc, hw.assemble_eq f frames _ hf, List.append_assoc,
      hdropped _ (by simp) _, hlater]
    simp
  markup mid _ := by
    rw [List.append_assoc]
    exact hw.markup _ trivial
  length_le := by
    have hevents := hw.length_le
    have hevents' := hw'.length_le
    have hcharacters := length_charactersOf_le tail
    simp only [List.length_append]
    omega

end Written

mutual

/-- By induction on the elements and the texts that they are written as. -/
theorem Spells.exists_written : ∀ {cs : List Char} {e : Element}, Spells cs e →
    ∃ events, Written (fun _ => True) cs events [e]
  | _, _, .mk htag hcontent h =>
    have ⟨_, hw⟩ := h.exists_written
    ⟨_, hw.tagged htag hcontent⟩

theorem SpellsAll.exists_written : ∀ {cs : List Char} {es : List Element}, SpellsAll cs es →
    ∃ events, Written Markup cs events es
  | _, _, .nil => ⟨[], .nil⟩
  | _, _, .cons h htail hrest =>
    have ⟨_, hw⟩ := h.exists_written
    have ⟨_, hw'⟩ := hrest.exists_written
    ⟨_, hw.append htail hw'⟩

end

/-! ### Documents -/

namespace Scan

theorem takes_root (hw : Written Markup cs events es) (htag : isPlainName tag = true)
    (hcontent : ∀ c ∈ content, isPlainChar c = true) (hd : d.rules = []) :
    Takes (root d)
      (tag.toList ++ '>' :: (content ++ (cs ++ '<' :: '/' :: (tag.toList ++ ['>']))))
      (.opening ⟨none, tag⟩ [] :: (charactersOf content ++ (events ++ [.closing tag]))) [] := by
  -- there are as many rounds as characters, which is more than there are events
  have hrounds : ∃ k, k + 1 + events.length + (charactersOf content).length =
      (content ++ (cs ++ '<' :: '/' :: (tag.toList ++ ['>']))).length := by
    have hevents := hw.length_le
    have hcharacters := length_charactersOf_le content
    refine ⟨content.length + cs.length + tag.toList.length + 3 -
      (1 + events.length + (charactersOf content).length), ?_⟩
    simp only [List.length_append, List.length_cons, List.length_nil]
    omega
  obtain ⟨k, hk⟩ := hrounds
  have hbody := hw.takes_body htag hcontent hd
    (takes_eventsWith_zero d (entityEvents d d.table.depth) k [])
  rw [hk] at hbody
  have hopening : Takes (startTag d
        (tag.toList ++ '>' :: (content ++ (cs ++ '<' :: '/' :: (tag.toList ++ ['>'])))).length)
      (tag.toList ++ '>' :: (content ++ (cs ++ '<' :: '/' :: (tag.toList ++ ['>']))))
      [.opening ⟨none, tag⟩ []] (content ++ (cs ++ '<' :: '/' :: (tag.toList ++ ['>']))) := by
    rw [List.length_append, List.length_cons, ← Nat.add_assoc]
    exact takes_startTag htag hd _ _
  have hevents : Takes (Scan.events d) (content ++ (cs ++ '<' :: '/' :: (tag.toList ++ ['>'])))
      (charactersOf content ++ (events ++ [.closing tag])) [] :=
    (takes_remaining _).bind (hbody.bind (takes_pure _ _))
  exact (takes_remaining _).bind (hopening.bind (hevents.bind (takes_pure _ _)))

theorem takes_document (hw : Written Markup cs events es) (htag : isPlainName tag = true)
    (hcontent : ∀ c ∈ content, isPlainChar c = true) (standalone : Bool) :
    Takes (document standalone) (tagged tag (content ++ cs))
      (.opening ⟨none, tag⟩ [] :: (charactersOf content ++ (events ++ [.closing tag]))) [] := by
  have hnot (w : String) {c : Char} {ws : List Char} (hw : w.toList = '<' :: c :: ws)
      (hc : Alphabet.standard.isNameStart c = false) :
      w.toList.isPrefixOf (tagged tag (content ++ cs)) = false := by
    rw [hw]
    simpa [tagged, List.isPrefixOf] using not_isPrefixOf_tag htag ws _ hc
  have hfront (rounds : Nat) : Takes (surroundings rounds) (tagged tag (content ++ cs)) ()
      (tagged tag (content ++ cs)) :=
    takes_surroundings (fun c hc => by cases hc; rfl) (hnot "<!--" rfl (by decide))
      (hnot "<?" rfl (by decide)) rounds
  have hrules : ({ standalone := standalone : Doctype } : Doctype).rules = [] := rfl
  have hroot := takes_root hw htag hcontent hrules
  have htext : tagged tag (content ++ cs) = '<' :: (tag.toList ++ '>' ::
      (content ++ (cs ++ '<' :: '/' :: (tag.toList ++ ['>'])))) := by
    simp [tagged]
  have hend : Takes (surroundings ([] : List Char).length) [] () [] := takes_pure _ _
  refine (takes_remaining _).bind ((hfront _).bind ?_)
  refine (takes_hasWord_false (hnot "<!DOCTYPE" rfl (by decide))).bind (.bind (takes_pure _ _) ?_)
  refine (takes_remaining _).bind ((hfront _).bind ?_)
  rw [htext]
  refine (takes_word "<" _).bind (hroot.bind ?_)
  exact (takes_remaining _).bind (hend.bind ((takes_atEnd []).bind (takes_pure _ _)))

end Scan

/-- Nothing has to be covered as long as nothing has taken the place of a name. -/
theorem isCovered_of_replaced_eq_zero {a : Account} (h : a.replaced = 0) (left : Nat) :
    a.isCovered left = true := by
  have hle : a.bytesBefore left ≤ 100 * a.bytesBefore left := Nat.le_mul_of_pos_left _ (by decide)
  simp only [Account.isCovered, h, Nat.add_zero, hle, decide_true, Bool.or_true]

theorem root?_tagged (hw : Written Markup cs events es) (htag : isPlainName tag = true)
    (hcontent : ∀ c ∈ content, isPlainChar c = true) (standalone : Bool) (size : Nat)
    (widths : List Nat) :
    (⟨standalone, tagged tag (content ++ cs), .standard, size, widths⟩ : Source).root? =
      some (.mk tag [] (keptText content) es) := by
  have hevents := Scan.takes_document hw htag hcontent standalone
  have hassemble := hw.assemble_body tag content [] [.closing tag] (by simp)
  rw [Source.root?, Source.input, hevents]
  show (if Account.isCovered _ 0 then assemble [] _ else none) = _
  rw [if_pos (isCovered_of_replaced_eq_zero rfl 0), hassemble, assemble,
    if_pos (name_openElement tag content es), toElement_openElement]

/-! ### Bytes -/

theorem exists_of_inRanges {ranges : List (Nat × Nat)} {code : Nat}
    (h : inRanges ranges code = true) : ∃ r ∈ ranges, r.1 ≤ code ∧ code ≤ r.2 := by
  induction ranges with
  | nil => cases h
  | cons r ranges ih =>
    obtain ⟨first, last⟩ := r
    simp only [inRanges, Bool.and_eq_true, Bool.or_eq_true, decide_eq_true_eq] at h
    obtain ⟨hfirst, hlast | hlater⟩ := h
    · exact ⟨_, List.mem_cons_self .., hfirst, hlast⟩
    · obtain ⟨r, hr, hcode⟩ := ih hlater
      exact ⟨r, List.mem_cons_of_mem _ hr, hcode⟩

/-- The characters of names are graphic ones. -/
theorem bounds_of_isNameStart {c : Char} (h : Alphabet.standard.isNameStart c = true) :
    0x41 ≤ c.toNat ∧ c.toNat ≤ 0xD7A3 := by
  have htable : ∀ r ∈ nameStartRanges, 0x41 ≤ r.1 ∧ r.2 ≤ 0xD7A3 := by decide +kernel
  have hrange : inRanges nameStartRanges c.toNat = true := by
    simpa [Alphabet.isNameStart, Alphabet.isExtra] using h
  obtain ⟨r, hr, hfirst, hlast⟩ := exists_of_inRanges hrange
  have := htable r hr
  omega

theorem bounds_of_isNameChar {c : Char} (h : Alphabet.standard.isNameChar c = true) :
    0x2D ≤ c.toNat ∧ c.toNat ≤ 0xD7A3 := by
  have htable : ∀ r ∈ nameRestRanges, 0x2D ≤ r.1 ∧ r.2 ≤ 0xD7A3 := by decide +kernel
  rw [Alphabet.isNameChar, Bool.or_eq_true] at h
  rcases h with h | h
  · have := bounds_of_isNameStart h
    omega
  · obtain ⟨r, hr, hfirst, hlast⟩ := exists_of_inRanges h
    have := htable r hr
    omega

/-- A character of a document that is no part of a line end of two characters. -/
def isKept (c : Char) : Bool := isDocumentChar c && c != '\r'

theorem isKept_of_isNameChar {c : Char} (h : Alphabet.standard.isNameChar c = true) :
    isKept c = true := by
  have hbounds := bounds_of_isNameChar h
  have hreturn : c ≠ '\r' := by
    rintro rfl
    exact absurd hbounds.1 (by decide)
  simp [isKept, isDocumentChar, hreturn]
  omega

theorem isKept_of_isPlainChar {c : Char} (h : isPlainChar c = true) : isKept c = true := by
  simp only [isPlainChar, Bool.and_eq_true] at h
  simp only [isKept, Bool.and_eq_true]
  exact h.1.1.1

theorem unifyNewlines_of_isKept (h : ∀ c ∈ cs, isKept c = true) : Text.unifyNewlines cs = cs := by
  induction cs with
  | nil => rfl
  | cons c cs ih =>
    obtain ⟨hc, hcs⟩ := List.forall_mem_cons.mp h
    have hreturn : c ≠ '\r' := by
      rintro rfl
      cases hc
    rw [Text.unifyNewlines, ih hcs]
    · simp [hreturn]
    · exact hreturn

theorem isKept_tagged (htag : isPlainName tag = true) (hcs : ∀ c ∈ cs, isKept c = true) :
    ∀ c ∈ tagged tag cs, isKept c = true := by
  have hname : ∀ c ∈ tag.toList, isKept c = true := fun c hc =>
    isKept_of_isNameChar (isNameChar_of_isPlainName htag c hc)
  have hmarks : isKept '<' = true ∧ isKept '>' = true ∧ isKept '/' = true := by decide
  simp only [tagged, List.forall_mem_cons, List.forall_mem_append]
  exact ⟨hmarks.1, hname, hmarks.2.1, hcs, hmarks.1, hmarks.2.2, hname, hmarks.2.1,
    List.forall_mem_nil _⟩

mutual

theorem Spells.isKept : ∀ {cs : List Char} {e : Element}, Spells cs e → ∀ c ∈ cs, isKept c = true
  | _, _, .mk htag hcontent h =>
    isKept_tagged htag (List.forall_mem_append.mpr
      ⟨fun c hc => isKept_of_isPlainChar (hcontent c hc), h.isKept⟩)

theorem SpellsAll.isKept : ∀ {cs : List Char} {es : List Element}, SpellsAll cs es →
    ∀ c ∈ cs, isKept c = true
  | _, _, .nil => List.forall_mem_nil _
  | _, _, .cons h htail hrest =>
    List.forall_mem_append.mpr ⟨h.isKept, List.forall_mem_append.mpr
      ⟨fun c hc => isKept_of_isPlainChar (htail c hc), hrest.isKept⟩⟩

end

/-- The first byte of a character that a name may start with. -/
theorem exists_utf8EncodeChar {c : Char} (hc : Alphabet.standard.isNameStart c = true) :
    ∃ b bs, String.utf8EncodeChar c = b :: bs ∧ 0x41 ≤ b.toNat := by
  have hbounds := (bounds_of_isNameStart hc).1
  have hval : c.val.toNat = c.toNat := rfl
  rw [String.utf8EncodeChar]
  -- it is the character itself, or it begins with at least two bits that are set
  split
  · exact ⟨_, _, rfl, by simp; omega⟩
  · split
    · exact ⟨_, _, rfl, by simp; omega⟩
    · split
      · exact ⟨_, _, rfl, by simp; omega⟩
      · exact ⟨_, _, rfl, by simp; omega⟩

theorem toList_toUTF8 (cs : List Char) :
    (String.ofList cs).toUTF8.toList = cs.flatMap String.utf8EncodeChar := by
  rw [toList_eq_data_toList, String.toUTF8_eq_toByteArray, String.toByteArray_ofList,
    List.utf8Encode, List.toList_data_toByteArray]

theorem decode?_toUTF8 (text : String) :
    Encoding.utf8.decode? text.toUTF8.toList = some text.toList := by
  have hdecode : String.fromUTF8? text.toUTF8 = some text := dif_pos text.isValidUTF8
  have hbytes : (⟨text.toUTF8.toList.toArray⟩ : ByteArray) = text.toUTF8 := by
    rw [toList_eq_data_toList]
  rw [Encoding.decode?, hbytes, hdecode, Option.map_some]

/-- A text that begins with a tag shows its encoding. -/
theorem detect_tag {b : UInt8} (hb : 0x41 ≤ b.toNat) (bytes : List UInt8) :
    Encoding.detect (0x3C :: b :: bytes) = (.utf8, 0x3C :: b :: bytes) := by
  unfold Encoding.detect
  split <;> simp_all

theorem ofBytes_toUTF8 (htag : isPlainName tag = true) (cs : List Char)
    (hkept : ∀ c ∈ tagged tag cs, isKept c = true) :
    ∃ size widths, Source.ofBytes (String.ofList (tagged tag cs)).toUTF8.toList =
      .ok ⟨false, tagged tag cs, .standard, size, widths⟩ := by
  obtain ⟨c, name, hname, hc, -⟩ := exists_of_isPlainName htag
  obtain ⟨b, bs, hb, hfirst⟩ := exists_utf8EncodeChar hc
  obtain ⟨bytes, hbytes⟩ : ∃ bytes,
      (String.ofList (tagged tag cs)).toUTF8.toList = 0x3C :: b :: bytes := by
    rw [toList_toUTF8, tagged, hname]
    have hbracket : String.utf8EncodeChar '<' = [0x3C] := by decide
    rw [List.flatMap_cons, hbracket, List.singleton_append, List.cons_append, List.flatMap_cons, hb]
    exact ⟨_, rfl⟩
  have hdecode := decode?_toUTF8 (String.ofList (tagged tag cs))
  rw [hbytes, String.toList_ofList] at hdecode
  have hopens : opensDeclaration (Encoding.utf8.asciiView (0x3C :: b :: bytes)) = false := by
    have htable : ∀ n < 256, 0x41 ≤ n → '?' ≠ Char.ofNat n := by decide +kernel
    have hmark : '?' ≠ Char.ofNat b.toNat := htable b.toNat b.toNat_lt hfirst
    have hfront : "<?xml".toList.isPrefixOf
        ('<' :: Char.ofNat b.toNat :: bytes.map fun b => Char.ofNat b.toNat) = false := by
      simp [List.isPrefixOf, hmark]
    exact Bool.and_eq_false_imp.mpr fun h => absurd (hfront.symm.trans h) (by decide)
  have hchars : Source.charsOf .utf8 (0x3C :: b :: bytes) = .ok (tagged tag cs) := by
    have hall : (tagged tag cs).all isDocumentChar = true := by
      refine List.all_eq_true.mpr fun c hc => ?_
      exact (Bool.and_eq_true_iff.mp (hkept c hc)).1
    simp only [Source.charsOf, hdecode, hall, if_true]
  refine ⟨(0x3C :: b :: bytes).length, Text.unifiedWidths Encoding.utf8.width (tagged tag cs), ?_⟩
  rw [hbytes, Source.ofBytes, detect_tag hfirst]
  simp only [hopens, Bool.false_eq_true, if_false, hchars, ok_bind, Source.ofChars,
    unifyNewlines_of_isKept hkept]
  rfl

/-- **What is written is read back.** -/
theorem parse_of_spells {text : String} (h : Spells text.toList e) :
    parse text.toUTF8.toList = .ok e := by
  obtain ⟨cs, rfl⟩ : ∃ cs, text = String.ofList cs := ⟨text.toList, String.ofList_toList.symm⟩
  rw [String.toList_ofList] at h
  have hkept := h.isKept
  cases h with
  | mk htag hcontent hchildren =>
    obtain ⟨events, hw⟩ := hchildren.exists_written
    obtain ⟨size, widths, hsource⟩ := ofBytes_toUTF8 htag _ hkept
    rw [parse, hsource, ok_bind]
    simp only [root?_tagged hw htag hcontent]
    rfl

end Xml

end BuildDescriptor
