import BuildDescriptor.Proofs.Json.Scalar

/-!
# The texts of JSON values

The grammar of JSON, as the relation between values and their texts. It is stated for the phrases
that the reader has a function for: a value, the items of an array up to its closing bracket, one
member of an object, the members up to the closing brace. A phrase has a number of levels, the
containers that may still be nested in it.

The reader of a phrase takes a text of that phrase off the front of its input, and every such text
is read, whatever follows it; behind a value that is no container, delimiters have to follow. So a
container ends itself.

## Main definitions

* `Json.Phrase`, `Json.Spelled` — phrases and their texts

## Main results

* `Json.spelled_of_value` — what is read is spelled so
* `Json.Spelled.readBack` — what is spelled so is read
* `Json.value_append` — a container is read whatever follows it
-/

namespace BuildDescriptor

namespace Json

variable {levels : Nat} {cs rest used spaces : List Char} {v : Json}

/-! ### Spaces -/

/-- Nothing but spaces. -/
def Spaces (cs : List Char) : Prop := ∀ c ∈ cs, isSpace c = true

theorem skipSpaces_append (h : Spaces spaces) (hrest : Stops isSpace rest) :
    skipSpaces (spaces ++ rest) = rest :=
  hrest.dropWhile_append h

theorem exists_spaces (cs : List Char) :
    ∃ spaces, Spaces spaces ∧ cs = spaces ++ skipSpaces cs :=
  ⟨cs.takeWhile isSpace, fun _ hc => List.mem_takeWhile_imp hc,
    List.takeWhile_append_dropWhile.symm⟩

theorem ne_of_isSpace {c d : Char} (h : isSpace c = true) (hd : isSpace d = false) : c ≠ d := by
  rintro rfl
  rw [hd] at h
  cases h

theorem mem_delimiters_of_isSpace {c : Char} (h : isSpace c = true) : c ∈ delimiters := by
  simp only [isSpace, Bool.or_eq_true, beq_iff_eq] at h
  rcases h with ((rfl | rfl) | rfl) | rfl <;> decide

theorem ends_cons {c : Char} (h : c ∈ delimiters) : Ends (c :: cs) := by
  intro d hd
  cases hd
  exact h

theorem Spaces.ends {c : Char} (h : Spaces spaces) (hc : c ∈ delimiters) :
    Ends (spaces ++ c :: rest) := by
  cases spaces with
  | nil => exact ends_cons hc
  | cons d spaces => exact ends_cons (mem_delimiters_of_isSpace (h d (List.mem_cons_self ..)))

/-- A text that begins neither with a space nor with another delimiter. -/
def Begins (cs : List Char) : Prop := ∃ c more, cs = c :: more ∧ c ∉ delimiters

theorem Begins.append (h : Begins used) (rest : List Char) : Begins (used ++ rest) := by
  obtain ⟨c, more, rfl, hc⟩ := h
  exact ⟨c, more ++ rest, rfl, hc⟩

theorem Begins.skipSpaces_append (h : Begins cs) (hspaces : Spaces spaces) :
    skipSpaces (spaces ++ cs) = cs := by
  obtain ⟨c, more, rfl, hc⟩ := h
  refine Json.skipSpaces_append hspaces (stops_cons ?_)
  rw [Bool.eq_false_iff]
  exact fun hspace => hc (mem_delimiters_of_isSpace hspace)

/-! ### Phrases -/

/-- What the reader has a function for. -/
inductive Phrase
  | value (v : Json)
  | items (vs : List Json)
  | member (m : String × Json)
  | members (ms : List (String × Json))

/-- The texts of a phrase in which so many levels of containers may be nested. -/
inductive Spelled : Nat → Phrase → List Char → Prop
  | string {levels : Nat} {codes : List Nat} {body : List Char} (h : StringBody codes body) :
      Spelled levels (.value (.string (textOfCodes codes))) ('"' :: body)
  | bare {levels : Nat} {v : Json} {used : List Char} (h : Bare v used) :
      Spelled levels (.value v) used
  | emptyArray {levels : Nat} {s : List Char} (hs : Spaces s) :
      Spelled (levels + 1) (.value (.array [])) ('[' :: (s ++ [']']))
  | array {levels : Nat} {vs : List Json} {s body : List Char} (hs : Spaces s)
      (h : Spelled levels (.items vs) body) :
      Spelled (levels + 1) (.value (.array vs)) ('[' :: (s ++ body))
  | emptyObject {levels : Nat} {s : List Char} (hs : Spaces s) :
      Spelled (levels + 1) (.value (.object [])) ('{' :: (s ++ ['}']))
  | object {levels : Nat} {ms : List (String × Json)} {s body : List Char} (hs : Spaces s)
      (h : Spelled levels (.members ms) body) :
      Spelled (levels + 1) (.value (.object ms)) ('{' :: (s ++ body))
  | lastItem {levels : Nat} {v : Json} {used s : List Char} (h : Spelled levels (.value v) used)
      (hs : Spaces s) : Spelled levels (.items [v]) (used ++ (s ++ [']']))
  | moreItems {levels : Nat} {v : Json} {vs : List Json} {used s s' body : List Char}
      (h : Spelled levels (.value v) used) (hs : Spaces s) (hs' : Spaces s')
      (hmore : Spelled levels (.items vs) body) :
      Spelled levels (.items (v :: vs)) (used ++ (s ++ ',' :: (s' ++ body)))
  | member {levels : Nat} {v : Json} {codes : List Nat} {name used s s' : List Char}
      (hname : StringBody codes name) (hs : Spaces s) (hs' : Spaces s')
      (h : Spelled levels (.value v) used) :
      Spelled levels (.member (textOfCodes codes, v)) ('"' :: (name ++ (s ++ ':' :: (s' ++ used))))
  | lastMember {levels : Nat} {m : String × Json} {used s : List Char}
      (h : Spelled levels (.member m) used) (hs : Spaces s) :
      Spelled levels (.members [m]) (used ++ (s ++ ['}']))
  | moreMembers {levels : Nat} {m : String × Json} {ms : List (String × Json)}
      {used s s' body : List Char} (h : Spelled levels (.member m) used) (hs : Spaces s)
      (hs' : Spaces s') (hmore : Spelled levels (.members ms) body) :
      Spelled levels (.members (m :: ms)) (used ++ (s ++ ',' :: (s' ++ body)))

/-- More levels do no harm. -/
theorem Spelled.mono {levels' : Nat} {p : Phrase} (h : Spelled levels p used)
    (hle : levels ≤ levels') : Spelled levels' p used := by
  induction h generalizing levels' with
  | string h => exact .string h
  | bare h => exact .bare h
  | emptyArray hs =>
    obtain ⟨levels', rfl⟩ := Nat.exists_eq_add_of_lt hle
    exact .emptyArray hs
  | array hs _ ih =>
    obtain ⟨levels', rfl⟩ := Nat.exists_eq_add_of_lt hle
    exact .array hs (ih (by omega))
  | emptyObject hs =>
    obtain ⟨levels', rfl⟩ := Nat.exists_eq_add_of_lt hle
    exact .emptyObject hs
  | object hs _ ih =>
    obtain ⟨levels', rfl⟩ := Nat.exists_eq_add_of_lt hle
    exact .object hs (ih (by omega))
  | lastItem _ hs ih => exact .lastItem (ih hle) hs
  | moreItems _ hs hs' _ ih ihmore => exact .moreItems (ih hle) hs hs' (ihmore hle)
  | member hname hs hs' _ ih => exact .member hname hs hs' (ih hle)
  | lastMember _ hs ih => exact .lastMember (ih hle) hs
  | moreMembers _ hs hs' _ ih ihmore => exact .moreMembers (ih hle) hs hs' (ihmore hle)

theorem Spelled.begins {p : Phrase} (h : Spelled levels p used) : Begins used := by
  induction h with
  | string _ => exact ⟨_, _, rfl, by decide⟩
  | bare h =>
    obtain ⟨c, more, rfl⟩ := List.exists_cons_of_ne_nil h.ne_nil
    refine ⟨c, more, rfl, ?_⟩
    intro hc
    exact h.plain c (List.mem_cons_self ..) (List.mem_append_left _ hc)
  | emptyArray _ => exact ⟨_, _, rfl, by decide⟩
  | array _ _ _ => exact ⟨_, _, rfl, by decide⟩
  | emptyObject _ => exact ⟨_, _, rfl, by decide⟩
  | object _ _ _ => exact ⟨_, _, rfl, by decide⟩
  | member _ _ _ _ _ => exact ⟨_, _, rfl, by decide⟩
  | lastItem _ _ ih =>
    obtain ⟨c, more, rfl, hc⟩ := ih
    exact ⟨c, _, rfl, hc⟩
  | moreItems _ _ _ _ ih _ =>
    obtain ⟨c, more, rfl, hc⟩ := ih
    exact ⟨c, _, rfl, hc⟩
  | lastMember _ _ ih =>
    obtain ⟨c, more, rfl, hc⟩ := ih
    exact ⟨c, _, rfl, hc⟩
  | moreMembers _ _ _ _ ih _ =>
    obtain ⟨c, more, rfl, hc⟩ := ih
    exact ⟨c, _, rfl, hc⟩

/-! ### What is read is spelled so -/

variable {α : Type} {item : Read Json}

/-- What a reader takes off the front of a text is a text of a phrase. -/
def Sound (levels : Nat) (reader : Read α) (phrase : α → Phrase) : Prop :=
  ∀ cs a rest, reader cs = .ok (a, rest) →
    ∃ used, cs = used ++ rest ∧ Spelled levels (phrase a) used

theorem sound_scalar : Sound levels scalar .value := by
  intro cs v rest h
  by_cases hquote : ∃ more, cs = '"' :: more
  · obtain ⟨more, rfl⟩ := hquote
    rw [scalar, bind_eq_ok] at h
    obtain ⟨⟨text, rest'⟩, hbody, hok⟩ := h
    cases hok
    obtain ⟨codes, body, rfl, rfl, hspelled⟩ := stringBody_eq_ok_iff.mp hbody
    exact ⟨_, rfl, .string hspelled⟩
  · obtain ⟨used, rfl, hbare⟩ := bare_of_scalar (fun more hmore => hquote ⟨more, hmore⟩) h
    exact ⟨used, rfl, .bare hbare⟩

theorem sound_items (hitem : Sound levels item .value) (rounds : Nat) :
    Sound levels (items item rounds) .items := by
  induction rounds with
  | zero =>
    intro cs vs rest h
    cases h
  | succ rounds ih =>
    intro cs vs rest h
    rw [items, bind_eq_ok] at h
    obtain ⟨⟨v, after⟩, hv, h⟩ := h
    obtain ⟨used, rfl, hused⟩ := hitem _ _ _ hv
    obtain ⟨s, hs, hafter⟩ := exists_spaces after
    simp only at h
    split at h
    · rename_i rest' hskip
      cases h
      exact ⟨_, by rw [hafter, hskip]; simp, .lastItem hused hs⟩
    · rename_i rest' hskip
      rw [bind_eq_ok] at h
      obtain ⟨⟨vs, rest⟩, hvs, hok⟩ := h
      cases hok
      obtain ⟨body, hbody, hspelled⟩ := ih _ _ _ hvs
      obtain ⟨s', hs', hrest'⟩ := exists_spaces rest'
      refine ⟨_, ?_, .moreItems hused hs hs' hspelled⟩
      rw [hafter, hskip, hrest', hbody]
      simp
    · cases h

theorem sound_member (hitem : Sound levels item .value) : Sound levels (member item) .member := by
  intro cs m rest h
  unfold member at h
  split at h
  · rw [bind_eq_ok] at h
    obtain ⟨⟨text, after⟩, hbody, h⟩ := h
    obtain ⟨codes, name, rfl, rfl, hname⟩ := stringBody_eq_ok_iff.mp hbody
    obtain ⟨s, hs, hafter⟩ := exists_spaces after
    simp only at h
    split at h
    · rename_i rest' hskip
      rw [bind_eq_ok] at h
      obtain ⟨⟨v, rest⟩, hv, hok⟩ := h
      cases hok
      obtain ⟨used, hused, hspelled⟩ := hitem _ _ _ hv
      obtain ⟨s', hs', hrest'⟩ := exists_spaces rest'
      refine ⟨_, ?_, .member hname hs hs' hspelled⟩
      rw [hafter, hskip, hrest', hused]
      simp
    · cases h
  · cases h

theorem sound_members (hitem : Sound levels item .value) (rounds : Nat) :
    Sound levels (members item rounds) .members := by
  induction rounds with
  | zero =>
    intro cs ms rest h
    cases h
  | succ rounds ih =>
    intro cs ms rest h
    rw [members, bind_eq_ok] at h
    obtain ⟨⟨m, after⟩, hm, h⟩ := h
    obtain ⟨used, rfl, hused⟩ := sound_member hitem _ _ _ hm
    obtain ⟨s, hs, hafter⟩ := exists_spaces after
    simp only at h
    split at h
    · rename_i rest' hskip
      cases h
      exact ⟨_, by rw [hafter, hskip]; simp, .lastMember hused hs⟩
    · rename_i rest' hskip
      rw [bind_eq_ok] at h
      obtain ⟨⟨ms, rest⟩, hms, hok⟩ := h
      cases hok
      obtain ⟨body, hbody, hspelled⟩ := ih _ _ _ hms
      obtain ⟨s', hs', hrest'⟩ := exists_spaces rest'
      refine ⟨_, ?_, .moreMembers hused hs hs' hspelled⟩
      rw [hafter, hskip, hrest', hbody]
      simp
    · cases h

theorem sound_valueOf (hitem : Sound levels item .value) :
    Sound (levels + 1) (valueOf item) .value := by
  intro cs v rest h
  unfold valueOf at h
  split at h
  · rename_i cs
    obtain ⟨s, hs, hcs⟩ := exists_spaces cs
    split at h
    · rename_i rest' hskip
      cases h
      exact ⟨_, by rw [hcs, hskip]; simp, .emptyArray hs⟩
    · rw [bind_eq_ok] at h
      obtain ⟨⟨vs, rest⟩, hvs, hok⟩ := h
      cases hok
      obtain ⟨body, hbody, hspelled⟩ := sound_items hitem _ _ _ _ hvs
      exact ⟨_, by rw [hcs, hbody]; simp, .array hs hspelled⟩
  · rename_i cs
    obtain ⟨s, hs, hcs⟩ := exists_spaces cs
    split at h
    · rename_i rest' hskip
      cases h
      exact ⟨_, by rw [hcs, hskip]; simp, .emptyObject hs⟩
    · rw [bind_eq_ok] at h
      obtain ⟨⟨ms, rest⟩, hms, hok⟩ := h
      cases hok
      obtain ⟨body, hbody, hspelled⟩ := sound_members hitem _ _ _ _ hms
      exact ⟨_, by rw [hcs, hbody]; simp, .object hs hspelled⟩
  · exact sound_scalar _ _ _ h

/-- **What is read is spelled so.** -/
theorem spelled_of_value (levels : Nat) : Sound levels (value levels) .value := by
  induction levels with
  | zero =>
    intro cs v rest h
    rw [value] at h
    unfold innermost at h
    split at h
    · cases h
    · cases h
    · exact sound_scalar _ _ _ h
  | succ levels ih => exact sound_valueOf ih

/-! ### What is spelled so is read -/

theorem value_eq_scalar (h : ∀ c ∈ cs.head?, c ≠ '[' ∧ c ≠ '{') : value levels cs = scalar cs := by
  have hhead : ∀ c more, cs = c :: more → c ≠ '[' ∧ c ≠ '{' := by
    rintro c more rfl
    exact h c rfl
  cases levels with
  | zero =>
    rw [value, innermost]
    · exact fun more hmore => (hhead _ more hmore).1 rfl
    · exact fun more hmore => (hhead _ more hmore).2 rfl
  | succ levels =>
    rw [value, valueOf]
    · exact fun more hmore => (hhead _ more hmore).1 rfl
    · exact fun more hmore => (hhead _ more hmore).2 rfl

theorem skipSpaces_append_delimiter {c : Char} (hspaces : Spaces spaces) (hc : isSpace c = false) :
    skipSpaces (spaces ++ c :: rest) = c :: rest :=
  skipSpaces_append hspaces (stops_cons hc)

theorem value_emptyArray (hspaces : Spaces spaces) :
    value (levels + 1) ('[' :: (spaces ++ ']' :: rest)) = .ok (.array [], rest) := by
  rw [value, valueOf, skipSpaces_append_delimiter hspaces (by decide)]
  rfl

theorem value_emptyObject (hspaces : Spaces spaces) :
    value (levels + 1) ('{' :: (spaces ++ '}' :: rest)) = .ok (.object [], rest) := by
  rw [value, valueOf, skipSpaces_append_delimiter hspaces (by decide)]
  rfl

theorem value_bracket (hspaces : Spaces spaces) (hcs : Begins cs) :
    value (levels + 1) ('[' :: (spaces ++ cs)) =
      (items (value levels) cs.length cs).map fun read => (.array read.1, read.2) := by
  have hskip : skipSpaces (spaces ++ cs) = cs := hcs.skipSpaces_append hspaces
  rw [value, valueOf, hskip]
  split
  · obtain ⟨c, more, heq, hc⟩ := hcs
    cases heq
    exact absurd (by decide) hc
  · cases items (value levels) cs.length cs <;> rfl

theorem value_array {vs : List Json} (hspaces : Spaces spaces) (hcs : Begins cs)
    (h : items (value levels) cs.length cs = .ok (vs, rest)) :
    value (levels + 1) ('[' :: (spaces ++ cs)) = .ok (.array vs, rest) := by
  rw [value_bracket hspaces hcs, h]
  rfl

theorem value_brace (hspaces : Spaces spaces) (hcs : Begins cs) :
    value (levels + 1) ('{' :: (spaces ++ cs)) =
      (members (value levels) cs.length cs).map fun read => (.object read.1, read.2) := by
  have hskip : skipSpaces (spaces ++ cs) = cs := hcs.skipSpaces_append hspaces
  rw [value, valueOf, hskip]
  split
  · obtain ⟨c, more, heq, hc⟩ := hcs
    cases heq
    exact absurd (by decide) hc
  · cases members (value levels) cs.length cs <;> rfl

theorem value_object {ms : List (String × Json)} (hspaces : Spaces spaces) (hcs : Begins cs)
    (h : members (value levels) cs.length cs = .ok (ms, rest)) :
    value (levels + 1) ('{' :: (spaces ++ cs)) = .ok (.object ms, rest) := by
  rw [value_brace hspaces hcs, h]
  rfl

/-- A text is read as a phrase, whatever follows it; behind a value, delimiters have to follow. -/
def ReadBack (levels : Nat) : Phrase → List Char → Prop
  | .value v, used => ∀ rest, Ends rest → value levels (used ++ rest) = .ok (v, rest)
  | .items vs, used => ∀ rest rounds, used.length ≤ rounds →
      items (value levels) rounds (used ++ rest) = .ok (vs, rest)
  | .member m, used => ∀ rest, Ends rest → member (value levels) (used ++ rest) = .ok (m, rest)
  | .members ms, used => ∀ rest rounds, used.length ≤ rounds →
      members (value levels) rounds (used ++ rest) = .ok (ms, rest)

theorem ReadBack.items_length {vs : List Json} (h : ReadBack levels (.items vs) used)
    (rest : List Char) :
    items (value levels) (used ++ rest).length (used ++ rest) = .ok (vs, rest) :=
  h rest _ (by simp)

theorem ReadBack.members_length {ms : List (String × Json)} (h : ReadBack levels (.members ms) used)
    (rest : List Char) :
    members (value levels) (used ++ rest).length (used ++ rest) = .ok (ms, rest) :=
  h rest _ (by simp)

theorem value_string {codes : List Nat} {body : List Char} (h : StringBody codes body)
    (rest : List Char) :
    value levels ('"' :: (body ++ rest)) = .ok (.string (textOfCodes codes), rest) := by
  rw [value_eq_scalar (by rintro c ⟨⟩; decide), scalar,
    stringBody_eq_ok_iff.mpr ⟨codes, body, rfl, rfl, h⟩]
  rfl

theorem Bare.value_eq (h : Bare v used) (hrest : Ends rest) :
    value levels (used ++ rest) = .ok (v, rest) := by
  rw [value_eq_scalar, h.scalar_eq rest hrest]
  obtain ⟨c, more, rfl⟩ := List.exists_cons_of_ne_nil h.ne_nil
  rintro _ ⟨⟩
  have hplain := h.plain c (List.mem_cons_self ..)
  constructor
  · rintro rfl
    exact hplain (by decide)
  · rintro rfl
    exact hplain (by decide)

/-! Each function of the reader goes on behind its first part as expected. -/

theorem items_last {rounds : Nat} (hitem : item cs = .ok (v, spaces ++ ']' :: rest))
    (hspaces : Spaces spaces) : items item (rounds + 1) cs = .ok ([v], rest) := by
  rw [items, hitem, ok_bind]
  simp only [skipSpaces_append_delimiter hspaces (show isSpace ']' = false by decide)]
  rfl

theorem items_comma {rounds : Nat} {spaces' more : List Char}
    (hitem : item cs = .ok (v, spaces ++ ',' :: (spaces' ++ more))) (hspaces : Spaces spaces)
    (hspaces' : Spaces spaces') (hmore : Begins more) :
    items item (rounds + 1) cs =
      (items item rounds more).map fun read => (v :: read.1, read.2) := by
  rw [items, hitem, ok_bind]
  simp only [skipSpaces_append_delimiter hspaces (show isSpace ',' = false by decide),
    hmore.skipSpaces_append hspaces']
  cases items item rounds more <;> rfl

theorem items_more {rounds : Nat} {spaces' more : List Char} {vs : List Json}
    (hitem : item cs = .ok (v, spaces ++ ',' :: (spaces' ++ more))) (hspaces : Spaces spaces)
    (hspaces' : Spaces spaces') (hmore : Begins more)
    (h : items item rounds more = .ok (vs, rest)) :
    items item (rounds + 1) cs = .ok (v :: vs, rest) := by
  rw [items_comma hitem hspaces hspaces' hmore, h]
  rfl

theorem member_colon {codes : List Nat} {name spaces' more : List Char}
    (hname : StringBody codes name) (hspaces : Spaces spaces) (hspaces' : Spaces spaces')
    (hmore : Begins more) :
    member item ('"' :: (name ++ (spaces ++ ':' :: (spaces' ++ more)))) =
      (item more).map fun read => ((textOfCodes codes, read.1), read.2) := by
  rw [Json.member, stringBody_eq_ok_iff.mpr ⟨codes, name, rfl, rfl, hname⟩, ok_bind]
  simp only [skipSpaces_append_delimiter hspaces (show isSpace ':' = false by decide),
    hmore.skipSpaces_append hspaces']
  cases item more <;> rfl

theorem member_of_name {codes : List Nat} {name spaces' more : List Char}
    (hname : StringBody codes name) (hspaces : Spaces spaces) (hspaces' : Spaces spaces')
    (hmore : Begins more) (h : item more = .ok (v, rest)) :
    member item ('"' :: (name ++ (spaces ++ ':' :: (spaces' ++ more)))) =
      .ok ((textOfCodes codes, v), rest) := by
  rw [member_colon hname hspaces hspaces' hmore, h]
  rfl

theorem members_last {rounds : Nat} {m : String × Json}
    (hmember : member item cs = .ok (m, spaces ++ '}' :: rest)) (hspaces : Spaces spaces) :
    members item (rounds + 1) cs = .ok ([m], rest) := by
  rw [members, hmember, ok_bind]
  simp only [skipSpaces_append_delimiter hspaces (show isSpace '}' = false by decide)]
  rfl

theorem members_comma {rounds : Nat} {m : String × Json} {spaces' more : List Char}
    (hmember : member item cs = .ok (m, spaces ++ ',' :: (spaces' ++ more)))
    (hspaces : Spaces spaces) (hspaces' : Spaces spaces') (hmore : Begins more) :
    members item (rounds + 1) cs =
      (members item rounds more).map fun read => (m :: read.1, read.2) := by
  rw [members, hmember, ok_bind]
  simp only [skipSpaces_append_delimiter hspaces (show isSpace ',' = false by decide),
    hmore.skipSpaces_append hspaces']
  cases members item rounds more <;> rfl

theorem members_more {rounds : Nat} {m : String × Json} {spaces' more : List Char}
    {ms : List (String × Json)}
    (hmember : member item cs = .ok (m, spaces ++ ',' :: (spaces' ++ more)))
    (hspaces : Spaces spaces) (hspaces' : Spaces spaces') (hmore : Begins more)
    (h : members item rounds more = .ok (ms, rest)) :
    members item (rounds + 1) cs = .ok (m :: ms, rest) := by
  rw [members_comma hmember hspaces hspaces' hmore, h]
  rfl

theorem Spelled.exists_rounds {rounds : Nat} {p : Phrase} (h : Spelled levels p used)
    (hrounds : used.length ≤ rounds) : ∃ n, rounds = n + 1 := by
  obtain ⟨c, more, rfl, -⟩ := h.begins
  exact Nat.exists_eq_add_one_of_ne_zero (by rw [List.length_cons] at hrounds; omega)

/-- **What is spelled so is read.** -/
theorem Spelled.readBack {p : Phrase} (h : Spelled levels p used) : ReadBack levels p used := by
  induction h with
  | string h => exact fun rest _ => value_string h rest
  | bare h => exact fun rest hrest => h.value_eq hrest
  | emptyArray hs =>
    intro rest _
    rw [List.cons_append, List.append_assoc, List.singleton_append]
    exact value_emptyArray hs
  | array hs hspelled ih =>
    intro rest _
    rw [List.cons_append, List.append_assoc]
    exact value_array hs (hspelled.begins.append rest) (ih.items_length rest)
  | emptyObject hs =>
    intro rest _
    rw [List.cons_append, List.append_assoc, List.singleton_append]
    exact value_emptyObject hs
  | object hs hspelled ih =>
    intro rest _
    rw [List.cons_append, List.append_assoc]
    exact value_object hs (hspelled.begins.append rest) (ih.members_length rest)
  | lastItem hspelled hs ih =>
    intro rest rounds hrounds
    obtain ⟨rounds, rfl⟩ := (Spelled.lastItem hspelled hs).exists_rounds hrounds
    rw [List.append_assoc, List.append_assoc, List.singleton_append]
    exact items_last (ih _ (hs.ends (by decide))) hs
  | moreItems hspelled hs hs' hmore ih ihmore =>
    intro rest rounds hrounds
    obtain ⟨rounds, rfl⟩ := (Spelled.moreItems hspelled hs hs' hmore).exists_rounds hrounds
    simp only [List.length_append, List.length_cons] at hrounds
    simp only [List.append_assoc, List.cons_append]
    exact items_more (ih _ (hs.ends (by decide))) hs hs' (hmore.begins.append rest)
      (ihmore rest rounds (by omega))
  | member hname hs hs' hspelled ih =>
    intro rest hrest
    simp only [List.append_assoc, List.cons_append]
    exact member_of_name hname hs hs' (hspelled.begins.append rest) (ih rest hrest)
  | lastMember hspelled hs ih =>
    intro rest rounds hrounds
    obtain ⟨rounds, rfl⟩ := (Spelled.lastMember hspelled hs).exists_rounds hrounds
    rw [List.append_assoc, List.append_assoc, List.singleton_append]
    exact members_last (ih _ (hs.ends (by decide))) hs
  | moreMembers hspelled hs hs' hmore ih ihmore =>
    intro rest rounds hrounds
    obtain ⟨rounds, rfl⟩ := (Spelled.moreMembers hspelled hs hs' hmore).exists_rounds hrounds
    simp only [List.length_append, List.length_cons] at hrounds
    simp only [List.append_assoc, List.cons_append]
    exact members_more (ih _ (hs.ends (by decide))) hs hs' (hmore.begins.append rest)
      (ihmore rest rounds (by omega))

/-! ### Containers -/

/-- The characters that open a container. -/
def openers : List Char := ['[', '{']

/-- Behind a container, anything may follow. -/
theorem Spelled.value_eq {c : Char} (h : Spelled levels (.value v) (c :: used))
    (hc : c ∈ openers) (rest : List Char) : value levels (c :: (used ++ rest)) = .ok (v, rest) := by
  cases h with
  | string h => exact absurd hc (by decide)
  | bare h =>
    have hall : openers.all structural.contains = true := by decide
    have hstructural := List.all_eq_true.mp hall c hc
    exact absurd (List.contains_iff_mem.mp hstructural) (h.plain c (List.mem_cons_self ..))
  | emptyArray hs =>
    rw [List.append_assoc, List.singleton_append]
    exact value_emptyArray hs
  | array hs hspelled =>
    rw [List.append_assoc]
    exact value_array hs (hspelled.begins.append rest) (hspelled.readBack.items_length rest)
  | emptyObject hs =>
    rw [List.append_assoc, List.singleton_append]
    exact value_emptyObject hs
  | object hs hspelled =>
    rw [List.append_assoc]
    exact value_object hs (hspelled.begins.append rest) (hspelled.readBack.members_length rest)

/-- What is read at an opener is a text that begins with it. -/
theorem exists_spelled_of_value {c : Char} (h : value levels (c :: cs) = .ok (v, rest)) :
    ∃ used, cs = used ++ rest ∧ Spelled levels (.value v) (c :: used) := by
  obtain ⟨used, heq, hspelled⟩ := spelled_of_value levels _ _ _ h
  obtain ⟨d, more, rfl, -⟩ := hspelled.begins
  obtain ⟨rfl, rfl⟩ := List.cons.inj heq
  exact ⟨more, rfl, hspelled⟩

/-- **A container ends itself.** It is read in the same way whatever follows the text. -/
theorem value_append {c : Char} (hc : c ∈ openers) (h : value levels (c :: cs) = .ok (v, rest))
    (more : List Char) : value levels (c :: (cs ++ more)) = .ok (v, rest ++ more) := by
  obtain ⟨used, rfl, hspelled⟩ := exists_spelled_of_value h
  rw [List.append_assoc]
  exact hspelled.value_eq hc (rest ++ more)

/-- No container is a proper beginning of another one. -/
theorem Spelled.value_ne_ok {c : Char} {whole lost : List Char} {w : Json} {rest : List Char}
    (h : Spelled levels (.value v) (c :: whole)) (hc : c ∈ openers) (hcut : whole = cs ++ lost)
    (hlost : lost ≠ []) : value levels (c :: cs) ≠ .ok (w, rest) := by
  intro hok
  have hwhole : value levels (c :: whole) = .ok (v, []) := by simpa using h.value_eq hc []
  rw [hcut, value_append hc hok lost] at hwhole
  simp only [Except.ok.injEq, Prod.mk.injEq, List.append_eq_nil_iff] at hwhole
  exact hlost hwhole.2.2

end Json

end BuildDescriptor
