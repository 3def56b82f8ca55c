import BuildDescriptor.Proofs.Json.Spelling

/-!
# Texts that exceed a limit of the reader

Most texts that cannot be read are malformed. The others exceed a limit. At a place where a value is
due, such a text opens one container more than may be nested, or it has an integer with more digits
than numbers may have.

What stands before that place is the beginning of a text of JSON: containers that are open, in each
of them the elements that are complete, and in an object the name of a member. What stands behind it
is not looked at. So the statement needs no reader: it cuts the text in two, says what the first
part is, and names the limit that the second part begins to exceed.

## Main definitions

* `Json.Done` — complete elements of a container, each with the comma behind it
* `Json.Front` — the beginning of a text, up to a place where a value is due
* `Json.LongInteger`, `Json.Exceeds` — what exceeds a limit at such a place
* `Json.Overruns` — a text that exceeds a limit
* `Json.Modest` — a text with neither long numerals nor many containers

## Main results

* `Json.value_eq_error_iff` — when the reader fails for another reason than a malformed text
* `Json.Modest.not_overruns` — modest texts do not exceed a limit
-/

namespace BuildDescriptor

namespace Json

variable {levels left : Nat} {cs rest front digits : List Char} {c : Char} {failure : Failure}

/-! ### The beginning of a text -/

/-- Complete elements of a container, each with the comma behind it. -/
inductive Done (element : List Char → Prop) : List Char → Prop
  | nil : Done element []
  | cons {used s s' more : List Char} (h : element used) (hs : Spaces s) (hs' : Spaces s')
      (hmore : Done element more) : Done element (used ++ (s ++ ',' :: (s' ++ more)))

/-- The text of an item of an array. -/
def IsItem (levels : Nat) (used : List Char) : Prop := ∃ v, Spelled levels (.value v) used

/-- The text of a member of an object. -/
def IsMember (levels : Nat) (used : List Char) : Prop := ∃ m, Spelled levels (.member m) used

/-- The beginning of the text of a value in which so many levels of containers may be nested, up to
a place where a value is due and so many levels are left. -/
inductive Front : Nat → Nat → List Char → Prop
  | here {levels : Nat} : Front levels levels []
  | array {levels left : Nat} {s done front : List Char} (hs : Spaces s)
      (hdone : Done (IsItem levels) done) (h : Front levels left front) :
      Front (levels + 1) left ('[' :: (s ++ (done ++ front)))
  | object {levels left : Nat} {codes : List Nat} {s done name s' s'' front : List Char}
      (hs : Spaces s) (hdone : Done (IsMember levels) done) (hname : StringBody codes name)
      (hs' : Spaces s') (hs'' : Spaces s'') (h : Front levels left front) :
      Front (levels + 1) left
        ('{' :: (s ++ (done ++ '"' :: (name ++ (s' ++ ':' :: (s'' ++ front))))))

/-! ### Long integers -/

/-- A text that goes on with a digit, a fraction or an exponent. -/
inductive ContinuesNumber : List Char → Prop
  | digit {d : Char} {cs : List Char} (hd : isDigit d = true) : ContinuesNumber (d :: cs)
  | fraction {d : Char} {cs : List Char} (hd : isDigit d = true) : ContinuesNumber ('.' :: d :: cs)
  | exponent {e d : Char} {sign cs : List Char} (he : e = 'e' ∨ e = 'E')
      (hsign : sign = [] ∨ sign = ['+'] ∨ sign = ['-']) (hd : isDigit d = true) :
      ContinuesNumber (e :: (sign ++ d :: cs))

/-- The digits of an integer, in front of the rest of a text, that are too many. -/
structure LongInteger (digits rest : List Char) : Prop where
  isNumeral : ∀ c ∈ digits, isDigit c = true
  head?_ne : digits.head? ≠ some '0'
  long : Text.maxDigits < digits.length
  ends : ¬ ContinuesNumber rest

theorem takeWhile_isDigit_eq_nil (h : Stops isDigit cs) : cs.takeWhile isDigit = [] := by
  have hnil : ∀ c ∈ ([] : List Char), isDigit c = true := by simp
  exact h.takeWhile_append hnil

theorem fractionDigits_eq_nil (h : ¬ ContinuesNumber rest) : fractionDigits rest = ([], rest) := by
  unfold fractionDigits
  split
  · rename_i cs
    have hstops : Stops isDigit cs := by
      intro c hc
      obtain ⟨more, rfl⟩ := List.head?_eq_some_iff.mp hc
      rw [Bool.eq_false_iff]
      exact fun hd => h (.fraction hd)
    rw [takeWhile_isDigit_eq_nil hstops]
    rfl
  · rfl

theorem exponentDigits_eq_nil (h : ¬ ContinuesNumber rest) : exponentDigits rest = ([], rest) := by
  cases rest with
  | nil => rfl
  | cons e cs =>
    obtain ⟨sign, more, hcut⟩ : ∃ sign more, exponentSign cs = (sign, more) := ⟨_, _, rfl⟩
    have hsign : cs = sign ++ more ∧ (sign = [] ∨ sign = ['+'] ∨ sign = ['-']) := by
      unfold exponentSign at hcut
      split at hcut <;> cases hcut <;> simp
    obtain ⟨rfl, hsign⟩ := hsign
    simp only [exponentDigits, hcut]
    split
    · rename_i hcond
      simp only [Bool.and_eq_true, Bool.or_eq_true, decide_eq_true_eq, Bool.not_eq_true',
        List.isEmpty_eq_false_iff] at hcond
      obtain ⟨he, hdigits⟩ := hcond
      cases more with
      | nil => exact absurd rfl hdigits
      | cons d more =>
        rw [List.takeWhile_cons] at hdigits
        split at hdigits
        · rename_i hd
          exact absurd (.exponent he hsign hd) h
        · exact absurd rfl hdigits
    · rfl

theorem wholeDigits_of_head?_ne (hne : digits.head? ≠ some '0') (hnil : digits ≠ [])
    (hdigits : ∀ c ∈ digits, isDigit c = true) (hrest : Stops isDigit rest) :
    wholeDigits (digits ++ rest) = (digits, rest) := by
  rw [wholeDigits]
  · rw [hrest.takeWhile_append hdigits, hrest.dropWhile_append hdigits]
  · intro more hmore
    obtain ⟨d, ds, rfl⟩ := List.exists_cons_of_ne_nil hnil
    obtain ⟨rfl, -⟩ := List.cons.inj hmore
    exact hne rfl

theorem LongInteger.ne_nil (h : LongInteger digits rest) : digits ≠ [] := by
  rintro rfl
  exact Nat.not_lt_zero _ h.long

theorem LongInteger.unsignedNumber_eq {negative : Bool} (h : LongInteger digits rest) :
    unsignedNumber negative (digits ++ rest) = .error (.longInteger digits.length) := by
  have hstops : Stops isDigit rest := by
    intro c hc
    obtain ⟨more, rfl⟩ := List.head?_eq_some_iff.mp hc
    rw [Bool.eq_false_iff]
    exact fun hd => h.ends (.digit hd)
  have hempty : digits.isEmpty = false := by simpa using h.ne_nil
  rw [Json.unsignedNumber_eq (wholeDigits_of_head?_ne h.head?_ne h.ne_nil h.isNumeral hstops)
    (fractionDigits_eq_nil h.ends) (exponentDigits_eq_nil h.ends)]
  simp only [numberOf, hempty, List.isEmpty_nil, h.long]
  rfl

theorem exponentSign_append {sign : List Char} (hsign : sign = [] ∨ sign = ['+'] ∨ sign = ['-'])
    (h : isDigit c = true) : exponentSign (sign ++ c :: cs) = (sign, c :: cs) := by
  have hself : exponentSign sign = (sign, []) := by rcases hsign with rfl | rfl | rfl <;> rfl
  exact (exponentSign_eq hself).2.2 c cs h

/-- A text off which a number reader takes nothing does not go on with a part of a number. -/
theorem not_continuesNumber (hstops : Stops isDigit rest) (hfraction : (fractionDigits rest).1 = [])
    (hexponent : (exponentDigits rest).1 = []) : ¬ ContinuesNumber rest := by
  intro h
  cases h with
  | digit hd => rw [hstops _ rfl] at hd; cases hd
  | fraction hd => simp [fractionDigits, hd] at hfraction
  | exponent he hsign hd =>
    simp [exponentDigits, exponentSign_append hsign hd, hd, he] at hexponent

theorem stops_of_wholeDigits {whole : List Char} (h : wholeDigits cs = (whole, rest))
    (hzero : whole ≠ ['0']) : Stops isDigit rest ∧ whole.head? ≠ some '0' := by
  unfold wholeDigits at h
  split at h
  · cases h
    exact absurd rfl hzero
  · rename_i hhead
    cases h
    constructor
    · intro c hc
      have hnot := List.head?_dropWhile_not isDigit cs
      rw [Option.mem_def.mp hc] at hnot
      simpa using hnot
    · intro h0
      cases cs with
      | nil => cases h0
      | cons d cs =>
        rw [List.takeWhile_cons] at h0
        split at h0
        · cases h0
          exact hhead cs rfl
        · cases h0

theorem LongInteger.of_unsignedNumber {negative : Bool} (hfailure : failure ≠ .malformed)
    (h : unsignedNumber negative cs = .error failure) :
    ∃ digits rest, cs = digits ++ rest ∧ LongInteger digits rest ∧
      failure = .longInteger digits.length := by
  rcases hwhole : wholeDigits cs with ⟨whole, afterWhole⟩
  rcases hfraction : fractionDigits afterWhole with ⟨fraction, afterFraction⟩
  rcases hexponent : exponentDigits afterFraction with ⟨exponent, afterExponent⟩
  rw [Json.unsignedNumber_eq hwhole hfraction hexponent] at h
  obtain ⟨rfl, hdigits, -⟩ := wholeDigits_takes hwhole
  obtain ⟨hcut, -⟩ := fractionDigits_takes hfraction
  unfold numberOf at h
  split at h
  · cases h
    exact absurd rfl hfailure
  · split at h
    · cases h
    · rename_i hparts
      simp only [Bool.not_eq_true', Bool.not_eq_false, Bool.and_eq_true, List.isEmpty_iff] at hparts
      obtain ⟨rfl, rfl⟩ := hparts
      split at h
      · rename_i hlong
        cases h
        have hzero : whole ≠ ['0'] := by
          rintro rfl
          exact absurd hlong (by decide)
        obtain ⟨hstops, hhead⟩ := stops_of_wholeDigits hwhole hzero
        rw [List.nil_append] at hcut
        subst hcut
        exact ⟨whole, afterWhole, rfl, ⟨hdigits, hhead, hlong,
          not_continuesNumber hstops (by rw [hfraction]) (by rw [hexponent])⟩, rfl⟩
      · cases h

/-! ### Limits -/

/-- A text that exceeds a limit right where a value is due, with so many levels of containers left:
it opens a container where none may be nested, or it has an integer with too many digits. -/
inductive Exceeds : Nat → List Char → Failure → Prop
  | array {cs : List Char} : Exceeds 0 ('[' :: cs) (.tooDeep .array)
  | object {cs : List Char} : Exceeds 0 ('{' :: cs) (.tooDeep .object)
  | integer {levels : Nat} {sign digits rest : List Char} (hsign : sign = [] ∨ sign = ['-'])
      (h : LongInteger digits rest) :
      Exceeds levels (sign ++ (digits ++ rest)) (.longInteger digits.length)

theorem exceeds_of_scalar (hfailure : failure ≠ .malformed) (h : scalar cs = .error failure) :
    Exceeds levels cs failure := by
  unfold scalar at h
  split at h
  · rename_i cs
    unfold stringBody at h
    split at h
    · cases h
      exact absurd rfl hfailure
    · cases h
  · split at h
    · cases h
    · unfold number at h
      split at h
      · obtain ⟨digits, rest, rfl, hlong, rfl⟩ := LongInteger.of_unsignedNumber hfailure h
        exact show Exceeds levels (['-'] ++ (digits ++ rest)) _ from .integer (.inr rfl) hlong
      · obtain ⟨digits, rest, rfl, hlong, rfl⟩ := LongInteger.of_unsignedNumber hfailure h
        exact show Exceeds levels ([] ++ (digits ++ rest)) _ from .integer (.inl rfl) hlong

/-! ### What the reader fails on -/

variable {item : Read Json}

theorem done_of_items (hitem : Sound levels item .value) (hfailure : failure ≠ .malformed)
    (rounds : Nat) (h : items item rounds cs = .error failure) :
    ∃ done rest, cs = done ++ rest ∧ Done (IsItem levels) done ∧ item rest = .error failure := by
  induction rounds generalizing cs with
  | zero => exact absurd (Except.error.inj h).symm hfailure
  | succ rounds ih =>
    rw [items, bind_eq_error] at h
    rcases h with hv | ⟨⟨v, after⟩, hv, h⟩
    · exact ⟨[], cs, rfl, .nil, hv⟩
    · obtain ⟨used, rfl, hused⟩ := hitem _ _ _ hv
      obtain ⟨s, hs, hafter⟩ := exists_spaces after
      simp only at h
      split at h
      · cases h
      · rename_i rest' hskip
        rw [bind_eq_error] at h
        rcases h with hmore | ⟨_, -, hok⟩
        · obtain ⟨done, rest, hdone, hitems, hrest⟩ := ih hmore
          obtain ⟨s', hs', hrest'⟩ := exists_spaces rest'
          refine ⟨_, rest, ?_, .cons ⟨v, hused⟩ hs hs' hitems, hrest⟩
          rw [hafter, hskip, hrest', hdone]
          simp
        · cases hok
      · exact absurd (Except.error.inj h).symm hfailure

theorem stringBody_ne_error (hfailure : failure ≠ .malformed) : stringBody cs ≠ .error failure := by
  intro h
  unfold stringBody at h
  split at h
  · exact hfailure (Except.error.inj h).symm
  · cases h

theorem name_of_member (hfailure : failure ≠ .malformed) (h : member item cs = .error failure) :
    ∃ codes name s s' rest, cs = '"' :: (name ++ (s ++ ':' :: (s' ++ rest))) ∧
      StringBody codes name ∧ Spaces s ∧ Spaces s' ∧ item rest = .error failure := by
  unfold member at h
  split at h
  · rw [bind_eq_error] at h
    rcases h with hbody | ⟨⟨text, after⟩, hbody, h⟩
    · exact absurd hbody (stringBody_ne_error hfailure)
    · obtain ⟨codes, name, rfl, rfl, hname⟩ := stringBody_eq_ok_iff.mp hbody
      obtain ⟨s, hs, hafter⟩ := exists_spaces after
      simp only at h
      split at h
      · rename_i rest' hskip
        obtain ⟨s', hs', hrest'⟩ := exists_spaces rest'
        rw [bind_eq_error] at h
        rcases h with hv | ⟨_, -, hok⟩
        · exact ⟨codes, name, s, s', _, by rw [hafter, hskip, ← hrest'], hname, hs, hs', hv⟩
        · cases hok
      · exact absurd (Except.error.inj h).symm hfailure
  · exact absurd (Except.error.inj h).symm hfailure

theorem done_of_members (hitem : Sound levels item .value) (hfailure : failure ≠ .malformed)
    (rounds : Nat) (h : members item rounds cs = .error failure) :
    ∃ done rest, cs = done ++ rest ∧ Done (IsMember levels) done ∧
      member item rest = .error failure := by
  induction rounds generalizing cs with
  | zero => exact absurd (Except.error.inj h).symm hfailure
  | succ rounds ih =>
    rw [members, bind_eq_error] at h
    rcases h with hm | ⟨⟨m, after⟩, hm, h⟩
    · exact ⟨[], cs, rfl, .nil, hm⟩
    · obtain ⟨used, rfl, hused⟩ := sound_member hitem _ _ _ hm
      obtain ⟨s, hs, hafter⟩ := exists_spaces after
      simp only at h
      split at h
      · cases h
      · rename_i rest' hskip
        rw [bind_eq_error] at h
        rcases h with hmore | ⟨_, -, hok⟩
        · obtain ⟨done, rest, hdone, hmembers, hrest⟩ := ih hmore
          obtain ⟨s', hs', hrest'⟩ := exists_spaces rest'
          refine ⟨_, rest, ?_, .cons ⟨m, hused⟩ hs hs' hmembers, hrest⟩
          rw [hafter, hskip, hrest', hdone]
          simp
        · cases hok
      · exact absurd (Except.error.inj h).symm hfailure

/-- **Where the reader fails.** By induction on the levels: a failure inside a container comes from
the value that is due behind the elements that are complete. -/
theorem front_of_value (levels : Nat) (hfailure : failure ≠ .malformed)
    (h : value levels cs = .error failure) :
    ∃ left front rest,
      cs = front ++ rest ∧ Front levels left front ∧ Exceeds left rest failure := by
  induction levels generalizing cs with
  | zero =>
    refine ⟨0, [], cs, rfl, .here, ?_⟩
    rw [value] at h
    unfold innermost at h
    split at h
    · cases h
      exact .array
    · cases h
      exact .object
    · exact exceeds_of_scalar hfailure h
  | succ levels ih =>
    rw [value] at h
    unfold valueOf at h
    split at h
    · rename_i cs
      obtain ⟨s, hs, hcs⟩ := exists_spaces cs
      split at h
      · cases h
      · rw [bind_eq_error] at h
        rcases h with hitems | ⟨_, -, hok⟩
        · obtain ⟨done, after, hdone, hitemsdone, hafter⟩ :=
            done_of_items (spelled_of_value levels) hfailure _ hitems
          obtain ⟨left, front, rest, rfl, hfront, hexceeds⟩ := ih hafter
          refine ⟨left, _, rest, ?_, .array hs hitemsdone hfront, hexceeds⟩
          rw [hcs, hdone]
          simp
        · cases hok
    · rename_i cs
      obtain ⟨s, hs, hcs⟩ := exists_spaces cs
      split at h
      · cases h
      · rw [bind_eq_error] at h
        rcases h with hmembers | ⟨_, -, hok⟩
        · obtain ⟨done, after, hdone, hmembersdone, hafter⟩ :=
            done_of_members (spelled_of_value levels) hfailure _ hmembers
          obtain ⟨codes, name, s', s'', due, rfl, hname, hs', hs'', hdue⟩ :=
            name_of_member hfailure hafter
          obtain ⟨left, front, rest, rfl, hfront, hexceeds⟩ := ih hdue
          refine ⟨left, _, rest, ?_, .object hs hmembersdone hname hs' hs'' hfront, hexceeds⟩
          rw [hcs, hdone]
          simp
        · cases hok
    · exact ⟨levels + 1, [], cs, rfl, .here, exceeds_of_scalar hfailure h⟩

/-! ### What makes the reader fail -/

theorem not_mem_delimiters_of_isDigit (h : isDigit c = true) : c ∉ delimiters := fun hc =>
  not_mem_structural_of_isNumberChar (isNumberChar_of_isDigit h) (List.mem_append_left _ hc)

theorem Exceeds.begins (h : Exceeds left rest failure) : Begins rest := by
  cases h with
  | array => exact ⟨'[', _, rfl, by decide⟩
  | object => exact ⟨'{', _, rfl, by decide⟩
  | @integer _ sign digits rest hsign h =>
    obtain ⟨d, ds, rfl⟩ := List.exists_cons_of_ne_nil h.ne_nil
    have hd : d ∉ delimiters :=
      not_mem_delimiters_of_isDigit (h.isNumeral d (List.mem_cons_self ..))
    rcases hsign with rfl | rfl
    · exact ⟨d, _, rfl, hd⟩
    · exact ⟨'-', _, rfl, by decide⟩

theorem Front.begins (h : Front levels left front) (hrest : Begins rest) :
    Begins (front ++ rest) := by
  cases h with
  | here => exact hrest
  | array _ _ _ => exact ⟨'[', _, rfl, by decide⟩
  | object _ _ _ _ _ _ => exact ⟨'{', _, rfl, by decide⟩

theorem Done.begins {element : List Char → Prop} {done : List Char} (h : Done element done)
    (helement : ∀ used, element used → Begins used) (hrest : Begins rest) :
    Begins (done ++ rest) := by
  cases h with
  | nil => exact hrest
  | cons h _ _ _ =>
    rw [List.append_assoc]
    exact (helement _ h).append _

theorem IsItem.begins {used : List Char} (h : IsItem levels used) : Begins used := by
  obtain ⟨v, hv⟩ := h
  exact hv.begins

theorem IsMember.begins {used : List Char} (h : IsMember levels used) : Begins used := by
  obtain ⟨m, hm⟩ := h
  exact hm.begins

theorem Exceeds.value_eq (h : Exceeds left rest failure) : value left rest = .error failure := by
  cases h with
  | array => rfl
  | object => rfl
  | @integer _ sign digits rest hsign h =>
    obtain ⟨d, ds, rfl⟩ := List.exists_cons_of_ne_nil h.ne_nil
    have hd : isDigit d = true := h.isNumeral d (List.mem_cons_self ..)
    have hopener : ∀ c ∈ (sign ++ (d :: ds ++ rest)).head?, c ≠ '[' ∧ c ≠ '{' := by
      rcases hsign with rfl | rfl
      · rintro c ⟨⟩
        exact ⟨fun heq => absurd hd (heq ▸ by decide), fun heq => absurd hd (heq ▸ by decide)⟩
      · rintro c ⟨⟩
        decide
    rw [value_eq_scalar hopener, List.cons_append, scalar_eq_unsignedNumber hd _ hsign,
      ← List.cons_append]
    exact h.unsignedNumber_eq

/-- Elements that are complete do not hide a failure behind them. -/
theorem Done.items_eq {done : List Char} (h : Done (IsItem levels) done) {rounds : Nat}
    (hrest : Begins rest) (hitem : value levels rest = .error failure)
    (hrounds : (done ++ rest).length ≤ rounds) :
    items (value levels) rounds (done ++ rest) = .error failure := by
  induction h generalizing rounds with
  | nil =>
    obtain ⟨c, more, rfl, -⟩ := hrest
    obtain ⟨rounds, rfl⟩ := Nat.exists_eq_add_of_lt hrounds
    rw [List.nil_append, items, hitem, error_bind]
  | @cons used s s' more h hs hs' hmore ih =>
    obtain ⟨v, hv⟩ := h
    simp only [List.append_assoc, List.cons_append, List.length_append, List.length_cons]
      at hrounds ih ⊢
    obtain ⟨rounds, rfl⟩ := Nat.exists_eq_add_one_of_ne_zero (n := rounds) (by omega)
    rw [items_comma (hv.readBack _ (hs.ends (by decide))) hs hs'
      (hmore.begins (fun _ => IsItem.begins) hrest), ih (by omega)]
    rfl

theorem Done.members_eq {done : List Char} (h : Done (IsMember levels) done) {rounds : Nat}
    (hrest : Begins rest) (hmember : member (value levels) rest = .error failure)
    (hrounds : (done ++ rest).length ≤ rounds) :
    members (value levels) rounds (done ++ rest) = .error failure := by
  induction h generalizing rounds with
  | nil =>
    obtain ⟨c, more, rfl, -⟩ := hrest
    obtain ⟨rounds, rfl⟩ := Nat.exists_eq_add_of_lt hrounds
    rw [List.nil_append, members, hmember, error_bind]
  | @cons used s s' more h hs hs' hmore ih =>
    obtain ⟨m, hm⟩ := h
    simp only [List.append_assoc, List.cons_append, List.length_append, List.length_cons]
      at hrounds ih ⊢
    obtain ⟨rounds, rfl⟩ := Nat.exists_eq_add_one_of_ne_zero (n := rounds) (by omega)
    rw [members_comma (hm.readBack _ (hs.ends (by decide))) hs hs'
      (hmore.begins (fun _ => IsMember.begins) hrest), ih (by omega)]
    rfl

theorem Front.value_eq (h : Front levels left front) (hrest : Exceeds left rest failure) :
    value levels (front ++ rest) = .error failure := by
  induction h with
  | here => exact hrest.value_eq
  | @array levels left s done front hs hdone h ih =>
    have hbegins : Begins (front ++ rest) := h.begins hrest.begins
    rw [List.cons_append, List.append_assoc, List.append_assoc,
      value_bracket hs (hdone.begins (fun _ => IsItem.begins) hbegins),
      hdone.items_eq hbegins (ih hrest) (Nat.le_refl _)]
    rfl
  | @object levels left codes s done name s' s'' front hs hdone hname hs' hs'' h ih =>
    have hbegins : Begins (front ++ rest) := h.begins hrest.begins
    have hmember :
        member (value levels) ('"' :: (name ++ (s' ++ ':' :: (s'' ++ (front ++ rest))))) =
        .error failure := by
      rw [member_colon hname hs' hs'' hbegins, ih hrest]
      rfl
    have hquote : Begins ('"' :: (name ++ (s' ++ ':' :: (s'' ++ (front ++ rest))))) :=
      ⟨'"', _, rfl, by decide⟩
    have hcut : '{' :: (s ++ (done ++ '"' :: (name ++ (s' ++ ':' :: (s'' ++ front))))) ++ rest =
        '{' :: (s ++ (done ++ '"' :: (name ++ (s' ++ ':' :: (s'' ++ (front ++ rest)))))) := by
      simp
    rw [hcut, value_brace hs (hdone.begins (fun _ => IsMember.begins) hquote),
      hdone.members_eq hquote hmember (Nat.le_refl _)]
    rfl

/-! ### Texts that exceed a limit -/

variable [Capacity]

/-- A text that exceeds a limit, at a place up to which it is the beginning of a text of JSON. How
many containers may be nested is up to the capacity of the reader. -/
def Overruns (cs : List Char) (failure : Failure) : Prop :=
  ∃ left front rest, cs = front ++ rest ∧ Front maxNesting left front ∧ Exceeds left rest failure

/-- **When the reader fails.** A text that is not malformed is read, unless it exceeds a limit. -/
theorem value_eq_error_iff (hfailure : failure ≠ .malformed) :
    value maxNesting cs = .error failure ↔ Overruns cs failure := by
  constructor
  · exact front_of_value maxNesting hfailure
  · rintro ⟨left, front, rest, rfl, hfront, hrest⟩
    exact hfront.value_eq hrest

theorem decode_eq_error_iff {text : String} (hfailure : failure ≠ .malformed) :
    decode text = .error failure ↔ Overruns (skipSpaces text.toList) failure := by
  rw [decode, bind_eq_error, ← value_eq_error_iff hfailure]
  refine or_iff_left ?_
  rintro ⟨read, -, h⟩
  simp only at h
  split at h
  · cases h
  · exact hfailure (Except.error.inj h).symm

/-! ### Texts that exceed none -/

/-- A text in which no numeral is too long, and which does not open more containers than may be
nested. -/
structure Modest (cs : List Char) : Prop where
  length_le : ∀ digits, digits <:+: cs → (∀ c ∈ digits, isDigit c = true) →
    digits.length ≤ Text.maxDigits
  countP_le : cs.countP (· ∈ openers) ≤ maxNesting

theorem Modest.of_isSuffix {more : List Char} (h : Modest cs) (hmore : more <:+ cs) :
    Modest more where
  length_le digits hdigits := h.length_le digits (hdigits.trans hmore.isInfix)
  countP_le := (hmore.sublist.countP_le).trans h.countP_le

omit [Capacity] in
/-- The levels that are not left are those that were opened. -/
theorem Front.le_countP (h : Front levels left front) :
    levels ≤ left + front.countP (· ∈ openers) := by
  induction h with
  | here => exact Nat.le_add_right _ _
  | array _ _ _ ih =>
    rw [List.countP_cons_of_pos (by decide)]
    simp only [List.countP_append]
    omega
  | object _ _ _ _ _ _ ih =>
    rw [List.countP_cons_of_pos (by decide)]
    simp only [List.countP_append, List.countP_cons]
    omega

theorem Exceeds.not_modest (h : Exceeds left rest failure) (hfront : Front maxNesting left front) :
    ¬ Modest (front ++ rest) := by
  intro hmodest
  have hopened := hfront.le_countP
  have hcount := hmodest.countP_le
  rw [List.countP_append] at hcount
  cases h with
  | array =>
    rw [List.countP_cons_of_pos (by decide)] at hcount
    omega
  | object =>
    rw [List.countP_cons_of_pos (by decide)] at hcount
    omega
  | @integer _ sign digits rest hsign hlong =>
    have hinfix : digits <:+: front ++ (sign ++ (digits ++ rest)) :=
      ⟨front ++ sign, rest, by simp only [List.append_assoc]⟩
    exact Nat.not_lt.mpr (hmodest.length_le digits hinfix hlong.isNumeral) hlong.long

/-- A modest text exceeds no limit, so it is either read or malformed. -/
theorem Modest.not_overruns (h : Modest cs) : ¬ Overruns cs failure := by
  rintro ⟨left, front, rest, rfl, hfront, hrest⟩
  exact hrest.not_modest hfront h

end Json

end BuildDescriptor
