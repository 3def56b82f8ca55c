import BuildDescriptor.Proofs.Path.Characters
import Mathlib.Data.List.Basic
import Mathlib.Data.List.Induction

/-!
# Normal forms

A normal form is a dot, or it shows a root and names, or it climbs some levels from where it starts
and shows names from there on. Climbing comes first because a component `..` takes the name in front
of it away, and it does not come below a root because there is nothing above.

The normal form of a text is made in one pass, and the laws about it are laws about the stack of
components. All of them rest on one fact: the components that are left can stand for those that were
read. Whatever is on the stack, pushing the former comes to the same as pushing the latter. This
needs that both know as much about the root. Below a root a leading `..` is dropped, and with
something else on the stack it would not have been.

## Main definitions

* `Path.NormalForm` — the normal forms
* `Path.rootSlashes`, `Path.spelled`, `Path.simplify` — the parts of which a normal form is made

## Main results

* `Path.normalForm_normalize`
* `Path.foldl_push_normalize` — the components that are left stand for those that were read
* `Path.normalize_normalize`
* `Path.normalize_join_normalize` — simplifying the second of two texts beforehand
-/

namespace BuildDescriptor

namespace Path

variable {s t dir : String} {part : String} {stack stack' parts : List String} {rooted : Bool}

/-! ### Forms -/

/-- A component that is the name of something. -/
structure IsName (name : String) : Prop where
  ne_empty : name ≠ ""
  ne_dot : name ≠ "."
  ne_climb : name ≠ ".."
  noSlash : '/' ∉ name.toList

/-- The text with so many slashes and then these components. -/
def spelled (slashes : Nat) (parts : List String) : String :=
  String.ofList (List.replicate slashes '/') ++ "/".intercalate parts

/-- The normal forms of paths. -/
inductive NormalForm : String → Prop
  | here : NormalForm "."
  | rooted {slashes : Nat} {names : List String} (hslashes : slashes = 1 ∨ slashes = 2)
      (hnames : ∀ name ∈ names, IsName name) : NormalForm (spelled slashes names)
  | relative {climbs : Nat} {names : List String} (hnames : ∀ name ∈ names, IsName name)
      (hne : climbs ≠ 0 ∨ names ≠ []) :
      NormalForm (spelled 0 (List.replicate climbs ".." ++ names))

/-- The number of slashes that the normal form of a text begins with. -/
def rootSlashes (s : String) : Nat := leadingSlashes (s.toList.takeWhile (· = '/')).length

/-- The components that are left of some. -/
def simplify (rooted : Bool) (parts : List String) : List String :=
  (parts.foldl (push rooted) []).reverse

/-- A text, or a dot for the empty one. -/
def orDot (text : String) : String := if text = "" then "." else text

theorem normalize_eq (s : String) :
    normalize s =
      orDot (spelled (rootSlashes s) (simplify (rootSlashes s ≠ 0) (Text.splitAt '/' s))) := rfl

/-! ### One component -/

/-- What pushing a component does to a stack. -/
inductive Pushed (rooted : Bool) : List String → String → List String → Prop
  | skipped {stack : List String} {part : String} (h : part = "" ∨ part = ".") :
      Pushed rooted stack part stack
  | atRoot (h : rooted = true) : Pushed rooted [] ".." []
  | climbed {stack : List String} (h : rooted = false ∧ stack = [] ∨ stack.head? = some "..") :
      Pushed rooted stack ".." (".." :: stack)
  | left {top : String} {below : List String} (h : top ≠ "..") :
      Pushed rooted (top :: below) ".." below
  | entered {stack : List String} {part : String} (hempty : part ≠ "") (hdot : part ≠ ".")
      (hclimb : part ≠ "..") : Pushed rooted stack part (part :: stack)

theorem pushed_push (rooted : Bool) (stack : List String) (part : String) :
    Pushed rooted stack part (push rooted stack part) := by
  unfold push
  split
  · rename_i hskip
    exact .skipped (by simpa using hskip)
  · rename_i hskip
    obtain ⟨hempty, hdot⟩ : part ≠ "" ∧ part ≠ "." := by simpa using hskip
    split
    · rename_i hclimb
      subst hclimb
      cases stack with
      | nil =>
        cases rooted with
        | true => exact .atRoot rfl
        | false => exact .climbed (.inl ⟨rfl, rfl⟩)
      | cons top below =>
        by_cases htop : top = ".."
        · subst htop
          exact .climbed (.inr rfl)
        · simp only [if_neg htop]
          exact .left htop
    · exact .entered hempty hdot ‹_›

theorem push_of_skipped (h : part = "" ∨ part = ".") : push rooted stack part = stack := by
  rcases h with rfl | rfl <;> rfl

theorem push_of_name (hempty : part ≠ "") (hdot : part ≠ ".") (hclimb : part ≠ "..") :
    push rooted stack part = part :: stack := by
  simp [push, hempty, hdot, hclimb]

theorem push_climb_of_ne {top : String} (h : top ≠ "..") :
    push rooted (top :: stack) ".." = stack := by
  simp [push, h]

/-! ### The components that are left -/

/-- A stack on which names stand above components that climb, and under a root nothing climbs. -/
inductive Tidy (rooted : Bool) : List String → Prop
  | climbs {stack : List String} (hclimbs : ∀ part ∈ stack, part = "..")
      (hroot : rooted = true → stack = []) : Tidy rooted stack
  | name {part : String} {stack : List String} (hname : IsName part) (h : Tidy rooted stack) :
      Tidy rooted (part :: stack)

theorem Tidy.nil : Tidy rooted [] := .climbs (by simp) fun _ => rfl

theorem Tidy.ne (h : Tidy rooted stack) : ∀ part ∈ stack, part ≠ "" ∧ part ≠ "." := by
  induction h with
  | climbs hclimbs _ =>
    intro part hpart
    rw [hclimbs part hpart]
    decide
  | name hname _ ih => exact List.forall_mem_cons.mpr ⟨⟨hname.ne_empty, hname.ne_dot⟩, ih⟩

theorem Tidy.of_pushed (h : Tidy rooted stack) (hpush : Pushed rooted stack part stack')
    (hslash : '/' ∉ part.toList) : Tidy rooted stack' := by
  cases hpush with
  | skipped _ => exact h
  | atRoot _ => exact h
  | climbed htop =>
    cases h with
    | climbs hclimbs hroot =>
      refine .climbs (List.forall_mem_cons.mpr ⟨rfl, hclimbs⟩) fun hrooted => ?_
      -- below a root the stack would be empty, and then the component would be dropped
      rcases htop with ⟨hrelative, -⟩ | htop
      · rw [hrooted] at hrelative
        cases hrelative
      · rw [hroot hrooted] at htop
        cases htop
    | name hname _ =>
      rcases htop with ⟨-, hnil⟩ | htop
      · cases hnil
      · exact absurd (Option.some.inj htop) hname.ne_climb
  | left htop =>
    cases h with
    | climbs hclimbs _ => exact absurd (hclimbs _ (List.mem_cons_self ..)) htop
    | name _ h => exact h
  | entered hempty hdot hclimb => exact .name ⟨hempty, hdot, hclimb, hslash⟩ h

theorem tidy_foldl_push (h : Tidy rooted stack) (hslash : ∀ part ∈ parts, '/' ∉ part.toList) :
    Tidy rooted (parts.foldl (push rooted) stack) := by
  induction parts generalizing stack with
  | nil => exact h
  | cons part parts ih =>
    rw [List.forall_mem_cons] at hslash
    exact ih (h.of_pushed (pushed_push rooted stack part) hslash.1) hslash.2

theorem Tidy.exists_reverse (h : Tidy rooted stack) :
    ∃ climbs names, stack.reverse = List.replicate climbs ".." ++ names ∧
      (∀ name ∈ names, IsName name) ∧ (rooted = true → climbs = 0) := by
  induction h with
  | @climbs stack hclimbs hroot =>
    refine ⟨stack.length, [], ?_, by simp, fun hrooted => by simp [hroot hrooted]⟩
    rw [List.append_nil, List.eq_replicate_iff]
    exact ⟨List.length_reverse, fun part hpart => hclimbs part (List.mem_reverse.mp hpart)⟩
  | @name part stack hname _ ih =>
    obtain ⟨climbs, names, hreverse, hnames, hroot⟩ := ih
    refine ⟨climbs, names ++ [part], ?_, ?_, hroot⟩
    · rw [List.reverse_cons, hreverse, List.append_assoc]
    · exact List.forall_mem_append.mpr ⟨hnames, List.forall_mem_singleton.mpr hname⟩

theorem exists_simplify_splitAt (rooted : Bool) (s : String) :
    ∃ climbs names, simplify rooted (Text.splitAt '/' s) = List.replicate climbs ".." ++ names ∧
      (∀ name ∈ names, IsName name) ∧ (rooted = true → climbs = 0) :=
  (tidy_foldl_push .nil fun _ => Text.not_mem_of_mem_splitAt).exists_reverse

/-! ### Simplifying beforehand -/

/-- What a step does to the stack of components that are left, pushing them does to another one. -/
theorem foldl_push_reverse_of_pushed {rooted' : Bool} {left left' : List String}
    (h : rooted' = true → rooted = true ∧ stack = [])
    (hleft : ∀ part ∈ left, part ≠ "" ∧ part ≠ ".") (hpush : Pushed rooted' left part left') :
    left'.reverse.foldl (push rooted) stack =
      push rooted (left.reverse.foldl (push rooted) stack) part := by
  cases hpush with
  | skipped hskip => rw [push_of_skipped hskip]
  | atRoot hroot =>
    obtain ⟨rfl, rfl⟩ := h hroot
    rfl
  | climbed _ => rw [List.reverse_cons, List.foldl_concat]
  | left htop =>
    -- the component on top was pushed last, so pushing `..` takes it away again
    obtain ⟨hempty, hdot⟩ := hleft _ (List.mem_cons_self ..)
    rw [List.reverse_cons, List.foldl_concat, push_of_name hempty hdot htop, push_climb_of_ne htop]
  | entered _ _ _ => rw [List.reverse_cons, List.foldl_concat]

/-- **The components that are left stand for those that were read**, whatever they are pushed on, as
long as both know as much about the root. By induction from the last component. -/
theorem foldl_push_simplify {rooted' : Bool} (h : rooted' = true → rooted = true ∧ stack = [])
    (hslash : ∀ part ∈ parts, '/' ∉ part.toList) :
    (simplify rooted' parts).foldl (push rooted) stack = parts.foldl (push rooted) stack := by
  induction parts using List.reverseRecOn with
  | nil => rfl
  | append_singleton parts part ih =>
    have hbefore : ∀ part ∈ parts, '/' ∉ part.toList :=
      fun part hpart => hslash part (List.mem_append_left _ hpart)
    have htidy : Tidy rooted' (parts.foldl (push rooted') []) :=
      tidy_foldl_push .nil hbefore
    rw [simplify, List.foldl_concat, List.foldl_concat, ← ih hbefore]
    exact foldl_push_reverse_of_pushed h htidy.ne (pushed_push rooted' _ part)

/-! ### Slashes in front -/

theorem leadingSlashes_cases (n : Nat) :
    n = 0 ∧ leadingSlashes n = 0 ∨
      n ≠ 0 ∧ (n ≠ 2 ∧ leadingSlashes n = 1 ∨ n = 2 ∧ leadingSlashes n = 2) := by
  unfold leadingSlashes
  split <;> omega

theorem rootSlashes_le_two (s : String) : rootSlashes s ≤ 2 := by
  have := leadingSlashes_cases (s.toList.takeWhile (· = '/')).length
  unfold rootSlashes
  omega

theorem rootSlashes_ne_zero_iff : rootSlashes s ≠ 0 ↔ s.toList.head? = some '/' := by
  have hzero : rootSlashes s = 0 ↔ (s.toList.takeWhile (· = '/')).length = 0 := by
    have := leadingSlashes_cases (s.toList.takeWhile (· = '/')).length
    unfold rootSlashes
    omega
  rw [Ne, hzero]
  cases s.toList with
  | nil => simp
  | cons c cs => by_cases hc : c = '/' <;> simp [hc]

theorem takeWhile_eq_nil {cs : List Char} (h : cs.head? ≠ some '/') :
    cs.takeWhile (· = '/') = [] := by
  cases cs with
  | nil => rfl
  | cons c cs => exact List.takeWhile_cons_of_neg (by simpa using h)

theorem head?_intercalate_ne (h : ∀ part ∈ parts, part ≠ "" ∧ '/' ∉ part.toList) :
    ("/".intercalate parts).toList.head? ≠ some '/' := by
  cases parts with
  | nil => simp
  | cons part rest =>
    obtain ⟨hne, hslash⟩ := h part (List.mem_cons_self ..)
    obtain ⟨c, cs, hpart⟩ := List.exists_cons_of_ne_nil (mt String.toList_eq_nil_iff.mp hne)
    have hc : c ≠ '/' := by
      rintro rfl
      exact hslash (hpart ▸ List.mem_cons_self ..)
    rw [String.toList_intercalate, List.map_cons, hpart]
    cases rest <;> simp [hc, List.intercalate_cons_cons]

theorem rootSlashes_spelled {slashes : Nat} (hslashes : slashes ≤ 2)
    (h : ∀ part ∈ parts, part ≠ "" ∧ '/' ∉ part.toList) :
    rootSlashes (spelled slashes parts) = slashes := by
  have hrest : ("/".intercalate parts).toList.takeWhile (· = '/') = [] :=
    takeWhile_eq_nil (head?_intercalate_ne h)
  have htake : (spelled slashes parts).toList.takeWhile (· = '/') = List.replicate slashes '/' := by
    rw [spelled, String.toList_append, String.toList_ofList,
      List.takeWhile_append_of_pos (by simp), hrest, List.append_nil]
  rw [rootSlashes, htake, List.length_replicate]
  have := leadingSlashes_cases slashes
  omega

/-! ### Reading a form again -/

theorem spelled_succ (slashes : Nat) (parts : List String) :
    spelled (slashes + 1) parts = "" ++ "/" ++ spelled slashes parts := by
  rw [← String.toList_inj]
  simp [spelled, List.replicate_succ]

theorem foldl_push_splitAt_spelled (slashes : Nat) (hslash : ∀ part ∈ parts, '/' ∉ part.toList) :
    (Text.splitAt '/' (spelled slashes parts)).foldl (push rooted) stack =
      parts.foldl (push rooted) stack := by
  induction slashes with
  | zero =>
    have hspelled : spelled 0 parts = "/".intercalate parts := by simp [spelled]
    rw [hspelled]
    cases parts with
    | nil => rfl
    | cons part rest => rw [Text.splitAt_intercalate rfl (List.cons_ne_nil part rest) hslash]
  | succ slashes ih =>
    rw [spelled_succ, Text.splitAt_append rfl, List.foldl_append]
    exact ih

theorem foldl_push_splitAt_orDot (text : String) :
    (Text.splitAt '/' (orDot text)).foldl (push rooted) stack =
      (Text.splitAt '/' text).foldl (push rooted) stack := by
  unfold orDot
  split
  · rename_i hempty
    rw [hempty]
    rfl
  · rfl

theorem rootSlashes_orDot (text : String) : rootSlashes (orDot text) = rootSlashes text := by
  unfold orDot
  split
  · rename_i hempty
    rw [hempty]
    rfl
  · rfl

theorem part_of_mem_simplify (h : part ∈ simplify rooted (Text.splitAt '/' s)) :
    part ≠ "" ∧ '/' ∉ part.toList := by
  obtain ⟨climbs, names, hparts, hnames, -⟩ := exists_simplify_splitAt rooted s
  rw [hparts, List.mem_append] at h
  rcases h with h | h
  · rw [List.eq_of_mem_replicate h]
    decide
  · exact ⟨(hnames part h).ne_empty, (hnames part h).noSlash⟩

/-- A normal form is one. -/
theorem normalForm_normalize (s : String) : NormalForm (normalize s) := by
  rw [normalize_eq]
  obtain ⟨climbs, names, hparts, hnames, hroot⟩ := exists_simplify_splitAt (rootSlashes s ≠ 0) s
  rw [hparts, orDot]
  split
  · exact .here
  · rename_i hne
    by_cases hzero : rootSlashes s = 0
    · rw [hzero] at hne ⊢
      refine .relative hnames ?_
      by_contra hnil
      rw [not_or, not_not, not_not] at hnil
      rw [hnil.1, hnil.2] at hne
      exact hne rfl
    · have hle : rootSlashes s ≤ 2 := rootSlashes_le_two s
      rw [hroot (decide_eq_true hzero)]
      exact .rooted (by omega) hnames

theorem rootSlashes_normalize (s : String) : rootSlashes (normalize s) = rootSlashes s := by
  rw [normalize_eq, rootSlashes_orDot]
  exact rootSlashes_spelled (rootSlashes_le_two s) fun _ => part_of_mem_simplify

/-- The components of a normal form stand for those of the text. -/
theorem foldl_push_normalize (h : rootSlashes s ≠ 0 → rooted = true ∧ stack = []) :
    (Text.splitAt '/' (normalize s)).foldl (push rooted) stack =
      (Text.splitAt '/' s).foldl (push rooted) stack := by
  rw [normalize_eq, foldl_push_splitAt_orDot,
    foldl_push_splitAt_spelled _ fun _ hpart => (part_of_mem_simplify hpart).2]
  exact foldl_push_simplify (fun hroot => h (of_decide_eq_true hroot)) fun _ =>
    Text.not_mem_of_mem_splitAt

theorem normalize_normalize (s : String) : normalize (normalize s) = normalize s := by
  rw [normalize_eq (normalize s), rootSlashes_normalize, simplify,
    foldl_push_normalize fun hroot => ⟨decide_eq_true hroot, rfl⟩]
  rfl

/-! ### Two texts -/

theorem join_of_relative (h : t.toList.head? ≠ some '/') (dir : String) :
    dir = "" ∧ join dir t = t ∨
      (∃ above, dir = above ++ "/" ∧ join dir t = above ++ "/" ++ t) ∨
      (∃ above c, dir.toList = above ++ [c] ∧ c ≠ '/') ∧ join dir t = dir ++ "/" ++ t := by
  unfold join
  rw [if_neg h]
  by_cases hempty : dir = ""
  · exact .inl ⟨hempty, by simp [hempty]⟩
  obtain ⟨above, c, hdir⟩ := (List.eq_nil_or_concat' dir.toList).resolve_left
    (mt String.toList_eq_nil_iff.mp hempty)
  by_cases hc : c = '/'
  · subst hc
    have habove : dir = String.ofList above ++ "/" := by
      rw [← String.toList_inj]
      simp [hdir]
    exact .inr (.inl ⟨String.ofList above, habove, by simp [habove]⟩)
  · exact .inr (.inr ⟨⟨above, c, hdir, hc⟩, by simp [hempty, hdir, hc]⟩)

theorem takeWhile_append_of_eq_nil {p : Char → Bool} {ds : List Char} (h : ds.takeWhile p = [])
    (cs : List Char) : (cs ++ ds).takeWhile p = cs.takeWhile p := by
  induction cs with
  | nil => exact h
  | cons c cs ih => rw [List.cons_append, List.takeWhile_cons, List.takeWhile_cons, ih]

/-- The slashes in front are those of the first text, which is not all slashes if one is put in. -/
theorem rootSlashes_join (h : t.toList.head? ≠ some '/') (dir : String) :
    rootSlashes (join dir t) = rootSlashes dir := by
  rcases join_of_relative h dir with
    ⟨rfl, hjoin⟩ | ⟨above, rfl, hjoin⟩ | ⟨⟨above, c, hdir, hc⟩, hjoin⟩
  · rw [hjoin, rootSlashes, takeWhile_eq_nil h]
    rfl
  · rw [hjoin, rootSlashes, rootSlashes, String.toList_append,
      takeWhile_append_of_eq_nil (takeWhile_eq_nil h)]
  · have hend (ds : List Char) : (c :: ds).takeWhile (· = '/') = [] :=
      takeWhile_eq_nil (by simpa using hc)
    have hlist : (dir ++ "/" ++ t).toList = above ++ c :: '/' :: t.toList := by simp [hdir]
    rw [hjoin, rootSlashes, rootSlashes, hlist, hdir, takeWhile_append_of_eq_nil (hend _),
      takeWhile_append_of_eq_nil (hend _)]

theorem foldl_push_splitAt_join (h : t.toList.head? ≠ some '/') (dir : String) :
    (Text.splitAt '/' (join dir t)).foldl (push rooted) stack =
      (Text.splitAt '/' t).foldl (push rooted)
        ((Text.splitAt '/' dir).foldl (push rooted) stack) := by
  rcases join_of_relative h dir with ⟨rfl, hjoin⟩ | ⟨above, rfl, hjoin⟩ | ⟨-, hjoin⟩
  · rw [hjoin]
    rfl
  · have hdir : above ++ "/" = above ++ "/" ++ "" := by simp
    rw [hjoin, Text.splitAt_append rfl, List.foldl_append, hdir, Text.splitAt_append rfl,
      List.foldl_append]
    rfl
  · rw [hjoin, Text.splitAt_append rfl, List.foldl_append]

/-- **Simplifying beforehand.** What is seen from a directory may be put into normal form first. -/
theorem normalize_join_normalize (dir t : String) :
    normalize (join dir (normalize t)) = normalize (join dir t) := by
  by_cases h : t.toList.head? = some '/'
  · have hnormal : (normalize t).toList.head? = some '/' := by
      rwa [← rootSlashes_ne_zero_iff, rootSlashes_normalize, rootSlashes_ne_zero_iff]
    rw [join, if_pos hnormal, join, if_pos h, normalize_normalize]
  · have hnormal : (normalize t).toList.head? ≠ some '/' := by
      rwa [Ne, ← rootSlashes_ne_zero_iff, rootSlashes_normalize, rootSlashes_ne_zero_iff]
    rw [normalize_eq, normalize_eq (join dir t), rootSlashes_join hnormal, rootSlashes_join h,
      simplify, simplify, foldl_push_splitAt_join hnormal, foldl_push_splitAt_join h,
      foldl_push_normalize fun hroot => absurd (rootSlashes_ne_zero_iff.mp hroot) h]

end Path

end BuildDescriptor
