import BuildDescriptor.Xml.Element
import Mathlib.Data.List.Sort

/-!
# Document order

The *place* of an element is the list of the indices that lead to it: its own index among the
children of its parent comes last, and the index of an ancestor before it. Places are compared like
words in a dictionary, and an element whose place is smaller opens earlier in the document.

Values that are read off a document can be told by their places alone, without saying how the
document is walked: it is enough to know which value stands at which place. There is one list that
has just these values, in the order of their places. A value that stands at two places is in it
twice.

## Main definitions

* `Xml.InDocumentOrder` — values in the order of their places
* `Xml.LastCounts` — what the last of the values comes to

## Main results

* `Xml.InDocumentOrder.unique` — there is one such list
* `Xml.InDocumentOrder.flatMap` — the values below several trees, from the values below each
* `Xml.InDocumentOrder.items` — the values that are read off the children of certain elements
* `Xml.InDocumentOrder.lastCounts` — the last one in the list stands at the last place
-/

namespace BuildDescriptor

namespace Xml

variable {α : Type} {Stands Stands' : List Nat → α → Prop} {xs ys : List α}

/-- Values in the order of their places, given the values that stand at a place. -/
def InDocumentOrder (Stands : List Nat → α → Prop) (xs : List α) : Prop :=
  ∃ placed : List (List Nat × α), placed.map Prod.snd = xs ∧
    (placed.Pairwise fun a b => a.1 < b.1) ∧ ∀ place x, (place, x) ∈ placed ↔ Stands place x

/-- The value at the last of the places where one stands, or else an old value. -/
def LastCounts (Stands : List Nat → α → Prop) (old new : α) : Prop :=
  (∃ place, Stands place new ∧ ∀ place' x, Stands place' x → place' = place ∨ place' < place) ∨
    (∀ place x, ¬ Stands place x) ∧ new = old

namespace InDocumentOrder

theorem nodup_of_pairwise {placed : List (List Nat × α)}
    (h : placed.Pairwise fun a b => a.1 < b.1) : placed.Nodup := by
  refine List.nodup_iff_pairwise_ne.mpr (h.imp ?_)
  rintro a b hlt rfl
  exact List.lt_irrefl _ hlt

/-- Two lists that increase and have the same members are the same. -/
theorem unique (h : InDocumentOrder Stands xs) (h' : InDocumentOrder Stands ys) : xs = ys := by
  obtain ⟨placed, rfl, hsorted, hmem⟩ := h
  obtain ⟨placed', rfl, hsorted', hmem'⟩ := h'
  have hperm : placed.Perm placed' :=
    (List.perm_ext_iff_of_nodup (nodup_of_pairwise hsorted) (nodup_of_pairwise hsorted')).mpr
      fun a => (hmem a.1 a.2).trans (hmem' a.1 a.2).symm
  have heq : placed = placed' := by
    refine hperm.eq_of_pairwise (fun a b _ _ hab hba => ?_) hsorted hsorted'
    exact absurd (List.lt_trans hab hba) (List.lt_irrefl _)
  rw [heq]

theorem congr (h : InDocumentOrder Stands xs)
    (hstands : ∀ place x, Stands place x ↔ Stands' place x) : InDocumentOrder Stands' xs := by
  obtain ⟨placed, hmap, hsorted, hmem⟩ := h
  exact ⟨placed, hmap, hsorted, fun place x => (hmem place x).trans (hstands place x)⟩

theorem lastCounts (h : InDocumentOrder Stands xs) (old : α) :
    LastCounts Stands old (xs.getLast?.getD old) := by
  obtain ⟨placed, rfl, hsorted, hmem⟩ := h
  rcases List.eq_nil_or_concat' placed with rfl | ⟨front, ⟨place, x⟩, rfl⟩
  · exact .inr ⟨fun place x hx => List.not_mem_nil ((hmem place x).mpr hx), rfl⟩
  · have hlast : ((front ++ [(place, x)]).map Prod.snd).getLast?.getD old = x := by simp
    refine .inl ⟨place, ?_, fun place' y hy => ?_⟩
    · rw [hlast]
      exact (hmem place x).mp (by simp)
    · rcases List.mem_append.mp ((hmem place' y).mpr hy) with hfront | hend
      · exact .inr ((List.pairwise_append.mp hsorted).2.2 _ hfront _ (List.mem_singleton_self _))
      · cases List.mem_singleton.mp hend
        exact .inl rfl

/-! ### Making lists -/

theorem nil (h : ∀ place x, ¬ Stands place x) : InDocumentOrder Stands [] :=
  ⟨[], rfl, .nil, fun place x => by simp [h place x]⟩

/-- A value that an element may have itself. -/
theorem toList (found : Option α) :
    InDocumentOrder (fun place x => place = [] ∧ found = some x) found.toList := by
  cases found with
  | none => exact nil (by simp)
  | some x => exact ⟨[([], x)], rfl, List.pairwise_singleton _ _, by simp [eq_comm]⟩

theorem ite (b : Bool) (h : InDocumentOrder Stands xs) :
    InDocumentOrder (fun place x => b = true ∧ Stands place x) (if b then xs else []) := by
  cases b with
  | true => exact h.congr (by simp)
  | false => exact nil (by simp)

theorem pairwise_zipIdx {β : Type} (es : List β) (start : Nat) :
    (es.zipIdx start).Pairwise fun a b => a.2 < b.2 := by
  induction es generalizing start with
  | nil => exact .nil
  | cons e es ih =>
    rw [List.zipIdx_cons, List.pairwise_cons]
    exact ⟨fun b hb => List.le_snd_of_mem_zipIdx hb, ih (start + 1)⟩

/-- A value in front of all others, whose places are below that of the first one. -/
theorem cons (x : α) (h : InDocumentOrder Stands xs)
    (hne : ∀ place y, Stands place y → place ≠ []) :
    InDocumentOrder (fun place y => place = [] ∧ y = x ∨ Stands place y) (x :: xs) := by
  obtain ⟨placed, rfl, hsorted, hmem⟩ := h
  refine ⟨([], x) :: placed, rfl, List.pairwise_cons.mpr ⟨?_, hsorted⟩, fun place y => ?_⟩
  · intro a ha
    obtain ⟨i, rest, hplace⟩ := List.exists_cons_of_ne_nil (hne a.1 a.2 ((hmem _ _).mp ha))
    rw [hplace]
    exact List.nil_lt_cons i rest
  · rw [List.mem_cons, Prod.mk.injEq, hmem]

/-- The values below several trees. A place below one of them has the index of that tree in
front. -/
theorem flatMap {β : Type} {Below : β → List Nat → α → Prop} {f : β → List α} {ts : List β}
    (h : ∀ t ∈ ts, InDocumentOrder (Below t) (f t)) :
    InDocumentOrder
      (fun place x => ∃ i t rest, place = i :: rest ∧ ts[i]? = some t ∧ Below t rest x)
      (ts.flatMap f) := by
  choose! placed hmap hsorted hmem using h
  have hts {a : β × Nat} (ha : a ∈ ts.zipIdx) : a.1 ∈ ts := List.fst_mem_of_mem_zipIdx ha
  refine ⟨ts.zipIdx.flatMap fun (t, i) => (placed t).map fun a => (i :: a.1, a.2), ?_, ?_, ?_⟩
  · rw [List.map_flatMap]
    conv_rhs => rw [← List.zipIdx_map_fst 0 ts, List.flatMap_map]
    refine List.flatMap_congr fun a ha => ?_
    rw [List.map_map, ← hmap a.1 (hts ha)]
    rfl
  · rw [List.pairwise_flatMap]
    -- Below one tree the rest of the place decides, below different ones the first index does.
    refine ⟨fun a ha => ?_, (pairwise_zipIdx ts 0).imp fun hlt a ha b hb => ?_⟩
    · rw [List.pairwise_map]
      exact (hsorted a.1 (hts ha)).imp fun hlt => List.cons_lt_cons_iff.mpr (.inr ⟨rfl, hlt⟩)
    · obtain ⟨_, -, rfl⟩ := List.mem_map.mp ha
      obtain ⟨_, -, rfl⟩ := List.mem_map.mp hb
      exact List.cons_lt_cons_iff.mpr (.inl hlt)
  · intro place x
    simp only [List.mem_flatMap, List.mem_map, Prod.mk.injEq, Prod.exists,
      List.mem_zipIdx_iff_getElem?]
    constructor
    · rintro ⟨t, i, ht, rest, x, hx, rfl, rfl⟩
      exact ⟨i, t, rest, rfl, ht, (hmem t (List.mem_of_getElem? ht) rest x).mp hx⟩
    · rintro ⟨i, t, rest, rfl, ht, hx⟩
      exact ⟨t, i, ht, rest, x, (hmem t (List.mem_of_getElem? ht) rest x).mpr hx, rfl, rfl⟩

/-- The values that the elements have themselves. -/
theorem filterMap (f : Element → Option α) (es : List Element) :
    InDocumentOrder (fun place x => ∃ i e, place = [i] ∧ es[i]? = some e ∧ f e = some x)
      (es.filterMap f) := by
  rw [List.filterMap_eq_flatMap_toList]
  refine (flatMap fun e _ => toList (f e)).congr fun place x => ?_
  constructor
  · rintro ⟨i, e, rest, rfl, he, rfl, hx⟩
    exact ⟨i, e, rfl, he, hx⟩
  · rintro ⟨i, e, rfl, he, hx⟩
    exact ⟨i, e, [], rfl, he, rfl, hx⟩

/-- The values that the children of certain elements have themselves. -/
theorem items (lists : Element → Bool) (f : Element → Option α) (es : List Element) :
    InDocumentOrder
      (fun place x => ∃ i j e item, place = [i, j] ∧ es[i]? = some e ∧ lists e = true ∧
        e.children[j]? = some item ∧ f item = some x)
      (es.flatMap fun e => if lists e then e.children.filterMap f else []) := by
  refine (flatMap fun e _ => (filterMap f e.children).ite (lists e)).congr fun place x => ?_
  constructor
  · rintro ⟨i, e, rest, rfl, he, hlists, j, item, rfl, hitem, hx⟩
    exact ⟨i, j, e, item, rfl, he, hlists, hitem, hx⟩
  · rintro ⟨i, j, e, item, rfl, he, hlists, hitem, hx⟩
    exact ⟨i, e, [j], rfl, he, hlists, j, item, rfl, hitem, hx⟩

end InDocumentOrder

end Xml

end BuildDescriptor
