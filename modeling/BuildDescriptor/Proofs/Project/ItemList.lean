import BuildDescriptor.Project.ItemList
import BuildDescriptor.Proofs.Text.Trimming

/-!
# Lists with semicolons

A list can be written in many ways. There may be blanks around each item, and among the items there
may be entries that stand for nothing: blank ones, and markers for values from elsewhere. None of
this can be seen in the items that are read, and the items themselves are free of it: each has a
character, no blank at an end, no semicolon, and does not begin like a marker.

So reading a list normalises it. The items that come out are the shortest way to write the list, and
reading that gives them back. A text lists certain items exactly if it is one of the ways in which
these items can be written.

A marker has no semicolon either. A text such as `%(A;B)` is two entries, of which only the first
is a marker.

## Main definitions

* `Project.IsListItem` — what an item may look like
* `Project.Interspersed` — the entries of a list with certain items

## Main results

* `Project.splitList_eq_iff` — which texts list certain items
* `Project.splitList_normalizes`
-/

namespace BuildDescriptor

namespace Project

open Text (isBlankText)

variable {text item entry before after rest : String} {items entries : List String}

/-- What an item may look like. -/
structure IsListItem (item : String) : Prop where
  ne_empty : item ≠ ""
  isTrimmed : Text.IsTrimmed item.toList
  not_mem : ';' ∉ item.toList
  no_marker : ¬ "%(".toList <+: item.toList

/-- The entries of a list with certain items: the items in order, with blanks around them, and among
them entries that are blank and markers. -/
inductive Interspersed : List String → List String → Prop
  | nil : Interspersed [] []
  | item {before item after : String} {items entries : List String}
      (hbefore : isBlankText before = true) (hafter : isBlankText after = true)
      (h : Interspersed items entries) :
      Interspersed (item :: items) ((before ++ item ++ after) :: entries)
  | blank {blanks : String} {items entries : List String} (hblanks : isBlankText blanks = true)
      (h : Interspersed items entries) : Interspersed items (blanks :: entries)
  | marker {before rest : String} {items entries : List String}
      (hbefore : isBlankText before = true) (hrest : ';' ∉ rest.toList)
      (h : Interspersed items entries) :
      Interspersed items ((before ++ "%(" ++ rest) :: entries)

/-! ### One entry -/

/-- The item that an entry gives, unless it is dropped. -/
def item? (entry : String) : Option String :=
  if isItem (Text.trim entry.toList) then some (Text.strip entry) else none

theorem splitList_eq_filterMap (text : String) :
    splitList text = (Text.splitAt ';' text).filterMap item? := by
  have hitem : item? ∘ String.ofList =
      fun cs => if isItem (Text.trim cs) then some (String.ofList (Text.trim cs)) else none := by
    funext cs
    simp [item?, Text.strip]
  rw [splitList, Text.splitAt, List.filterMap_map, hitem, List.filter_map, List.map_map,
    ← List.filterMap_eq_map, List.filterMap_filter]
  rfl

theorem isItem_iff {cs : List Char} : isItem cs = true ↔ cs ≠ [] ∧ ¬ "%(".toList <+: cs := by
  rw [isItem, Bool.and_eq_true, Bool.not_eq_true', Bool.not_eq_true', Bool.eq_false_iff,
    Bool.eq_false_iff, ne_eq, ne_eq, List.isEmpty_iff, List.isPrefixOf_iff_prefix]

theorem item?_eq_some_iff :
    item? entry = some item ↔
      Text.trim entry.toList = item.toList ∧ item.toList ≠ [] ∧ ¬ "%(".toList <+: item.toList := by
  rw [item?, Option.ite_none_right_eq_some, isItem_iff, Option.some.injEq, Text.strip]
  constructor
  · rintro ⟨h, rfl⟩
    rw [String.toList_ofList]
    exact ⟨rfl, h⟩
  · rintro ⟨htrim, h⟩
    rw [htrim, String.ofList_toList]
    exact ⟨h, rfl⟩

theorem trim_around (hbefore : isBlankText before = true) (hafter : isBlankText after = true) :
    Text.trim (before ++ item ++ after).toList = Text.trim item.toList := by
  rw [String.toList_append, String.toList_append,
    Text.trim_around (List.all_eq_true.mp hbefore) (List.all_eq_true.mp hafter)]

theorem IsListItem.item?_eq (h : IsListItem item) (hbefore : isBlankText before = true)
    (hafter : isBlankText after = true) : item? (before ++ item ++ after) = some item := by
  rw [item?_eq_some_iff, trim_around hbefore hafter, Text.trim_eq_self h.isTrimmed]
  exact ⟨rfl, by simpa using h.ne_empty, h.no_marker⟩

theorem item?_eq_none_iff :
    item? entry = none ↔
      Text.trim entry.toList = [] ∨ "%(".toList <+: Text.trim entry.toList := by
  rw [item?, ite_eq_right_iff, isItem_iff]
  simp only [reduceCtorEq, imp_false, not_and_or, not_not]

theorem item?_blank (h : isBlankText entry = true) : item? entry = none := by
  have htrim : Text.trim (entry.toList ++ [] ++ []) = Text.trim [] :=
    Text.trim_around (List.all_eq_true.mp h) (List.forall_mem_nil _)
  rw [List.append_nil, List.append_nil] at htrim
  exact item?_eq_none_iff.mpr (.inl htrim)

theorem item?_marker (hbefore : isBlankText before = true) (rest : String) :
    item? (before ++ "%(" ++ rest) = none := by
  have hmark : Text.IsTrimmed "%(".toList := Text.isTrimmed_iff.mpr (by decide)
  rw [item?_eq_none_iff, String.toList_append, String.toList_append,
    Text.trim_append (List.all_eq_true.mp hbefore) (by decide) hmark]
  exact .inr (List.prefix_append _ _)

/-! ### All entries -/

theorem Interspersed.filterMap_eq (h : Interspersed items entries)
    (hitems : ∀ item ∈ items, IsListItem item) : entries.filterMap item? = items := by
  induction h with
  | nil => rfl
  | item hbefore hafter _ ih =>
    obtain ⟨hitem, hmore⟩ := List.forall_mem_cons.mp hitems
    rw [List.filterMap_cons_some (hitem.item?_eq hbefore hafter), ih hmore]
  | blank hblanks _ ih => rw [List.filterMap_cons_none (item?_blank hblanks), ih hitems]
  | marker hbefore _ _ ih => rw [List.filterMap_cons_none (item?_marker hbefore _), ih hitems]

theorem not_mem_of_isBlankText (h : isBlankText text = true) : ';' ∉ text.toList :=
  fun hmem => absurd (List.all_eq_true.mp h _ hmem) (by decide)

/-- No entry has a semicolon in it. -/
theorem Interspersed.not_mem (h : Interspersed items entries)
    (hitems : ∀ item ∈ items, IsListItem item) : ∀ entry ∈ entries, ';' ∉ entry.toList := by
  induction h with
  | nil => exact List.forall_mem_nil _
  | item hbefore hafter _ ih =>
    obtain ⟨hitem, hmore⟩ := List.forall_mem_cons.mp hitems
    refine List.forall_mem_cons.mpr ⟨?_, ih hmore⟩
    simp [not_mem_of_isBlankText hbefore, not_mem_of_isBlankText hafter, hitem.not_mem]
  | blank hblanks _ ih =>
    exact List.forall_mem_cons.mpr ⟨not_mem_of_isBlankText hblanks, ih hitems⟩
  | marker hbefore hrest _ ih =>
    refine List.forall_mem_cons.mpr ⟨?_, ih hitems⟩
    simp [not_mem_of_isBlankText hbefore, hrest]

theorem exists_strip (text : String) :
    ∃ before after, text = before ++ Text.strip text ++ after ∧ isBlankText before = true ∧
      isBlankText after = true := by
  obtain ⟨before, after, hlist, hbefore, hafter⟩ := Text.exists_trim text.toList
  refine ⟨.ofList before, .ofList after, ?_, ?_, ?_⟩
  · rw [← String.toList_inj, hlist]
    simp [Text.strip]
  · rwa [isBlankText, String.toList_ofList, List.all_eq_true]
  · rwa [isBlankText, String.toList_ofList, List.all_eq_true]

/-- Entries without semicolons are those of the items that they give. By induction on the entries:
each is an item with blanks around it, or blank, or a marker. -/
theorem interspersed_filterMap (h : ∀ entry ∈ entries, ';' ∉ entry.toList) :
    Interspersed (entries.filterMap item?) entries := by
  induction entries with
  | nil => exact .nil
  | cons entry entries ih =>
    obtain ⟨hentry, hmore⟩ := List.forall_mem_cons.mp h
    obtain ⟨before, after, hstrip, hbefore, hafter⟩ := exists_strip entry
    cases hitem : item? entry with
    | some item =>
      have hfound : Text.strip entry = item := by
        rw [Text.strip, (item?_eq_some_iff.mp hitem).1, String.ofList_toList]
      rw [List.filterMap_cons_some hitem, hstrip, hfound]
      exact .item hbefore hafter (ih hmore)
    | none =>
      rw [List.filterMap_cons_none hitem]
      rcases item?_eq_none_iff.mp hitem with hempty | ⟨rest, hrest⟩
      · refine .blank ?_ (ih hmore)
        rw [hstrip, Text.strip, hempty]
        simpa [isBlankText, or_imp, forall_and] using And.intro hbefore hafter
      · have hmark : Text.strip entry = "%(" ++ String.ofList rest := by
          rw [Text.strip, ← hrest, String.ofList_append, String.ofList_toList]
        rw [hmark, ← String.append_assoc, String.append_assoc] at hstrip
        rw [hstrip, String.toList_append, List.mem_append, not_or] at hentry
        rw [hstrip]
        exact .marker hbefore hentry.2 (ih hmore)

/-- Items by themselves are the entries of a list. -/
theorem interspersed_self (items : List String) : Interspersed items items := by
  induction items with
  | nil => exact .nil
  | cons item items ih =>
    have h := @Interspersed.item "" item "" _ _ rfl rfl ih
    rwa [String.empty_append, String.append_empty] at h

/-! ### Lists -/

theorem isListItem_of_mem_splitList (h : item ∈ splitList text) : IsListItem item := by
  rw [splitList_eq_filterMap] at h
  obtain ⟨entry, hentry, hitem⟩ := List.mem_filterMap.mp h
  obtain ⟨htrim, hne, hmarker⟩ := item?_eq_some_iff.mp hitem
  refine ⟨by simpa using hne, htrim ▸ Text.isTrimmed_trim _, ?_, hmarker⟩
  rw [← htrim]
  exact fun hmem => Text.not_mem_of_mem_splitAt hentry (Text.mem_of_mem_trim hmem)

/-- **Which texts list certain items.** Those that are made of the entries of such a list. -/
theorem splitList_eq_iff :
    splitList text = items ↔ (∀ item ∈ items, IsListItem item) ∧
      ∃ entries, Interspersed items entries ∧ text = ";".intercalate entries := by
  rw [splitList_eq_filterMap]
  constructor
  · rintro rfl
    rw [← splitList_eq_filterMap]
    refine ⟨fun item => isListItem_of_mem_splitList, Text.splitAt ';' text, ?_, ?_⟩
    · rw [splitList_eq_filterMap]
      exact interspersed_filterMap fun entry => Text.not_mem_of_mem_splitAt
    · exact (Text.intercalate_splitAt rfl text).symm
  · rintro ⟨hitems, entries, h, rfl⟩
    rw [← h.filterMap_eq hitems]
    cases entries with
    | nil => exact List.filterMap_cons_none (item?_blank rfl)
    | cons entry entries =>
      rw [Text.splitAt_intercalate rfl (List.cons_ne_nil _ _) (h.not_mem hitems)]

/-- **Reading a list normalises it.** Two lists with a semicolon between them are read one after the
other. What comes out are proper items. A text gives certain items exactly if they are proper and
the text is one of the ways to write them; and the plainest way, the items themselves, is among
these. -/
theorem splitList_normalizes (first second text : String) (items : List String) :
    splitList (first ++ ";" ++ second) = splitList first ++ splitList second ∧
      (∀ item ∈ splitList text, IsListItem item) ∧
      (splitList text = items ↔ (∀ item ∈ items, IsListItem item) ∧
        ∃ entries, Interspersed items entries ∧ text = ";".intercalate entries) ∧
      splitList (";".intercalate (splitList text)) = splitList text := by
  refine ⟨?_, fun item => isListItem_of_mem_splitList, splitList_eq_iff, ?_⟩
  · rw [splitList_eq_filterMap, Text.splitAt_append rfl, List.filterMap_append,
      ← splitList_eq_filterMap, ← splitList_eq_filterMap]
  · exact splitList_eq_iff.mpr ⟨fun item => isListItem_of_mem_splitList, _,
      interspersed_self _, rfl⟩

namespace ItemListSample

/-- The value of the second definition looks like a marker. -/
def kept : List String := ["A", "B=%(C)"]

def written : List String :=
  ["\u00A0A\t", "", " %(PreprocessorDefinitions) ", "\x1f", "B=%(C) "]

theorem isListItem : ∀ item ∈ kept, IsListItem item := by
  have hone : IsListItem "A" :=
    ⟨by decide, Text.isTrimmed_iff.mpr (by decide), by decide, by decide⟩
  have htwo : IsListItem "B=%(C)" :=
    ⟨by decide, Text.isTrimmed_iff.mpr (by decide), by decide, by decide⟩
  exact List.forall_mem_cons.mpr ⟨hone, by simpa using htwo⟩

theorem interspersed : Interspersed kept written :=
  @Interspersed.item "\u00A0" "A" "\t" _ _ rfl rfl <| .blank rfl <|
    @Interspersed.marker " " "PreprocessorDefinitions) " _ _ rfl (by decide) <| .blank rfl <|
      @Interspersed.item "" "B=%(C)" " " _ _ rfl rfl .nil

end ItemListSample

open ItemListSample in
/-- Two items with blanks around them, and among them two blank entries and a marker. -/
theorem splitList_normalizes_sample :
    (∀ item ∈ kept, IsListItem item) ∧ Interspersed kept written ∧
      splitList "\u00A0A\t;; %(PreprocessorDefinitions) ;\x1f;B=%(C) " = ["A", "B=%(C)"] ∧
      splitList "A;B=%(C)" = ["A", "B=%(C)"] := by
  obtain ⟨-, -, hiff, hagain⟩ := splitList_normalizes "" "" (";".intercalate written) kept
  have hread : splitList (";".intercalate written) = kept :=
    hiff.mpr ⟨isListItem, written, interspersed, rfl⟩
  rw [hread] at hagain
  exact ⟨isListItem, interspersed, hread, hagain⟩

end Project

end BuildDescriptor
