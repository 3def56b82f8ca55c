import BuildDescriptor.Variant

/-!
# References in a condition

A condition refers to the variant that is being built by `$(Configuration)` and `$(Platform)`.
Before the condition is read, the values of the variant take the place of the references. That is
done in one pass from left to right: a value is not searched for references, and neither is what a
value makes together with the text around it.

## Main definitions

* `Axis.reference` — the reference to one half of a variant
* `Condition.reference?` — the reference at the start of a text
* `Condition.substitute` — a condition for one variant
-/

namespace BuildDescriptor

/-- The reference to one half of a variant. -/
def Axis.reference : Axis → String
  | configuration => "$(Configuration)"
  | platform => "$(Platform)"

namespace Condition

/-- The reference at the start of a text, and what follows it. -/
def reference? (cs : List Char) : Option (Axis × List Char) :=
  if Axis.configuration.reference.toList.isPrefixOf cs then
    some (.configuration, cs.drop Axis.configuration.reference.toList.length)
  else if Axis.platform.reference.toList.isPrefixOf cs then
    some (.platform, cs.drop Axis.platform.reference.toList.length)
  else none

theorem eq_append_of_reference? {cs rest : List Char} {a : Axis}
    (h : reference? cs = some (a, rest)) : cs = a.reference.toList ++ rest := by
  unfold reference? at h
  split at h
  · rename_i hp
    obtain ⟨more, rfl⟩ := List.isPrefixOf_iff_prefix.1 hp
    simp only [Option.some.injEq, Prod.mk.injEq, List.drop_left] at h
    rw [← h.1, ← h.2]
  · split at h
    · rename_i hp
      obtain ⟨more, rfl⟩ := List.isPrefixOf_iff_prefix.1 hp
      simp only [Option.some.injEq, Prod.mk.injEq, List.drop_left] at h
      rw [← h.1, ← h.2]
    · simp at h

theorem length_lt_of_reference? {cs rest : List Char} {a : Axis}
    (h : reference? cs = some (a, rest)) : rest.length < cs.length := by
  rw [eq_append_of_reference? h, List.length_append]
  have : 0 < a.reference.toList.length := by cases a <;> decide
  omega

/-- A text with the values of a variant in place of the references. -/
def substituteChars (v : Variant) (cs : List Char) : List Char :=
  match cs with
  | [] => []
  | c :: rest =>
    match _h : reference? (c :: rest) with
    | some (a, rest) => (v.value a).toList ++ substituteChars v rest
    | none => c :: substituteChars v rest
termination_by cs.length
decreasing_by
  · exact length_lt_of_reference? ‹_›
  · exact Nat.lt_succ_self _

/-- A condition for one variant. -/
def substitute (condition : String) (v : Variant) : String :=
  String.ofList (substituteChars v condition.toList)

end Condition

end BuildDescriptor
