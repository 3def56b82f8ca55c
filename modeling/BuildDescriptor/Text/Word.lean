/-!
# Words in a text

`Text.hasWord` tells whether a word stands anywhere in a text, in one run of characters.

## Main definitions

* `Text.hasWord`

## Main results

* `Text.hasWord_iff` — a text has a word if it is the word with something on both sides
-/

namespace BuildDescriptor

namespace Text

/-- Whether a word stands somewhere in a text. -/
def hasWord (word : List Char) : List Char → Bool
  | [] => word.isEmpty
  | c :: cs => word.isPrefixOf (c :: cs) || hasWord word cs

theorem hasWord_iff {word cs : List Char} : hasWord word cs = true ↔ word <:+: cs := by
  induction cs with
  | nil => simp [hasWord]
  | cons c cs ih =>
    rw [hasWord, Bool.or_eq_true, List.isPrefixOf_iff_prefix, ih, List.infix_cons_iff]

end Text

end BuildDescriptor
