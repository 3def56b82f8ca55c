import BuildDescriptor.Json.Reader

/-!
# The objects in a damaged text

A text that is no JSON may still hold complete objects: a log that was cut off, a list with a comma
too many. Every brace that opens is tried as the start of an object. If one can be read there, it
is taken, and the search goes on behind it; if not, it goes on behind the brace. So an object inside
one that was taken is not taken again, and an object inside a broken one is.

## Main definitions

* `Json.objectsIn` — the complete objects of a text, in order
-/

namespace BuildDescriptor

namespace Json

/-- The objects from some place of a text on, after at most so many opening braces. -/
def objectsFrom [Capacity] : Nat → List Char → Except Failure (List Json)
  | 0, _ => .ok []
  | rounds + 1, cs =>
    match cs.dropWhile (· ≠ '{') with
    | [] => .ok []
    | brace :: rest =>
      match value maxNesting (brace :: rest) with
      | .ok (v, rest) => do
        let vs ← objectsFrom rounds rest
        return v :: vs
      | .error .malformed => objectsFrom rounds rest
      | .error failure => .error failure

/-- The complete objects of a text. -/
def objectsIn [Capacity] (text : String) : Except Failure (List Json) :=
  objectsFrom (text.toList.count '{') text.toList

end Json

end BuildDescriptor
