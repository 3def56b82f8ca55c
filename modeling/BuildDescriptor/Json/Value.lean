/-!
# JSON values

The values that a JSON text can stand for. An object keeps its members as they were written, also
those with the same name, and the last one of a name counts.

## Main definitions

* `Json`, `Json.Container`
* `Json.member?` — the value of a member
* `Json.string?`, `Json.strings?` — a value as text, or as a list of texts
-/

namespace BuildDescriptor

/-- A JSON value. -/
inductive Json
  | null
  | bool (value : Bool)
  | integer (value : Int)
  /-- A number with a fraction or an exponent, infinite or not a number at all, as it is written. -/
  | decimal (literal : String)
  | string (value : String)
  | array (items : List Json)
  | object (members : List (String × Json))
deriving Repr, Inhabited

namespace Json

mutual

/-- Whether two values are the same. -/
def decEq : (v w : Json) → Decidable (v = w)
  | null, w => match w with
    | null => isTrue rfl
    | bool _ | integer _ | decimal _ | string _ | array _ | object _ => isFalse nofun
  | bool b, w => match w with
    | bool b' => decidable_of_decidable_of_iff (p := b = b') (by rw [bool.injEq])
    | null | integer _ | decimal _ | string _ | array _ | object _ => isFalse nofun
  | integer n, w => match w with
    | integer n' => decidable_of_decidable_of_iff (p := n = n') (by rw [integer.injEq])
    | null | bool _ | decimal _ | string _ | array _ | object _ => isFalse nofun
  | decimal s, w => match w with
    | decimal s' => decidable_of_decidable_of_iff (p := s = s') (by rw [decimal.injEq])
    | null | bool _ | integer _ | string _ | array _ | object _ => isFalse nofun
  | string s, w => match w with
    | string s' => decidable_of_decidable_of_iff (p := s = s') (by rw [string.injEq])
    | null | bool _ | integer _ | decimal _ | array _ | object _ => isFalse nofun
  | array vs, w => match w with
    | array ws =>
      have : Decidable (vs = ws) := decEqItems vs ws
      decidable_of_decidable_of_iff (p := vs = ws) (by rw [array.injEq])
    | null | bool _ | integer _ | decimal _ | string _ | object _ => isFalse nofun
  | object ms, w => match w with
    | object ns =>
      have : Decidable (ms = ns) := decEqMembers ms ns
      decidable_of_decidable_of_iff (p := ms = ns) (by rw [object.injEq])
    | null | bool _ | integer _ | decimal _ | string _ | array _ => isFalse nofun

/-- Whether the items of two arrays are the same. -/
def decEqItems : (vs ws : List Json) → Decidable (vs = ws)
  | [], [] => isTrue rfl
  | [], _ :: _ => isFalse nofun
  | _ :: _, [] => isFalse nofun
  | v :: vs, w :: ws =>
    have : Decidable (v = w) := decEq v w
    have : Decidable (vs = ws) := decEqItems vs ws
    decidable_of_decidable_of_iff (p := v = w ∧ vs = ws) (by rw [List.cons.injEq])

/-- Whether the members of two objects are the same. -/
def decEqMembers : (ms ns : List (String × Json)) → Decidable (ms = ns)
  | [], [] => isTrue rfl
  | [], _ :: _ => isFalse nofun
  | _ :: _, [] => isFalse nofun
  | (name, v) :: ms, (name', w) :: ns =>
    have : Decidable (v = w) := decEq v w
    have : Decidable (ms = ns) := decEqMembers ms ns
    decidable_of_decidable_of_iff (p := (name = name' ∧ v = w) ∧ ms = ns)
      (by rw [List.cons.injEq, Prod.mk.injEq])

end

instance : DecidableEq Json := decEq

/-- The values that hold other values. -/
inductive Container
  | array
  | object
deriving DecidableEq, Repr

/-- The value of a member of an object. -/
def member? (name : String) : Json → Option Json
  | object members => members.reverse.lookup name
  | _ => none

/-- Whether a value is an object. -/
def isObject : Json → Bool
  | object _ => true
  | _ => false

/-- The text that a value is. -/
def string? : Json → Option String
  | string value => some value
  | _ => none

/-- The list of texts that a value is. -/
def strings? : Json → Option (List String)
  | array items => items.mapM string?
  | _ => none

end Json

end BuildDescriptor
