import BuildDescriptor.Proofs.Bind
import BuildDescriptor.Xml.File

/-!
# Documents in an encoding that cannot be used

A document that is malformed is no fault, whatever is wrong with it. There is a fault only if the
document opens with a correct declaration and the declaration names an encoding that cannot be used.
So it is decided by the name alone. No byte behind the declaration has a say in it, and neither has
the encoding that the first bytes show.

## Main definitions

* `Xml.declaredEncoding?` — the name that a document declares for its encoding
* `Xml.refusal?` — why no document can be in the encoding with a name

## Main results

* `Xml.readBytes_eq_error_iff`, `Xml.readFile_eq_error_iff` — when reading a document is a fault
-/

namespace BuildDescriptor

namespace Xml

variable {bytes : List UInt8} {name : String} {failure : Failure} {fault : Fault}

/-- The name that a document declares for its encoding. -/
def declaredEncoding? (bytes : List UInt8) : Option String :=
  let (shown, rest) := Encoding.detect bytes
  if opensDeclaration (shown.asciiView rest) then
    (declaration? (shown.asciiView rest)).bind Declaration.encoding
  else none

/-- Why no document can be in the encoding with a name, unless it can. What is not ASCII where a
declaration has to be makes the document malformed, but is no fault. -/
def refusal? (name : String) : Option Fault :=
  if (Encoding.standardName? name).isSome then none
  else
    match meaning? name with
    | none => some (.unknownEncoding name)
    | some .multiByte => some .multiByteEncoding
    | some .binary => some (.binaryEncoding name)
    | some (.refusing reason) => some (.refusingEncoding name reason)
    | some .asciiOnly => some .asciiOnlyEncoding
    | some .notAscii => none
    | some (.charset _) => none

/-- The fault that a failure is, unless the document is malformed. -/
def Failure.fault? : Failure → Option Fault
  | malformed => none
  | unknownEncoding name => some (.unknownEncoding name)
  | multiByteEncoding => some .multiByteEncoding
  | binaryEncoding name => some (.binaryEncoding name)
  | refusingEncoding name reason => some (.refusingEncoding name reason)
  | asciiOnlyEncoding => some .asciiOnlyEncoding

/-- The fault that a result is. -/
def faultOf? {α : Type} (x : Except Failure α) : Option Fault :=
  match x with
  | .ok _ => none
  | .error failure => failure.fault?

theorem faultOf?_bind {α β : Type} {x : Except Failure α} {f : α → Except Failure β}
    (h : ∀ a, x = .ok a → faultOf? (f a) = none) : faultOf? (x >>= f) = faultOf? x := by
  cases x with
  | ok a => exact h a rfl
  | error failure => rfl

theorem faultOf?_charsOf (e : Encoding) (bytes : List UInt8) :
    faultOf? (Source.charsOf e bytes) = none := by
  unfold Source.charsOf
  split
  · rfl
  · split <;> rfl

/-- A name is refused whatever the document shows. -/
theorem faultOf?_declare (current : Encoding) (name : String) :
    faultOf? (current.declare name) = refusal? name := by
  unfold Encoding.declare refusal?
  cases hstandard : Encoding.standardName? name with
  | some encodings =>
    simp only [Option.isSome_some, if_true]
    split
    · split <;> rfl
    · split <;> rfl
  | none =>
    simp only [Option.isSome_none, Bool.false_eq_true, if_false]
    cases meaning? name with
    | none => rfl
    | some meaning => cases meaning <;> rfl

/-- Where the bytes of a document are no text, that is no fault. -/
theorem faultOf?_source {e : Encoding} {rest : List UInt8} {f : List Char → Source} :
    faultOf? (do return f (← Source.charsOf e rest)) = none := by
  rw [faultOf?_bind fun _ _ => rfl, faultOf?_charsOf]

theorem faultOf?_ofBytes (bytes : List UInt8) :
    faultOf? (Source.ofBytes bytes) = (declaredEncoding? bytes).bind refusal? := by
  unfold Source.ofBytes declaredEncoding?
  obtain ⟨shown, rest⟩ := Encoding.detect bytes
  simp only
  split
  · cases declaration? (shown.asciiView rest) with
    | none => rfl
    | some d =>
      obtain ⟨encoding, standalone, length⟩ := d
      cases encoding with
      | none => exact faultOf?_source
      | some name =>
        show faultOf? (shown.declare name >>= fun e => _) = refusal? name
        rw [faultOf?_bind fun _ _ => faultOf?_source, faultOf?_declare]
  · exact faultOf?_source

theorem faultOf?_parse (bytes : List UInt8) :
    faultOf? (parse bytes) = (declaredEncoding? bytes).bind refusal? := by
  rw [parse, faultOf?_bind, faultOf?_ofBytes]
  intro s _
  split <;> rfl

/-! ### Files -/

theorem readBytes_eq_error_iff {bytes : ByteArray} :
    readBytes bytes = .error fault ↔
      ∃ name, declaredEncoding? bytes.toList = some name ∧ refusal? name = some fault := by
  rw [← Option.bind_eq_some_iff, ← faultOf?_parse]
  unfold readBytes
  cases parse bytes.toList with
  | ok root => simp [faultOf?]
  | error failure => cases failure <;> simp [faultOf?, Failure.fault?]

theorem parse_of_readBytes {bytes : ByteArray} {root : Element}
    (h : readBytes bytes = .ok (.ok root)) : parse bytes.toList = .ok root := by
  unfold readBytes at h
  split at h <;> cases h
  assumption

theorem parse_eq_malformed {bytes : ByteArray} {reason : Unreadable}
    (h : readBytes bytes = .ok (.error reason)) : parse bytes.toList = .error .malformed := by
  unfold readBytes at h
  split at h <;> cases h
  assumption

theorem readBytes_eq_ok_iff {bytes : ByteArray} {root : Element} :
    readBytes bytes = .ok (.ok root) ↔ parse bytes.toList = .ok root := by
  refine ⟨parse_of_readBytes, fun h => ?_⟩
  simp only [readBytes, h]

theorem readFile_eq_ok_iff {fs : FileSystem} {path : Path} {root : Element} :
    readFile fs path = .ok (.ok root) ↔
      ∃ bytes, fs.load path = .ok (.ok bytes) ∧ parse bytes.toList = .ok root := by
  rw [readFile, bind_eq_ok]
  constructor
  · rintro ⟨read, hload, h⟩
    cases read with
    | error _ => cases h
    | ok bytes => exact ⟨bytes, hload, readBytes_eq_ok_iff.mp h⟩
  · rintro ⟨bytes, hload, hparse⟩
    exact ⟨.ok bytes, hload, readBytes_eq_ok_iff.mpr hparse⟩

/-- **When reading a document is a fault.** Its path has a null character, or the document declares
an encoding that cannot be used. -/
theorem readFile_eq_error_iff {fs : FileSystem} {path : Path} :
    readFile fs path = .error fault ↔
      fs.load path = .error fault ∨ ∃ bytes name, fs.load path = .ok (.ok bytes) ∧
        declaredEncoding? bytes.toList = some name ∧ refusal? name = some fault := by
  rw [readFile, bind_eq_error]
  refine or_congr_right ?_
  constructor
  · rintro ⟨read, hload, h⟩
    cases read with
    | error _ => cases h
    | ok bytes =>
      obtain ⟨name, hname⟩ := readBytes_eq_error_iff.mp h
      exact ⟨bytes, name, hload, hname⟩
  · rintro ⟨bytes, name, hload, hname⟩
    exact ⟨.ok bytes, hload, readBytes_eq_error_iff.mpr ⟨name, hname⟩⟩

end Xml

end BuildDescriptor
