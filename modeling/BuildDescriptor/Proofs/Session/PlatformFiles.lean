import BuildDescriptor.Proofs.Descriptor.Faults
import BuildDescriptor.Proofs.Session.History

/-!
# What loading a platform file comes to

A platform file can be refused in many ways. It may be missing or a directory, its bytes may be no
text or its text no document, and the document may be about something else. Each of these is told by
the answer `false`, with a notice, and leaves the session as it was. It does not matter at which
stage the file was refused, because the profile is not changed before all stages are passed. No
number in the file is a reason to refuse it.

As with the import of a descriptor, not everything becomes an answer. The path may have a null
character, or the document may declare an encoding that cannot be used. Either is a fault.

## Main definitions

* `IsPlatformFile` — the file at a path is a document about a platform
* `Unloadable` — what makes loading it a fault
* `Session.Loads` — what loading it comes to otherwise

## Main results

* `Session.loads_or_unloadable` — loading is a fault exactly then, and otherwise says what was done
* `Session.loadPlatformFile_unknownEncoding` — a platform file that is neither loaded nor refused
-/

namespace BuildDescriptor

variable {fs : FileSystem} {path : Path} {root root' : Xml.Element} {fault : Fault} {s : Session}

/-- The file at a path is a document about a platform, with this root element. -/
structure IsPlatformFile (fs : FileSystem) (path : Path) (root : Xml.Element) : Prop where
  exists_parse : ∃ bytes, fs.load path = .ok (.ok bytes) ∧ Xml.parse bytes.toList = .ok root
  tag_eq : root.tag = "platform"

/-- What makes the loading of a platform file a fault. -/
inductive Unloadable (fs : FileSystem) (path : Path) : Fault → Prop
  | path (h : '\x00' ∈ path.toString.toList) : Unloadable fs path .embeddedNull
  | encoding {bytes : ByteArray} {name : String} {fault : Fault}
      (hbytes : fs.load path = .ok (.ok bytes))
      (hname : Xml.declaredEncoding? bytes.toList = some name)
      (hfault : Xml.refusal? name = some fault) : Unloadable fs path fault

theorem isPlatformFile_iff :
    IsPlatformFile fs path root ↔
      Xml.readFile fs path = .ok (.ok root) ∧ root.tag = "platform" := by
  rw [Xml.readFile_eq_ok_iff]
  exact ⟨fun h => ⟨h.exists_parse, h.tag_eq⟩, fun h => ⟨h.1, h.2⟩⟩

theorem unloadable_iff : Unloadable fs path fault ↔ Xml.readFile fs path = .error fault := by
  rw [Xml.readFile_eq_error_iff, load_eq_error_iff]
  constructor
  · intro h
    cases h with
    | path h => exact .inl ⟨h, rfl⟩
    | encoding hbytes hname hfault => exact .inr ⟨_, _, hbytes, hname, hfault⟩
  · rintro (⟨h, rfl⟩ | ⟨_, _, hbytes, hname, hfault⟩)
    · exact .path h
    · exact .encoding hbytes hname hfault

theorem IsPlatformFile.unique (h : IsPlatformFile fs path root)
    (h' : IsPlatformFile fs path root') : root = root' := by
  have hread := (isPlatformFile_iff.mp h).1.symm.trans (isPlatformFile_iff.mp h').1
  injection hread with hread
  injection hread

namespace Session

/-- What it comes to if the loading of a platform file is no fault. -/
structure Loads (s : Session) (fs : FileSystem) (path : Path)
    (done : Logged (Bool × Session)) : Prop where
  /-- It succeeds exactly with a document about a platform. -/
  success_iff : done.value.1 = true ↔ ∃ root, IsPlatformFile fs path root
  /-- A success changes the active profile and nothing else. -/
  eq_of_isPlatformFile : ∀ root, IsPlatformFile fs path root →
    done.value.2 = { s with profile := s.profile.override path root }
  /-- A failure changes nothing. -/
  eq_of_failure : done.value.1 = false → done.value.2 = s
  /-- A failure is noticed. -/
  log_of_failure : done.value.1 = false → ∃ e, done.log = [.platformFileRejected e]

theorem loadPlatformFile_of_unloadable (h : Unloadable fs path fault) (s : Session) :
    s.loadPlatformFile fs path = .error fault := by
  rw [loadPlatformFile, Platform.Profile.loadFile, unloadable_iff.mp h, error_bind, error_bind]

theorem loads_of_isPlatformFile (h : IsPlatformFile fs path root) (s : Session) :
    ∃ done, s.loadPlatformFile fs path = .ok done ∧ s.Loads fs path done := by
  obtain ⟨hread, htag⟩ := isPlatformFile_iff.mp h
  refine ⟨_, loadPlatformFile_eq hread htag s, iff_of_true rfl ⟨root, h⟩, ?_, nofun, nofun⟩
  intro root' h'
  rw [h.unique h']

/-- A file that is refused, at whichever stage, is no document about a platform. -/
theorem loads_of_rejected {e : PlatformFileError}
    (h : s.profile.loadFile fs path = .ok ⟨.error e, []⟩)
    (hnot : ¬ ∃ root, IsPlatformFile fs path root) :
    ∃ done, s.loadPlatformFile fs path = .ok done ∧ s.Loads fs path done := by
  refine ⟨⟨(false, s), [.platformFileRejected e]⟩, ?_, iff_of_false nofun hnot, ?_,
    fun _ => rfl, fun _ => ⟨e, rfl⟩⟩
  · rw [loadPlatformFile, h]
    rfl
  · exact fun root hroot => absurd ⟨root, hroot⟩ hnot

/-- By cases of what is read: it is a fault, or no document, or one with some root element. -/
theorem exists_unloadable_or_loads (s : Session) (fs : FileSystem) (path : Path) :
    (∃ fault, Unloadable fs path fault) ∨
      ∃ done, s.loadPlatformFile fs path = .ok done ∧ s.Loads fs path done := by
  have hnot (h : ∀ root, Xml.readFile fs path = .ok (.ok root) → root.tag ≠ "platform") :
      ¬ ∃ root, IsPlatformFile fs path root := by
    rintro ⟨root, hroot⟩
    obtain ⟨hread, htag⟩ := isPlatformFile_iff.mp hroot
    exact h root hread htag
  cases hread : Xml.readFile fs path with
  | error fault => exact .inl ⟨fault, unloadable_iff.mpr hread⟩
  | ok read =>
    refine .inr ?_
    cases read with
    | error reason =>
      refine loads_of_rejected (e := .unreadable path reason) ?_ (hnot (by simp [hread]))
      rw [Platform.Profile.loadFile, hread]
      rfl
    | ok root =>
      by_cases htag : root.tag = "platform"
      · exact loads_of_isPlatformFile (isPlatformFile_iff.mpr ⟨hread, htag⟩) s
      · refine loads_of_rejected (e := .wrongRoot path root.tag) ?_ (hnot (by simpa [hread]))
        simp only [Platform.Profile.loadFile, hread, ok_bind, if_neg htag]
        rfl

/-- **What loading a platform file comes to.** It is a fault exactly if the path has a null
character or the document declares an encoding that cannot be used. Otherwise there is an answer:
`true` exactly for a document about a platform, which then changes the profile, and `false` with a
notice and no change for everything else. -/
theorem loads_or_unloadable (s : Session) (fs : FileSystem) (path : Path) :
    (∃ fault, Unloadable fs path fault ∧ s.loadPlatformFile fs path = .error fault) ∨
      (¬ ∃ fault, Unloadable fs path fault) ∧
        ∃ done, s.loadPlatformFile fs path = .ok done ∧ s.Loads fs path done := by
  rcases exists_unloadable_or_loads s fs path with ⟨fault, hfault⟩ | ⟨done, hdone, hloads⟩
  · exact .inl ⟨fault, hfault, loadPlatformFile_of_unloadable hfault s⟩
  · refine .inr ⟨?_, done, hdone, hloads⟩
    rintro ⟨fault, hfault⟩
    rw [loadPlatformFile_of_unloadable hfault s] at hdone
    cases hdone

namespace UnknownEncodingSample

/-- A platform without contents, in an encoding of its own. -/
def text : String := "<?xml version=\"1.0\" encoding=\"x\"?><platform/>"

def bytes : List UInt8 := text.toList.map Char.toUInt8

def files : FileSystem := ⟨fun _ => .ok (.file ⟨bytes.toArray⟩)⟩

def platform : Path := ⟨"", ["p.xml"]⟩

end UnknownEncodingSample

/-- A platform file in an encoding that is not known gets no answer. -/
theorem loadPlatformFile_unknownEncoding : ∃ s, start .unix64 = .ok s ∧
    s.loadPlatformFile UnknownEncodingSample.files UnknownEncodingSample.platform =
      .error (.unknownEncoding "x") := by
  obtain ⟨s, hstart⟩ : ∃ s, start .unix64 = .ok s := ⟨_, rfl⟩
  have hname : Xml.declaredEncoding?
      (ByteArray.mk UnknownEncodingSample.bytes.toArray).toList = some "x" := by
    rw [toList_eq_data_toList]
    decide +kernel
  have hrefusal : Xml.refusal? "x" = some (.unknownEncoding "x") := by decide +kernel
  exact ⟨s, hstart, loadPlatformFile_of_unloadable (.encoding (by rfl) hname hrefusal) s⟩

end Session

end BuildDescriptor
