import BuildDescriptor.Proofs.Database.Limits
import BuildDescriptor.Proofs.Database.Units
import BuildDescriptor.Proofs.Project.Loading
import BuildDescriptor.Proofs.Xml.Declarations
import BuildDescriptor.Proofs.Xml.Files
import BuildDescriptor.Session

/-!
# When an import is a fault

An import is meant to make the best of what it is given. It does so with everything that is damaged:
a file that cannot be opened, bytes that are no text, a text that is no JSON, a document that is
malformed. Three things are not passed over. The path has a null character; the text of a database
exceeds a limit of the reader, as a whole or where it is searched for objects; or a project declares
an encoding that cannot be used. These are all.

## Main definitions

* `Faulty` — what makes the import of a descriptor a fault
* `Yields` — the units that the import gives where it is none

## Main results

* `import_faults_iff_faulty` — an import is a fault exactly then, and otherwise gives units
* `importDescriptor_unknownEncoding` — a project that is not imported at all
-/

namespace BuildDescriptor

variable {fs : FileSystem} {path : Path} {r : Condition.Rule} {fault : Fault}

/-- The file at a path is a compilation database. -/
def IsDatabase (path : Path) : Prop := path.name = databaseName

/-- The file at a path is a project. -/
def IsProject (path : Path) : Prop := projectMarker.toList <:+: path.name.toList

/-- No file is both. -/
theorem IsDatabase.not_isProject (h : IsDatabase path) : ¬ IsProject path := by
  rw [IsProject, h, ← Text.hasWord_iff]
  decide

theorem load_eq_error_iff :
    fs.load path = .error fault ↔ '\x00' ∈ path.toString.toList ∧ fault = .embeddedNull := by
  by_cases hnull : '\x00' ∈ path.toString.toList
  · rw [FileSystem.load, if_pos (List.contains_iff_mem.mpr hnull)]
    simp [hnull, eq_comm]
  · rw [FileSystem.load, if_neg (mt List.contains_iff_mem.mp hnull)]
    simp [hnull]

section

variable [Json.Capacity]

/-- What makes the import of a descriptor a fault. -/
inductive Faulty (fs : FileSystem) (path : Path) : Fault → Prop
  | path (h : '\x00' ∈ path.toString.toList) : Faulty fs path .embeddedNull
  | database {bytes : ByteArray} {text : String} {failure : Json.Failure} {fault : Fault}
      (hbytes : fs.load path = .ok (.ok bytes)) (hpath : IsDatabase path)
      (htext : Database.textOf bytes = .ok text) (h : Database.Overruns text failure)
      (hfault : Database.faultOf failure = some fault) : Faulty fs path fault
  | project {bytes : ByteArray} {name : String} {fault : Fault}
      (hbytes : fs.load path = .ok (.ok bytes)) (hpath : IsProject path)
      (hname : Xml.declaredEncoding? bytes.toList = some name)
      (hfault : Xml.refusal? name = some fault) : Faulty fs path fault

/-- The units that the import of a descriptor gives where it is no fault. What is damaged beyond use
gives none. -/
inductive Yields (fs : FileSystem) (r : Condition.Rule) (path : Path) : List CompileUnit → Prop
  | unreadable {fault : FileFault} (h : fs.load path = .ok (.error fault)) : Yields fs r path []
  | database {bytes : ByteArray} {units : List CompileUnit}
      (hbytes : fs.load path = .ok (.ok bytes)) (hpath : IsDatabase path)
      (h : Database.Lists (Database.textOf bytes) units) : Yields fs r path units
  | noDocument {bytes : ByteArray} (hbytes : fs.load path = .ok (.ok bytes))
      (hpath : IsProject path) (h : Xml.parse bytes.toList = .error .malformed) :
      Yields fs r path []
  | document {bytes : ByteArray} {root : Xml.Element} (hbytes : fs.load path = .ok (.ok bytes))
      (hpath : IsProject path) (h : Xml.parse bytes.toList = .ok root) :
      Yields fs r path (Project.units { path := path, contents := .ofRoot root } r)
  | other {bytes : ByteArray} (hbytes : fs.load path = .ok (.ok bytes))
      (hdatabase : ¬ IsDatabase path) (hproject : ¬ IsProject path) : Yields fs r path []

/-! ### One kind of file at a time -/

theorem importDescriptor_of_isDatabase {bytes : ByteArray} (hbytes : fs.load path = .ok (.ok bytes))
    (hpath : IsDatabase path) :
    importDescriptor fs r path = Database.importText (Database.textOf bytes) := by
  rw [importDescriptor, hbytes, ok_bind]
  exact if_pos hpath

/-- What an import takes from a project: its units, and what was noticed. -/
def unitsLogged (imported : Logged (List CompileUnit × Project)) : Logged (List CompileUnit) :=
  ⟨imported.value.1, imported.log⟩

theorem importDescriptor_of_isProject {bytes : ByteArray} (hbytes : fs.load path = .ok (.ok bytes))
    (hpath : IsProject path) :
    importDescriptor fs r path = (do
      let imported ← Project.importUnits { path := path } fs r
      return unitsLogged imported) := by
  have hdatabase : path.name ≠ databaseName := fun h => IsDatabase.not_isProject h hpath
  rw [importDescriptor, hbytes, ok_bind]
  simp only [if_neg hdatabase, if_pos (Text.hasWord_iff.mpr hpath)]
  rfl

theorem importDescriptor_of_other {bytes : ByteArray} (hbytes : fs.load path = .ok (.ok bytes))
    (hdatabase : ¬ IsDatabase path) (hproject : ¬ IsProject path) :
    importDescriptor fs r path = .ok ⟨[], [.descriptorUnrecognized path]⟩ := by
  have hname : path.name ≠ databaseName := hdatabase
  rw [importDescriptor, hbytes, ok_bind]
  simp only [if_neg hname, if_neg (mt Text.hasWord_iff.mp hproject)]
  rfl

/-! ### Faults -/

theorem Faulty.importDescriptor_eq (h : Faulty fs path fault) :
    importDescriptor fs r path = .error fault := by
  cases h with
  | path h => rw [importDescriptor, load_eq_error_iff.mpr ⟨h, rfl⟩, error_bind]
  | database hbytes hpath htext h hfault =>
    rw [importDescriptor_of_isDatabase hbytes hpath]
    exact Database.importText_eq_error_iff.mpr ⟨_, _, htext, hfault, h⟩
  | project hbytes hpath hname hfault =>
    have hread : Xml.readFile fs path = .error fault :=
      Xml.readFile_eq_error_iff.mpr (.inr ⟨_, _, hbytes, hname, hfault⟩)
    have himport : Project.importUnits { path := path } fs r = .error fault :=
      Project.importUnits_of_fault r hread
    rw [importDescriptor_of_isProject hbytes hpath, himport, error_bind]

theorem faulty_or_yields_of_isProject {bytes : ByteArray} (hbytes : fs.load path = .ok (.ok bytes))
    (hpath : IsProject path) :
    (∃ fault, Faulty fs path fault) ∨
      ∃ units log, importDescriptor fs r path = .ok ⟨units, log⟩ ∧ Yields fs r path units := by
  have hdescriptor := importDescriptor_of_isProject (r := r) hbytes hpath
  have hread : Xml.readFile fs path = Xml.readBytes bytes := by rw [Xml.readFile, hbytes, ok_bind]
  cases hresult : Xml.readBytes bytes with
  | error fault =>
    obtain ⟨name, hname, hrefusal⟩ := Xml.readBytes_eq_error_iff.mp hresult
    exact .inl ⟨fault, .project hbytes hpath hname hrefusal⟩
  | ok read =>
    cases read with
    | error reason =>
      have himport : Project.importUnits { path := path } fs r = _ :=
        Project.importUnits_of_unreadable r (hread.trans hresult)
      refine .inr ⟨[], _, by rw [hdescriptor, himport, ok_bind]; rfl, .noDocument hbytes hpath ?_⟩
      exact Xml.parse_eq_malformed hresult
    | ok root =>
      obtain ⟨log, himport⟩ : ∃ log, Project.importUnits { path := path } fs r = _ :=
        Project.importUnits_of_root r (hread.trans hresult)
      refine .inr ⟨_, log, by rw [hdescriptor, himport, ok_bind]; rfl, .document hbytes hpath ?_⟩
      exact Xml.parse_of_readBytes hresult

/-- The import of a descriptor is a fault that has one of the three causes, or it gives units. By
cases of the file: it is missing, a database, a project or neither. -/
theorem faulty_or_yields (fs : FileSystem) (r : Condition.Rule) (path : Path) :
    (∃ fault, Faulty fs path fault) ∨
      ∃ units log, importDescriptor fs r path = .ok ⟨units, log⟩ ∧ Yields fs r path units := by
  cases hload : fs.load path with
  | error fault =>
    obtain ⟨hnull, rfl⟩ := load_eq_error_iff.mp hload
    exact .inl ⟨_, .path hnull⟩
  | ok found =>
    cases found with
    | error fault =>
      refine .inr ⟨[], [.descriptorUnreadable path fault], ?_, .unreadable hload⟩
      rw [importDescriptor, hload, ok_bind]
      rfl
    | ok bytes =>
      by_cases hdatabase : IsDatabase path
      · have hdescriptor := importDescriptor_of_isDatabase (r := r) hload hdatabase
        cases himport : Database.importText (Database.textOf bytes) with
        | error fault =>
          obtain ⟨text, failure, htext, hfault, hoverruns⟩ :=
            Database.importText_eq_error_iff.mp himport
          exact .inl ⟨fault, .database hload hdatabase htext hoverruns hfault⟩
        | ok out =>
          exact .inr ⟨out.value, out.log, by rw [hdescriptor, himport],
            .database hload hdatabase (Database.lists_of_importText himport)⟩
      · by_cases hproject : IsProject path
        · exact faulty_or_yields_of_isProject hload hproject
        · exact .inr ⟨[], _, importDescriptor_of_other hload hdatabase hproject,
            .other hload hdatabase hproject⟩

/-- **When an import is a fault.** It is one exactly if the path has a null character, the text of a
database exceeds a limit, or a project declares an encoding that cannot be used; and then no unit is
imported. Otherwise the import gives what units there are, and a session has them added. -/
theorem import_faults_iff_faulty (fs : FileSystem) (r : Condition.Rule) (path : Path)
    (s : Session) :
    (∃ fault, Faulty fs path fault ∧ importDescriptor fs r path = .error fault ∧
        s.importFrom fs r path = .error fault) ∨
      (¬ ∃ fault, Faulty fs path fault) ∧ ∃ units log,
        Yields fs r path units ∧ importDescriptor fs r path = .ok ⟨units, log⟩ ∧
          s.importFrom fs r path = .ok ⟨(units, { s with units := s.units ++ units }), log⟩ := by
  rcases faulty_or_yields fs r path with ⟨fault, hfaulty⟩ | ⟨units, log, himport, hyields⟩
  · have himport := hfaulty.importDescriptor_eq (r := r)
    refine .inl ⟨fault, hfaulty, himport, ?_⟩
    rw [Session.importFrom, himport, error_bind]
  · refine .inr ⟨?_, units, log, hyields, himport, ?_⟩
    · rintro ⟨fault, hfaulty⟩
      rw [hfaulty.importDescriptor_eq] at himport
      cases himport
    · rw [Session.importFrom, himport, ok_bind]
      rfl

end

namespace UnknownEncoding

/-- A project that has no contents, in an encoding of its own. -/
def text : String := "<?xml version=\"1.0\" encoding=\"x\"?><Project/>"

def bytes : List UInt8 := text.toList.map Char.toUInt8

def files : FileSystem := ⟨fun _ => .ok (.file ⟨bytes.toArray⟩)⟩

def descriptor : Path := ⟨"", ["a.vcxproj"]⟩

end UnknownEncoding

/-- A project is no malformed document because of the name that it gives to its encoding. It is not
even read. -/
theorem importDescriptor_unknownEncoding :
    importDescriptor UnknownEncoding.files .standard UnknownEncoding.descriptor =
      .error (.unknownEncoding "x") := by
  have hbytes : UnknownEncoding.files.load UnknownEncoding.descriptor =
      .ok (.ok ⟨UnknownEncoding.bytes.toArray⟩) := by rfl
  have hpath : IsProject UnknownEncoding.descriptor := Text.hasWord_iff.mp (by decide)
  have hname : Xml.declaredEncoding? (ByteArray.mk UnknownEncoding.bytes.toArray).toList =
      some "x" := by
    rw [toList_eq_data_toList]
    decide +kernel
  have hrefusal : Xml.refusal? "x" = some (.unknownEncoding "x") := by decide +kernel
  exact (Faulty.project hbytes hpath hname hrefusal).importDescriptor_eq

end BuildDescriptor
