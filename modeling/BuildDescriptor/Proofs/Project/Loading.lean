import BuildDescriptor.Project.Import
import BuildDescriptor.Proofs.Bind

/-!
# Loading a project

A project file is a document, or it is not, or finding out is a fault. Loading it adds the contents
of the document to those that the project has, or leaves the project as it is, or fails; and the
units of the project are listed accordingly.

## Main definitions

* `Project.extend` — a project with the contents of a document added

## Main results

* `Project.load_of_root`, `Project.load_of_unreadable`, `Project.load_of_fault`
* `Project.importUnits_of_root`, `Project.importUnits_of_unreadable`, `Project.importUnits_of_fault`
-/

namespace BuildDescriptor

namespace Project

variable {p : Project} {fs : FileSystem} {root : Xml.Element} {reason : Xml.Unreadable}
  {fault : Fault}

/-- A project with the contents of a document added. -/
def extend (p : Project) (root : Xml.Element) : Project :=
  { p with contents := p.contents ++ .ofRoot root }

/-! ### Loading -/

theorem load_of_root (h : Xml.readFile fs p.path = .ok (.ok root)) :
    ∃ log, p.load fs = .ok ⟨(true, p.extend root), log⟩ := by
  rw [load, h, ok_bind]
  exact ⟨_, rfl⟩

theorem load_of_unreadable (h : Xml.readFile fs p.path = .ok (.error reason)) :
    p.load fs = .ok ⟨(false, p), [.projectUnreadable p.path reason]⟩ := by
  rw [load, h, ok_bind]
  rfl

theorem load_of_fault (h : Xml.readFile fs p.path = .error fault) : p.load fs = .error fault := by
  rw [load, h, error_bind]

/-! ### Listing the units -/

theorem importUnits_of_root (r : Condition.Rule) (h : Xml.readFile fs p.path = .ok (.ok root)) :
    ∃ log, p.importUnits fs r = .ok ⟨((p.extend root).units r, p.extend root), log⟩ := by
  obtain ⟨log, hload⟩ := load_of_root h
  rw [importUnits, hload, ok_bind]
  exact ⟨_, rfl⟩

theorem importUnits_of_unreadable (r : Condition.Rule)
    (h : Xml.readFile fs p.path = .ok (.error reason)) :
    p.importUnits fs r = .ok ⟨([], p), [.projectUnreadable p.path reason]⟩ := by
  rw [importUnits, load_of_unreadable h, ok_bind]
  rfl

theorem importUnits_of_fault (r : Condition.Rule) (h : Xml.readFile fs p.path = .error fault) :
    p.importUnits fs r = .error fault := by
  rw [importUnits, load_of_fault h, error_bind]

end Project

end BuildDescriptor
