import BuildDescriptor.Proofs.Project.History
import BuildDescriptor.Proofs.Project.Product

/-!
# A project file that changes

Between two calls on a project its file may be written anew, with whatever contents, or be taken
away. So every call finds files of its own, and what a call does is told by comparing it with the
same call on a new project, which has nothing but the file to go by.

A call adds everything that a new project would find in the file, or it adds nothing. There is no
third way, because the document is read to its end before any of the three lists grows. So the lists
never get out of step, and what is in them after some calls are the contents that the successful
ones have found, one after the other.

## Main definitions

* `Project.afterEach` — a project after calls that find different files
* `Project.fresh?`, `Project.found` — what a new project finds, and what it would find each time
* `Project.Outcome` — what a call can come to

## Main results

* `Project.outcome` — there are three ways for a call to end
* `Project.afterEach_eq` — what is there after several calls
* `Project.contents_afterEach`
-/

namespace BuildDescriptor

open Xml (InDocumentOrder)

namespace Project

variable {p : Project} {c : Contents} {fs : FileSystem} {path : Path} {r : Condition.Rule}

/-- A project after several calls, each with the files that it finds. -/
def afterEach (r : Condition.Rule) (p : Project) (steps : List (FileSystem × Call)) : Project :=
  steps.foldl (fun p step => p.after step.1 r step.2) p

/-- The contents that a new project has when its file is loaded, if that works. -/
def fresh? (fs : FileSystem) (path : Path) : Option Contents :=
  match load { path := path } fs with
  | .ok ⟨(true, p), _⟩ => some p.contents
  | _ => none

/-- The contents that a new project would have, for each of some calls for which loading works. -/
def found (path : Path) (steps : List (FileSystem × Call)) : List Contents :=
  steps.filterMap fun step => fresh? step.1 path

/-- Several contents, one after the other. -/
def Contents.joined (all : List Contents) : Contents where
  variants := all.flatMap (·.variants)
  sources := all.flatMap (·.sources)
  groups := all.flatMap (·.groups)

/-- What a call on a project can come to, and what the same call on a new project comes to. -/
inductive Outcome (r : Condition.Rule) (fs : FileSystem) (p : Project) : Prop
  /-- Loading is a fault, and so is listing the units. The project stays as it is. -/
  | fault {fault : Fault} (hload : p.load fs = .error fault)
      (hnew : load { path := p.path } fs = .error fault)
      (hafter : ∀ call, p.after fs r call = p) (hlisted : p.listed fs r = .error fault)
  /-- Loading fails, and there are no units whatever the project has. It stays as it is. -/
  | failure {log : List Notice} (hload : p.load fs = .ok ⟨(false, p), log⟩)
      (hnew : load { path := p.path } fs = .ok ⟨(false, { path := p.path }), log⟩)
      (hafter : ∀ call, p.after fs r call = p) (hlisted : p.listed fs r = .ok [])
  /-- Loading adds what a new project finds, which are the contents of the document in the file, in
  the order of the document. -/
  | success {log log' : List Notice} {root : Xml.Element} {c : Contents}
      (hload : p.load fs = .ok ⟨(true, { p with contents := p.contents ++ c }), log⟩)
      (hnew : load { path := p.path } fs = .ok ⟨(true, { path := p.path, contents := c }), log'⟩)
      (hafter : ∀ call, p.after fs r call = { p with contents := p.contents ++ c })
      (hroot : Xml.readFile fs p.path = .ok (.ok root))
      (hvariants : InDocumentOrder (VariantAt root) c.variants)
      (hsources : InDocumentOrder (SourceAt root) c.sources)
      (hgroups : InDocumentOrder (GroupAt root) c.groups)

/-! ### One call -/

/-- **There are three ways for a call to end.** They are told apart by what is read from the file,
which the project has no part in. -/
theorem outcome (r : Condition.Rule) (fs : FileSystem) (p : Project) : Outcome r fs p := by
  cases hread : Xml.readFile fs p.path with
  | error fault =>
    exact .fault (load_of_fault hread) (load_of_fault hread) (after_of_fault hread)
      (listed_of_fault hread)
  | ok read =>
    cases read with
    | error reason =>
      exact .failure (load_of_unreadable hread) (load_of_unreadable hread)
        (after_of_unreadable hread) (listed_of_unreadable hread)
    | ok root =>
      obtain ⟨log, hload⟩ := load_of_root hread
      obtain ⟨log', hnew⟩ := load_of_root (p := { path := p.path }) hread
      exact .success hload hnew (after_of_root hread) hread (inDocumentOrder_variants root)
        (inDocumentOrder_sources root) (inDocumentOrder_groups root)

/-- A call adds nothing where a new project finds nothing. -/
theorem after_of_fresh?_none (h : fresh? fs p.path = none) (call : Call) :
    p.after fs r call = p := by
  cases outcome r fs p with
  | fault _ _ hafter _ => exact hafter call
  | failure _ _ hafter _ => exact hafter call
  | success _ hnew => simp [fresh?, hnew] at h

/-- A call adds what a new project finds. -/
theorem after_of_fresh?_some (h : fresh? fs p.path = some c) (call : Call) :
    p.after fs r call = { p with contents := p.contents ++ c } := by
  cases outcome r fs p with
  | fault _ hnew => simp [fresh?, hnew] at h
  | failure _ hnew => simp [fresh?, hnew] at h
  | success _ hnew hafter =>
    obtain rfl : _ = c := by simpa [fresh?, hnew] using h
    exact hafter call

/-! ### Several calls -/

theorem Contents.joined_nil : joined [] = {} := rfl

theorem Contents.joined_cons (c : Contents) (all : List Contents) :
    joined (c :: all) = c ++ joined all := by
  simp only [joined, List.flatMap_cons]
  rfl

/-- After some calls everything that was found is there. By induction on the calls, from any
project. -/
theorem afterEach_eq (r : Condition.Rule) (p : Project) (steps : List (FileSystem × Call)) :
    p.afterEach r steps = { p with contents := p.contents ++ .joined (found p.path steps) } := by
  induction steps generalizing p with
  | nil => rw [found, List.filterMap_nil, Contents.joined_nil, Contents.append_empty]; rfl
  | cons step steps ih =>
    rw [afterEach, List.foldl_cons, ← afterEach]
    cases hfresh : fresh? step.1 p.path with
    | none =>
      have hfound : found p.path (step :: steps) = found p.path steps :=
        List.filterMap_cons_none hfresh
      rw [after_of_fresh?_none hfresh, ih, hfound]
    | some c =>
      have hfound : found p.path (step :: steps) = c :: found p.path steps :=
        List.filterMap_cons_some hfresh
      rw [after_of_fresh?_some hfresh, ih, hfound, Contents.joined_cons, ← Contents.append_assoc]

/-- **A project file that changes.** After any calls, whatever files each of them finds, the lists
of a project are those of the contents that new projects would have found, one after the other. And
the next call either adds what a new project finds, in document order, or it fails, or it is a
fault; if it does not add to all three lists it leaves the project as it is, and lists no units. -/
theorem contents_afterEach (r : Condition.Rule) (path : Path)
    (steps : List (FileSystem × Call)) :
    let p := afterEach r { path := path } steps
    (p.path = path ∧
        p.contents.variants = (found path steps).flatMap (·.variants) ∧
        p.contents.sources = (found path steps).flatMap (·.sources) ∧
        p.contents.groups = (found path steps).flatMap (·.groups)) ∧
      ∀ fs, Outcome r fs p := by
  intro p
  have hp : p = { path := path, contents := .joined (found path steps) } :=
    afterEach_eq r { path := path } steps
  refine ⟨?_, fun fs => outcome r fs p⟩
  rw [hp]
  exact ⟨rfl, rfl, rfl, rfl⟩

namespace ReloadingSample

/-- Nothing is there. -/
def noFiles : FileSystem := ⟨fun _ => .error .missing⟩

/-- The project file is taken away and comes back. -/
def steps : List (FileSystem × Call) :=
  [(Sample.files, .load), (noFiles, .importUnits), (Sample.files, .importUnits)]

theorem readFile_noFiles :
    Xml.readFile noFiles Sample.path = .ok (.error (.file ⟨.missing, Sample.path⟩)) := by rfl

theorem found_eq : found Sample.path steps = [Sample.contents, Sample.contents] := by
  have hmissing : fresh? noFiles Sample.path = none := by rfl
  obtain ⟨log, hload⟩ := load_of_root (p := { path := Sample.path }) Sample.readFile_eq
  have hpresent : fresh? Sample.files Sample.path = some Sample.contents := by
    rw [fresh?, hload, ← Sample.ofRoot_eq]
    rfl
  simp [found, steps, hmissing, hpresent]

end ReloadingSample

open ReloadingSample in
/-- Two of three calls find the file, and the next one does not. -/
theorem contents_afterEach_sample :
    (afterEach .standard { path := Sample.path } steps).contents.sources = ["a.c", "a.c"] ∧
      (afterEach .standard { path := Sample.path } steps).listed noFiles .standard = .ok [] := by
  obtain ⟨⟨hpath, -, hsources, -⟩, hnext⟩ := contents_afterEach .standard Sample.path steps
  refine ⟨?_, ?_⟩
  · rw [hsources, found_eq]
    rfl
  · have hread := readFile_noFiles
    rw [← hpath] at hread
    have hfails := load_of_unreadable hread
    cases hnext noFiles with
    | fault hload =>
      rw [hfails] at hload
      cases hload
    | failure _ _ _ hlisted => exact hlisted
    | success hload =>
      rw [hfails] at hload
      cases hload

end Project

end BuildDescriptor
