import BuildDescriptor.CommandLine.Run
import BuildDescriptor.Proofs.Session.PlatformFiles
import Mathlib.Data.List.Nodup

/-!
# How the command `import` ends

The command `import` ends with an exit code. It is 2 if there is no file at the path of the
descriptor. If there is one, then it is 1 if something that the command is asked to do fails: the
platform is not built in, the platform file is no document about a platform, or the import is a
fault. If nothing fails, the units are printed. The code is 0 then, unless the console refuses one
of the texts: that is a failure too, and what is in front of the text remains printed.

A failure may be an answer, as for a platform that is not known, or a fault, as for a platform file
in an encoding that is not known. The command deals with both in the same way, so every stage is
described by whether it fails, and not by how.

Which platform is active makes no difference to what is printed. A unit is shown with the platform
that its descriptor names for it, and the import does not look at the session.

## The look at the descriptor

There is one end without an exit code. The system does not look up a path that is too long, or what
is in a directory that may not be searched, and so does not tell what is there. This is a fault, and
since the look at the descriptor comes before everything else, nothing turns it into an exit code.

A file that may not be read is a file all the same. It has no units, which is no failure.

## Main definitions

* `Unseen`, `HasFile` — what may be at the path of a descriptor
* `CommandLine.ImportFails` — what may fail if there is a file
* `CommandLine.Console.Prints`, `CommandLine.Ends` — what is printed, and the exit code

## Main results

* `Platform.isSome_named?_iff` — the names that are known
* `CommandLine.Console.prints_print` — how far the printing gets
* `CommandLine.runImport_of_fails`, `CommandLine.runImport_of_not_fails` — the command on a file
* `CommandLine.unseen_or_ends` — how the command ends
* `CommandLine.run_of_isLongName`, `CommandLine.run_longName` — ends without an exit code
-/

namespace BuildDescriptor

variable {fs : FileSystem} {path : Path} {problem : FileProblem}

/-- The system does not tell what is at a path. With a null character it is not even asked to. -/
structure Unseen (fs : FileSystem) (path : Path) (problem : FileProblem) : Prop where
  no_null : '\x00' ∉ path.toString.toList
  entry_eq : fs.entry path = .error problem
  isRefusal : problem.isRefusal = true

/-- What is a file, be it one that may not be read. -/
inductive Entry.IsFile : Entry → Prop
  | readable (content : ByteArray) : IsFile (.file content)
  | locked : IsFile .lockedFile

/-- There is a file at a path. -/
structure HasFile (fs : FileSystem) (path : Path) : Prop where
  no_null : '\x00' ∉ path.toString.toList
  exists_entry : ∃ e, fs.entry path = .ok e ∧ e.IsFile

theorem HasFile.not_unseen (h : HasFile fs path) : ¬ Unseen fs path problem := by
  intro hunseen
  obtain ⟨e, hentry, -⟩ := h.exists_entry
  rw [hunseen.entry_eq] at hentry
  cases hentry

theorem FileSystem.isFile_iff :
    fs.isFile path = true ↔ ∃ e, fs.entry path = .ok e ∧ e.IsFile := by
  unfold isFile
  constructor
  · intro h
    split at h
    · exact ⟨_, ‹_›, .readable _⟩
    · exact ⟨_, ‹_›, .locked⟩
    · cases h
  · rintro ⟨e, hentry, hfile⟩
    cases hfile <;> simp only [hentry]

/-! ### Names of platforms -/

namespace Platform

/-- The name of a built-in profile, blanks around it and letter case aside. -/
def IsBuiltinName [Machine] (name : String) : Prop :=
  ∃ p ∈ builtins, p.name.toLower = (Text.strip name).toLower

/-- Kinds are told apart by their names in lower case. -/
theorem Kind.eq_of_toLower_name {k k' : Kind} (h : k.name.toLower = k'.name.toLower) : k = k' := by
  have hnodup : (all.map fun k => k.name.toLower).Nodup := by decide +kernel
  exact List.inj_on_of_nodup_map hnodup (mem_all k) (mem_all k') h

theorem Kind.toLower_name_of_ofName? {name : String} {k : Kind} (h : ofName? name = some k) :
    k.name.toLower = (Text.strip name).toLower := by
  have hfound := List.find?_some h
  exact eq_of_beq hfound

theorem Kind.ofName?_eq_some_iff {name : String} {k : Kind} :
    ofName? name = some k ↔ k.name.toLower = (Text.strip name).toLower := by
  refine ⟨toLower_name_of_ofName?, fun h => ?_⟩
  have hexists : (ofName? name).isSome :=
    List.find?_isSome.mpr ⟨k, k.mem_all, (beq_iff_eq (a := k.name.toLower)).mpr h⟩
  obtain ⟨k', hk'⟩ := Option.isSome_iff_exists.mp hexists
  rw [hk', eq_of_toLower_name ((toLower_name_of_ofName? hk').trans h.symm)]

theorem isSome_named?_iff [Machine] {name : String} :
    (named? name).isSome ↔ IsBuiltinName name := by
  constructor
  · intro h
    obtain ⟨p, hp⟩ := Option.isSome_iff_exists.mp h
    obtain ⟨k, hk, hbuiltin⟩ := Option.bind_eq_some_iff.mp hp
    refine ⟨p, List.mem_filterMap.mpr ⟨k, k.mem_all, hbuiltin⟩, ?_⟩
    rw [Profile.name, kind_of_builtin? hbuiltin]
    exact Kind.ofName?_eq_some_iff.mp hk
  · rintro ⟨p, hp, hname⟩
    obtain ⟨k, -, hbuiltin⟩ := List.mem_filterMap.mp hp
    rw [Profile.name, kind_of_builtin? hbuiltin] at hname
    rw [named?, Kind.ofName?_eq_some_iff.mpr hname, Option.bind_some, hbuiltin, Option.isSome_some]

end Platform

/-! ### Names of files -/

/-- A name in the current directory that has too many bytes. -/
theorem FileTree.step_of_longName {tree : FileTree} {part : String}
    (hname : maxNameSize < part.utf8ByteSize) (habsent : tree.entryAt? [part] = none) :
    tree.step (.inside []) part = .error .nameTooLong := by
  have hne : part ≠ ".." := by
    rintro rfl
    exact absurd hname (by decide)
  have hroot : tree.entryAt? [] = some .directory := rfl
  simp only [step, hroot, if_neg hne, List.nil_append, habsent, Option.isSome_none,
    Bool.false_eq_true, if_false, absence, if_neg (Nat.not_le.mpr hname)]

theorem FileTree.entry_of_longName {tree : FileTree} {part : String}
    (hname : maxNameSize < part.utf8ByteSize) (habsent : tree.entryAt? [part] = none) :
    tree.entry ⟨"", [part]⟩ = .error .nameTooLong := by
  have hfold : [part].foldlM tree.step (.inside []) = .error .nameTooLong := by
    rw [List.foldlM_cons, step_of_longName hname habsent, error_bind]
  simp only [entry, if_true, hfold, error_bind, ite_self]

namespace CommandLine

variable {c : Console} {t : Target} {descriptor : String} {json : Bool} {arguments : List String}

/-! ### What is printed -/

/-- Texts, each on lines of its own. -/
def lines (texts : List String) : String := String.join (texts.map (· ++ "\n"))

theorem lines_cons (text : String) (texts : List String) :
    lines (text :: texts) = text ++ "\n" ++ lines texts := by
  rw [lines, List.map_cons, String.join_cons]
  rfl

/-- What a console prints of some texts, and the fault that this ends with. -/
inductive Console.Prints (c : Console) (texts : List String) : String → Option Fault → Prop
  | all (h : ∀ text ∈ texts, c.refusal? text = none) : Prints c texts (lines texts) none
  /-- The first text that is refused, and all behind it, are missing. -/
  | upTo {before after : List String} {text reason : String}
      (htexts : texts = before ++ text :: after) (hbefore : ∀ text ∈ before, c.refusal? text = none)
      (h : c.refusal? text = some reason) :
      Prints c texts (lines before) (some (.unwritable reason))

theorem Console.prints_print (c : Console) (texts : List String) :
    c.Prints texts (c.print texts).1 (c.print texts).2 := by
  induction texts with
  | nil => exact .all nofun
  | cons text texts ih =>
    cases h : c.refusal? text with
    | some reason =>
      simp only [print, h]
      exact .upTo (List.nil_append _).symm nofun h
    | none =>
      simp only [print, h]
      generalize (c.print texts).1 = stdout, (c.print texts).2 = fault? at ih
      cases ih with
      | all hall =>
        rw [← lines_cons]
        exact .all (List.forall_mem_cons.mpr ⟨h, hall⟩)
      | upTo htexts hbefore hrefusal =>
        rw [← lines_cons]
        exact .upTo (by rw [htexts, List.cons_append]) (List.forall_mem_cons.mpr ⟨h, hbefore⟩)
          hrefusal

theorem Console.Prints.eq_lines {texts : List String} {stdout : String}
    (h : c.Prints texts stdout none) : stdout = lines texts := by
  cases h
  rfl

theorem Console.Prints.exists_refusal {texts : List String} {stdout : String} {fault : Fault}
    (h : c.Prints texts stdout (some fault)) : ∃ text ∈ texts, c.refusal? text ≠ none := by
  cases h with
  | upTo htexts _ hrefusal =>
    refine ⟨_, ?_, Option.ne_none_iff_exists'.mpr ⟨_, hrefusal⟩⟩
    rw [htexts]
    exact List.mem_append_cons_self

/-! ### The look at the descriptor -/

theorem checkPath_of_no_null (h : '\x00' ∉ path.toString.toList) :
    checkPath fs path = (do
      if !(← fs.isPresent path) then return some (badPath "Path does not exist" path)
      else if !fs.isFile path then return some (badPath "Path is not a file" path)
      else return none) := by
  have hcontains : ¬ path.toString.toList.contains '\x00' = true := mt List.contains_iff_mem.mp h
  simp only [checkPath, if_neg hcontains]

theorem checkPath_of_hasFile (h : HasFile fs path) : checkPath fs path = .ok none := by
  obtain ⟨e, hentry, -⟩ := h.exists_entry
  have hisFile : fs.isFile path = true := FileSystem.isFile_iff.mpr h.exists_entry
  rw [checkPath_of_no_null h.no_null]
  simp only [FileSystem.isPresent, hentry, hisFile]
  rfl

theorem checkPath_of_unseen (h : Unseen fs path problem) :
    checkPath fs path = .error ⟨problem, path⟩ := by
  rw [checkPath_of_no_null h.no_null]
  simp only [FileSystem.isPresent, h.entry_eq, if_pos h.isRefusal]
  rfl

theorem checkPath_of_not_hasFile (hseen : ¬ ∃ problem, Unseen fs path problem)
    (h : ¬ HasFile fs path) : ∃ reason, checkPath fs path = .ok (some (badPath reason path)) := by
  by_cases hnull : '\x00' ∈ path.toString.toList
  · refine ⟨"Path does not exist", ?_⟩
    simp only [checkPath, if_pos (List.contains_iff_mem.mpr hnull)]
    rfl
  · rw [checkPath_of_no_null hnull]
    cases hentry : fs.entry path with
    | error problem =>
      have hrefusal : ¬ problem.isRefusal = true := fun hrefusal =>
        hseen ⟨problem, hnull, hentry, hrefusal⟩
      simp only [FileSystem.isPresent, hentry, if_neg hrefusal]
      exact ⟨_, rfl⟩
    | ok e =>
      have hisFile : fs.isFile path = false :=
        Bool.not_eq_true _ ▸ fun hisFile => h ⟨hnull, FileSystem.isFile_iff.mp hisFile⟩
      simp only [FileSystem.isPresent, hentry, hisFile]
      exact ⟨_, rfl⟩

/-! ### Failures -/

/-- The end of a command that has failed. -/
structure Outcome.IsFailure (o : Outcome) : Prop where
  exitCode_eq : o.exitCode = some 1
  stdout_eq : o.stdout = ""

theorem isFailure_refused (title message : String) : (refused title message).IsFailure := ⟨rfl, rfl⟩

theorem isFailure_report (c : Console) (fault : Fault) (verbose : Bool) :
    (c.report fault verbose).IsFailure := ⟨rfl, rfl⟩

theorem Outcome.IsFailure.after {o : Outcome} (h : o.IsFailure) (stderr : String) :
    (o.after stderr).IsFailure := ⟨h.exitCode_eq, h.stdout_eq⟩

/-- A part of a command fails: by a fault, or by an end of the command. -/
inductive Failed {α : Type} : Except Fault (Except Outcome α) → Prop
  | fault (fault : Fault) : Failed (.error fault)
  | ended {o : Outcome} (h : o.IsFailure) : Failed (.ok (.error o))

/-! ### The session that is asked for -/

/-- There is no document about a platform where the platform file should be. -/
def PlatformFileRefused (fs : FileSystem) (t : Target) : Prop :=
  ∃ file, t.platformFile = some file ∧ ¬ ∃ root, IsPlatformFile fs (Path.ofString file) root

/-- It does not matter whether the file is refused by an answer or by a fault. -/
theorem loadPlatformFile_of_refused (h : PlatformFileRefused fs t) (s : Session) :
    Failed (loadPlatformFile fs s t) := by
  obtain ⟨file, hfile, hnot⟩ := h
  rw [loadPlatformFile, hfile]
  rcases Session.exists_unloadable_or_loads s fs (Path.ofString file) with
    ⟨fault, hfault⟩ | ⟨done, hdone, hloads⟩
  · simp only [Session.loadPlatformFile_of_unloadable hfault s, error_bind]
    exact .fault fault
  · simp only [hdone, ok_bind, if_neg (mt hloads.success_iff.mp hnot)]
    exact .ended ((isFailure_refused ..).after _)

theorem loadPlatformFile_of_not_refused (h : ¬ PlatformFileRefused fs t) (s : Session) :
    ∃ loaded, loadPlatformFile fs s t = .ok (.ok loaded) := by
  cases hfile : t.platformFile with
  | none => exact ⟨⟨s, []⟩, by rw [loadPlatformFile, hfile]; rfl⟩
  | some file =>
    have hroot : ∃ root, IsPlatformFile fs (Path.ofString file) root := by
      by_contra hnot
      exact h ⟨file, hfile, hnot⟩
    obtain ⟨root, hroot⟩ := hroot
    obtain ⟨done, hdone, hloads⟩ := Session.loads_of_isPlatformFile hroot s
    refine ⟨⟨done.value.2, done.log⟩, ?_⟩
    have hsuccess := hloads.success_iff.mpr ⟨root, hroot⟩
    simp only [loadPlatformFile, hfile, hdone, ok_bind, if_pos hsuccess]
    rfl

section Ends

variable [Platform.Machine]

/-- The platform that is asked for is not built in. An empty name asks for none. -/
def PlatformRefused (t : Target) : Prop :=
  ∃ name, t.platform = some name ∧ name ≠ "" ∧ ¬ Platform.IsBuiltinName name

theorem selectPlatform_of_refused (h : PlatformRefused t) (s : Session) :
    ∃ o, selectPlatform s t = .error o ∧ o.IsFailure := by
  obtain ⟨name, hname, hne, hnot⟩ := h
  have hnone : Platform.named? name = none :=
    Option.not_isSome_iff_eq_none.mp (mt Platform.isSome_named?_iff.mp hnot)
  simp only [selectPlatform, hname, if_neg hne, Session.select, hnone]
  exact ⟨_, rfl, (isFailure_refused ..).after _⟩

theorem selectPlatform_of_not_refused (h : ¬ PlatformRefused t) (s : Session) :
    ∃ selected, selectPlatform s t = .ok selected := by
  cases hname : t.platform with
  | none => exact ⟨_, by rw [selectPlatform, hname]⟩
  | some name =>
    by_cases hne : name = ""
    · exact ⟨⟨s, []⟩, by simp only [selectPlatform, hname, if_pos hne]⟩
    · have hbuiltin : Platform.IsBuiltinName name := by
        by_contra hnot
        exact h ⟨name, hname, hne, hnot⟩
      obtain ⟨p, hp⟩ := Option.isSome_iff_exists.mp (Platform.isSome_named?_iff.mpr hbuiltin)
      refine ⟨⟨{ s with profile := p }, []⟩, ?_⟩
      simp only [selectPlatform, hname, if_neg hne, Session.select, hp, if_true]

theorem targetSession_of_refused (h : PlatformRefused t ∨ PlatformFileRefused fs t) :
    Failed (targetSession fs t) := by
  by_cases hplatform : PlatformRefused t
  · obtain ⟨o, ho, hfailure⟩ := selectPlatform_of_refused hplatform initialSession
    rw [targetSession, ho]
    exact .ended hfailure
  · obtain ⟨selected, hselected⟩ := selectPlatform_of_not_refused hplatform initialSession
    have hfailed := loadPlatformFile_of_refused (h.resolve_left hplatform) selected.value
    simp only [targetSession, hselected]
    generalize loadPlatformFile fs selected.value t = loaded at hfailed
    cases hfailed with
    | fault fault => exact .fault fault
    | ended hfailure => exact .ended (hfailure.after _)

theorem targetSession_of_not_refused (hplatform : ¬ PlatformRefused t)
    (hfile : ¬ PlatformFileRefused fs t) : ∃ ready, targetSession fs t = .ok (.ok ready) := by
  obtain ⟨selected, hselected⟩ := selectPlatform_of_not_refused hplatform initialSession
  obtain ⟨loaded, hloaded⟩ := loadPlatformFile_of_not_refused hfile selected.value
  refine ⟨⟨loaded.value, selected.log ++ loaded.log⟩, ?_⟩
  simp only [targetSession, hselected, hloaded, ok_bind]
  rfl

/-! ### The end of `import` -/

variable [Json.Capacity]

/-- Something that `import` is asked to do with a file fails. -/
inductive ImportFails (fs : FileSystem) (path : Path) (t : Target) : Prop
  | platform (h : PlatformRefused t)
  | platformFile (h : PlatformFileRefused fs t)
  | descriptor {fault : Fault} (h : importDescriptor fs .standard path = .error fault)

/-- How `import` ends. -/
inductive Ends (c : Console) (fs : FileSystem) (path : Path) (json : Bool) (t : Target)
    (o : Outcome) : Prop
  | badPath (h : ¬ HasFile fs path) (hcode : o.exitCode = some 2) (hstdout : o.stdout = "")
  | failure (hfile : HasFile fs path) (h : ImportFails fs path t) (hcode : o.exitCode = some 1)
      (hstdout : o.stdout = "")
  | refused (hfile : HasFile fs path) (h : ¬ ImportFails fs path t) {units : List CompileUnit}
      {log : List Notice} (himport : importDescriptor fs .standard path = .ok ⟨units, log⟩)
      {fault : Fault} (hprints : c.Prints (unitTexts json units) o.stdout (some fault))
      (hcode : o.exitCode = some 1)
  | success (hfile : HasFile fs path) (h : ¬ ImportFails fs path t) {units : List CompileUnit}
      {log : List Notice} (himport : importDescriptor fs .standard path = .ok ⟨units, log⟩)
      (hprints : c.Prints (unitTexts json units) o.stdout none) (hcode : o.exitCode = some 0)

/-! ### The command, on a file -/

-- By `delta`, because the equation that `simp` would use for `runImport` takes seconds to derive.
theorem runImport_of_checked (h : checkPath fs (Path.ofString descriptor) = .ok none)
    (c : Console) (json : Bool) (t : Target) :
    runImport c fs descriptor json t =
      match importUnits c fs (Path.ofString descriptor) json t with
      | .ok o => .ok o
      | .error fault => .ok (c.report fault t.verbose) := by
  delta runImport
  cases hunits : importUnits c fs (Path.ofString descriptor) json t with
  | ok o => simp only [h, hunits]
  | error fault => simp only [h, hunits]

/-- Every fault is turned into an end of the command. -/
theorem runImport_of_failed (hfile : HasFile fs (Path.ofString descriptor))
    (h : Failed (targetSession fs t)) (c : Console) (json : Bool) :
    ∃ o, runImport c fs descriptor json t = .ok o ∧ o.IsFailure := by
  simp only [runImport_of_checked (checkPath_of_hasFile hfile), importUnits]
  generalize targetSession fs t = ready at h
  cases h with
  | fault fault => exact ⟨_, rfl, isFailure_report ..⟩
  | ended hfailure => exact ⟨_, rfl, hfailure⟩

theorem runImport_of_fails (hfile : HasFile fs (Path.ofString descriptor))
    (h : ImportFails fs (Path.ofString descriptor) t) (c : Console) (json : Bool) :
    ∃ o, runImport c fs descriptor json t = .ok o ∧ o.IsFailure := by
  by_cases hrefused : PlatformRefused t ∨ PlatformFileRefused fs t
  · exact runImport_of_failed hfile (targetSession_of_refused hrefused) c json
  · obtain ⟨hplatform, hplatformFile⟩ := not_or.mp hrefused
    cases h with
    | platform h => exact absurd h hplatform
    | platformFile h => exact absurd h hplatformFile
    | descriptor himport =>
      obtain ⟨ready, hready⟩ := targetSession_of_not_refused hplatform hplatformFile
      simp only [runImport_of_checked (checkPath_of_hasFile hfile), importUnits, hready, ok_bind,
        Session.importFrom, himport, error_bind]
      exact ⟨_, rfl, (isFailure_report ..).after _⟩

/-- The session has no part in what is printed. -/
theorem runImport_of_not_fails (hfile : HasFile fs (Path.ofString descriptor))
    (h : ¬ ImportFails fs (Path.ofString descriptor) t) (c : Console) (json : Bool) :
    ∃ units log before,
      importDescriptor fs .standard (Path.ofString descriptor) = .ok ⟨units, log⟩ ∧
        runImport c fs descriptor json t =
          .ok (printUnits c (Path.ofString descriptor) json t.verbose units (before ++ log)) := by
  cases himport : importDescriptor fs .standard (Path.ofString descriptor) with
  | error fault => exact absurd (.descriptor himport) h
  | ok imported =>
    obtain ⟨ready, hready⟩ : ∃ ready, targetSession fs t = .ok (.ok ready) :=
      targetSession_of_not_refused (fun hplatform => h (.platform hplatform))
        fun hplatformFile => h (.platformFile hplatformFile)
    simp only [runImport_of_checked (checkPath_of_hasFile hfile), importUnits, hready, ok_bind,
      Session.importFrom, himport]
    exact ⟨imported.value, imported.log, ready.log, rfl, rfl⟩

theorem ends_printUnits (hfile : HasFile fs path) (h : ¬ ImportFails fs path t)
    {units : List CompileUnit} {log : List Notice}
    (himport : importDescriptor fs .standard path = .ok ⟨units, log⟩) (c : Console) (json : Bool)
    (notices : List Notice) :
    Ends c fs path json t (printUnits c path json t.verbose units notices) := by
  have hprints := c.prints_print (unitTexts json units)
  unfold printUnits
  generalize c.print (unitTexts json units) = printed at hprints ⊢
  obtain ⟨stdout, _ | fault⟩ := printed
  · exact .success hfile h himport hprints rfl
  · exact .refused hfile h himport hprints rfl

/-! ### The command, on any path -/

theorem runImport_of_unseen (h : Unseen fs (Path.ofString descriptor) problem) (c : Console)
    (json : Bool) (t : Target) :
    runImport c fs descriptor json t = .error (.file ⟨problem, Path.ofString descriptor⟩) := by
  delta runImport
  simp only [checkPath_of_unseen h]

theorem runImport_ends (hseen : ¬ ∃ problem, Unseen fs (Path.ofString descriptor) problem)
    (c : Console) (json : Bool) (t : Target) :
    ∃ o, runImport c fs descriptor json t = .ok o ∧
      Ends c fs (Path.ofString descriptor) json t o := by
  by_cases hfile : HasFile fs (Path.ofString descriptor)
  · by_cases hfails : ImportFails fs (Path.ofString descriptor) t
    · obtain ⟨o, ho, hfailure⟩ := runImport_of_fails hfile hfails c json
      exact ⟨o, ho, .failure hfile hfails hfailure.exitCode_eq hfailure.stdout_eq⟩
    · obtain ⟨units, log, before, himport, ho⟩ := runImport_of_not_fails hfile hfails c json
      exact ⟨_, ho, ends_printUnits hfile hfails himport c json _⟩
  · obtain ⟨reason, hcheck⟩ := checkPath_of_not_hasFile hseen hfile
    refine ⟨badPath reason (Path.ofString descriptor), ?_, .badPath hfile rfl rfl⟩
    delta runImport
    simp only [hcheck]

theorem Ends.stdout_of_success {o : Outcome} (h : Ends c fs path json t o)
    (hcode : o.exitCode = some 0) :
    ∃ units log, importDescriptor fs .standard path = .ok ⟨units, log⟩ ∧
      o.stdout = lines (unitTexts json units) := by
  cases h with
  | success _ _ himport hprints => exact ⟨_, _, himport, hprints.eq_lines⟩
  | badPath _ hother | failure _ _ hother | refused _ _ _ _ hother =>
    rw [hother] at hcode
    cases hcode

/-- Only a console that refuses a text makes a command fail after it has printed something. -/
theorem Ends.stdout_of_failure {o : Outcome} (h : Ends c fs path json t o)
    (hcode : o.exitCode ≠ some 0) (hconsole : ∀ text, c.refusal? text = none) : o.stdout = "" := by
  cases h with
  | badPath _ _ hstdout => exact hstdout
  | failure _ _ _ hstdout => exact hstdout
  | refused _ _ _ hprints =>
    obtain ⟨text, -, hrefusal⟩ := hprints.exists_refusal
    exact absurd (hconsole text) hrefusal
  | success _ _ _ _ hzero => exact absurd hzero hcode

theorem Ends.stdout_eq {c' : Console} {t' : Target} {o o' : Outcome}
    (h : Ends c fs path json t o) (h' : Ends c' fs path json t' o') (hcode : o.exitCode = some 0)
    (hcode' : o'.exitCode = some 0) : o'.stdout = o.stdout := by
  obtain ⟨units, log, himport, hstdout⟩ := h.stdout_of_success hcode
  obtain ⟨units', log', himport', hstdout'⟩ := h'.stdout_of_success hcode'
  rw [himport] at himport'
  cases himport'
  rw [hstdout, hstdout']

theorem run_of_request (h : request arguments = .ok (.import descriptor json t)) (fs : FileSystem)
    (c : Console) : run fs arguments c = runImport c fs descriptor json t := by
  simp only [run, h]

/-- **How `import` ends.** If the system does not tell what is at the path of the descriptor, this
is a fault. Otherwise the command ends with the exit code that is due. A success prints the units of
the descriptor, and a failure nothing, except if it is the console that refuses a text. Where two
runs on a descriptor succeed, they print the same, whichever platforms and platform files they are
asked for. -/
theorem unseen_or_ends (fs : FileSystem) (c : Console)
    (h : request arguments = .ok (.import descriptor json t)) :
    (∃ problem, Unseen fs (Path.ofString descriptor) problem ∧
        run fs arguments c = .error (.file ⟨problem, Path.ofString descriptor⟩)) ∨
      (¬ ∃ problem, Unseen fs (Path.ofString descriptor) problem) ∧
        ∃ o, run fs arguments c = .ok o ∧ Ends c fs (Path.ofString descriptor) json t o ∧
          ((∀ text, c.refusal? text = none) → o.exitCode ≠ some 0 → o.stdout = "") ∧
          ∀ arguments' t' o', request arguments' = .ok (.import descriptor json t') →
            run fs arguments' c = .ok o' → o.exitCode = some 0 → o'.exitCode = some 0 →
              o'.stdout = o.stdout := by
  by_cases hseen : ∃ problem, Unseen fs (Path.ofString descriptor) problem
  · obtain ⟨problem, hunseen⟩ := hseen
    refine .inl ⟨problem, hunseen, ?_⟩
    rw [run_of_request h]
    exact runImport_of_unseen hunseen c json t
  · obtain ⟨o, ho, hends⟩ := runImport_ends hseen c json t
    refine .inr ⟨hseen, o, (run_of_request h fs c).trans ho, hends,
      fun hconsole hcode => hends.stdout_of_failure hcode hconsole, ?_⟩
    intro arguments' t' o' h' ho' hcode hcode'
    obtain ⟨o'', ho'', hends'⟩ := runImport_ends hseen c json t'
    rw [run_of_request h', ho''] at ho'
    cases ho'
    exact hends.stdout_eq hends' hcode hcode'

end Ends

namespace ImportSample

/-- The import of a project. Blanks around the name of a platform do not matter. -/
def words : List String := ["import", "app.vcxproj", "-p", "win64 "]

def target : Target := { platform := some "win64 " }

theorem request_eq : request words = .ok (.import "app.vcxproj" false target) := by
  decide +kernel

theorem path_eq : Path.ofString "app.vcxproj" = Project.Sample.path := by
  decide +kernel

theorem hasFile : HasFile Project.Sample.files Project.Sample.path :=
  ⟨by decide +kernel, _, rfl, .readable _⟩

theorem isBuiltinName : Platform.IsBuiltinName "win64 " :=
  Platform.isSome_named?_iff.mp (by decide +kernel)

theorem not_platformRefused : ¬ PlatformRefused target := by
  rintro ⟨name, hname, -, hnot⟩
  obtain rfl : "win64 " = name := Option.some.inj hname
  exact hnot isBuiltinName

theorem not_importFails : ¬ ImportFails Project.Sample.files Project.Sample.path target := by
  rintro (h | ⟨file, hfile, -⟩ | himport)
  · exact not_platformRefused h
  · cases hfile
  · obtain ⟨log, hok⟩ := Session.Sample.importDescriptor_eq
    rw [hok] at himport
    cases himport

/-- What is printed. -/
def text : String :=
  "a.c\n  platform: win32W\n  defines:  FIRST;\na.c\n  platform: win64\n  defines:  SECOND;\n"

theorem text_eq : lines (unitTexts false Session.Sample.units) = text := by
  decide +kernel

end ImportSample

/-- A project for two platforms. The one that is asked for is only one of them. -/
theorem unseen_or_ends_sample :
    request ImportSample.words = .ok (.import "app.vcxproj" false ImportSample.target) ∧
      ∃ o, run Project.Sample.files ImportSample.words = .ok o ∧ o.exitCode = some 0 ∧
        o.stdout = ImportSample.text := by
  refine ⟨ImportSample.request_eq, ?_⟩
  have hends := unseen_or_ends Project.Sample.files {} ImportSample.request_eq
  rw [ImportSample.path_eq] at hends
  obtain ⟨problem, hunseen, -⟩ | ⟨-, o, ho, hends, -⟩ := hends
  · exact absurd hunseen ImportSample.hasFile.not_unseen
  · have hcode : o.exitCode = some 0 := by
      cases hends with
      | badPath h => exact absurd ImportSample.hasFile h
      | failure _ h => exact absurd h ImportSample.not_importFails
      | refused _ _ _ hprints =>
        obtain ⟨text, -, hrefusal⟩ := hprints.exists_refusal
        exact absurd rfl hrefusal
      | success _ _ _ _ hcode => exact hcode
    obtain ⟨units, log, himport, hstdout⟩ := hends.stdout_of_success hcode
    obtain ⟨log', hok⟩ := Session.Sample.importDescriptor_eq
    rw [hok] at himport
    cases himport
    exact ⟨o, ho, hcode, hstdout.trans ImportSample.text_eq⟩

/-! ### Long names -/

/-- An argument that does not look like a switch. -/
theorem Grammar.marks_of_plain (g : Grammar) {argument : String}
    (h : argument.toList.head? ≠ some '-') (rest : List String) :
    g.marks (argument :: rest) = (do
      let others ← g.marks rest
      return ⟨argument, .plain⟩ :: others) := by
  have hne : argument ≠ "--" := by
    rintro rfl
    exact h rfl
  have hmark : g.mark argument = .ok .plain := if_pos h
  rw [marks, if_neg hne, hmark, ok_bind]

/-- A descriptor whose name does not look like a switch. -/
theorem request_import (h : descriptor.toList.head? ≠ some '-') :
    request ["import", descriptor] = .ok (.import descriptor false {}) := by
  have himport : "import".toList.head? ≠ some '-' := by decide
  have hprogram : Scope.program.read ["import", descriptor] =
      .ok { positional := ["import", descriptor] } := by
    simp only [Scope.read, Grammar.read, Grammar.marks_of_plain _ himport,
      Grammar.marks_of_plain _ h]
    rfl
  have hcommand : (Scope.command .import).read [descriptor] =
      .ok { positional := [descriptor] } := by
    simp only [Scope.read, Grammar.read, Grammar.marks_of_plain _ h]
    rfl
  have hrequest : Command.import.request [descriptor] = .ok (.import descriptor false {}, []) := by
    rw [Command.request, hcommand]
    rfl
  rw [request, hprogram]
  simp only [ok_bind, hrequest]
  rfl

/-- A name that no file can have. -/
structure IsLongName (name : String) : Prop where
  maxNameSize_lt : FileTree.maxNameSize < name.utf8ByteSize
  no_null : '\x00' ∉ name.toList
  no_slash : '/' ∉ name.toList

theorem IsLongName.ofString_eq (h : IsLongName descriptor) :
    Path.ofString descriptor = ⟨"", [descriptor]⟩ := by
  have hempty : descriptor ≠ "" := by
    rintro rfl
    exact absurd h.maxNameSize_lt (by decide)
  have hdot : descriptor ≠ "." := by
    rintro rfl
    exact absurd h.maxNameSize_lt (by decide)
  have hnone : descriptor.toList.takeWhile (· = '/') = [] := by
    cases hchars : descriptor.toList with
    | nil => rfl
    | cons c cs =>
      have hc : c ≠ '/' := by
        rintro rfl
        exact h.no_slash (hchars ▸ List.mem_cons_self ..)
      exact List.takeWhile_cons_of_neg (by simpa using hc)
  rw [Path.ofString, Text.splitAt_of_not_mem h.no_slash, hnone]
  simp [hempty, hdot]
  rfl

theorem IsLongName.unseen {tree : FileTree} (h : IsLongName descriptor)
    (habsent : tree.entryAt? [descriptor] = none) :
    Unseen tree.toFileSystem (Path.ofString descriptor) .nameTooLong := by
  rw [h.ofString_eq]
  refine ⟨?_, FileTree.entry_of_longName h.maxNameSize_lt habsent, rfl⟩
  simpa [Path.toString] using h.no_null

/-- Wherever there is no such name, its import has no exit code. -/
theorem run_of_isLongName [Platform.Machine] [Json.Capacity] {tree : FileTree}
    (h : IsLongName descriptor) (hplain : descriptor.toList.head? ≠ some '-')
    (habsent : tree.entryAt? [descriptor] = none) (c : Console) :
    run tree.toFileSystem ["import", descriptor] c =
      .error (.file ⟨.nameTooLong, Path.ofString descriptor⟩) := by
  rw [run_of_request (request_import hplain)]
  exact runImport_of_unseen (h.unseen habsent) c false {}

/-- A name of one byte more than a name may have. -/
def longName : String := String.ofList (List.replicate (FileTree.maxNameSize + 1) 'a')

theorem head?_longName : longName.toList.head? ≠ some '-' := by
  simp [longName, List.head?_replicate]

theorem isLongName_longName : IsLongName longName :=
  ⟨by decide +kernel, by simp [longName], by simp [longName]⟩

/-- There is no file, and the command does not tell. -/
theorem run_longName :
    request ["import", longName] = .ok (.import longName false {}) ∧
      ¬ HasFile (FileTree.toFileSystem {}) (Path.ofString longName) ∧
      run (FileTree.toFileSystem {}) ["import", longName] =
        .error (.file ⟨.nameTooLong, Path.ofString longName⟩) := by
  refine ⟨request_import head?_longName, fun hfile => ?_, ?_⟩
  · exact hfile.not_unseen (isLongName_longName.unseen rfl)
  · exact run_of_isLongName isLongName_longName head?_longName rfl {}

end CommandLine

end BuildDescriptor
