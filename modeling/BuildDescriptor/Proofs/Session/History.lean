import BuildDescriptor.Proofs.Descriptor.Faults
import BuildDescriptor.Proofs.Project.Pairs

/-!
# The history of a session

A session can be asked four things: to select a profile by its name or by its kind, to change the
profile by a platform file, and to import a descriptor. It answers each time. What it holds in the
end can be read off what it was asked and what it answered: the units are those that the imports
gave, in order, and the profile is the one that was selected last, changed by the files that were
loaded after that.

## What one request does

All that a request can do to a session is said once, by `Session.Effect`, with the circumstances
under which it does so. What it leaves alone follows by cases, and so does what the history tells of
it. A run of any length is then an induction on the requests.

## Main definitions

* `Session.Request`, `Session.Answer`, `Session.perform` — one request
* `Session.Event`, `Session.run` — several requests, with the answers
* `Session.Effect` — what a request does to a session
* `Session.Keeps` — what it leaves alone
* `Session.Active` — the profile that a history leaves active

## Main results

* `Session.perform_effect`, `Session.Effect.keeps` — one request
* `Session.units_run`, `Session.profile_run` — a run, from any session
* `Session.start_run` — a run from the start
-/

namespace BuildDescriptor

namespace Session

/-- What a session can be asked. The file system is the one at that time. -/
inductive Request
  | select (name : String)
  | selectKind (kind : Platform.Kind)
  | loadPlatformFile (fs : FileSystem) (path : Path)
  | importFrom (fs : FileSystem) (r : Condition.Rule) (path : Path)

/-- What a session answers. -/
inductive Answer
  | told (success : Bool)
  | listed (units : List CompileUnit)
  | fault (fault : Fault)

/-- The answer that tells of success, and the session afterwards. A fault leaves it as it is. -/
def answered (s : Session) : Except Fault (Logged (Bool × Session)) → Answer × Session
  | .ok done => (.told done.value.1, done.value.2)
  | .error fault => (.fault fault, s)

section Run

variable [Platform.Machine] [Json.Capacity]

/-- The answer to a request, and the session afterwards. -/
def perform (s : Session) : Request → Answer × Session
  | .select name => s.answered (.ok (s.select name))
  | .selectKind kind => s.answered (.ok (s.selectKind kind))
  | .loadPlatformFile fs path => s.answered (s.loadPlatformFile fs path)
  | .importFrom fs r path => match s.importFrom fs r path with
    | .ok imported => (.listed imported.value.1, imported.value.2)
    | .error fault => (.fault fault, s)

/-- A request with its answer. -/
structure Event where
  request : Request
  answer : Answer

/-- The events of several requests, and the session afterwards. -/
def run (s : Session) : List Request → List Event × Session
  | [] => ([], s)
  | q :: requests =>
    let (answer, next) := s.perform q
    let (events, last) := next.run requests
    (⟨q, answer⟩ :: events, last)

theorem run_cons (s : Session) (q : Request) (requests : List Request) :
    s.run (q :: requests) =
      (⟨q, (s.perform q).1⟩ :: ((s.perform q).2.run requests).1,
        ((s.perform q).2.run requests).2) := rfl

/-! ### One request -/

/-- What a request does to a session. -/
inductive Effect (s : Session) : Request → Answer → Session → Prop
  | selected {name : String} {p : Platform.Profile} (h : Platform.named? name = some p) :
      Effect s (.select name) (.told true) { s with profile := p }
  | unknownName {name : String} (h : Platform.named? name = none) :
      Effect s (.select name) (.told false) s
  | selectedKind {kind : Platform.Kind} {p : Platform.Profile}
      (h : Platform.builtin? kind = some p) :
      Effect s (.selectKind kind) (.told true) { s with profile := p }
  | unknownKind {kind : Platform.Kind} (h : Platform.builtin? kind = none) :
      Effect s (.selectKind kind) (.told false) s
  | loaded {fs : FileSystem} {path : Path} {root : Xml.Element}
      (hread : Xml.readFile fs path = .ok (.ok root)) (htag : root.tag = "platform") :
      Effect s (.loadPlatformFile fs path) (.told true)
        { s with profile := s.profile.override path root }
  | wrongRoot {fs : FileSystem} {path : Path} {root : Xml.Element}
      (hread : Xml.readFile fs path = .ok (.ok root)) (htag : root.tag ≠ "platform") :
      Effect s (.loadPlatformFile fs path) (.told false) s
  | unreadable {fs : FileSystem} {path : Path} {reason : Xml.Unreadable}
      (hread : Xml.readFile fs path = .ok (.error reason)) :
      Effect s (.loadPlatformFile fs path) (.told false) s
  | loadFault {fs : FileSystem} {path : Path} {fault : Fault}
      (hread : Xml.readFile fs path = .error fault) :
      Effect s (.loadPlatformFile fs path) (.fault fault) s
  | imported {fs : FileSystem} {r : Condition.Rule} {path : Path}
      {out : Logged (List CompileUnit)} (h : importDescriptor fs r path = .ok out) :
      Effect s (.importFrom fs r path) (.listed out.value) { s with units := s.units ++ out.value }
  | importFault {fs : FileSystem} {r : Condition.Rule} {path : Path} {fault : Fault}
      (h : importDescriptor fs r path = .error fault) :
      Effect s (.importFrom fs r path) (.fault fault) s

variable {s t : Session} {q : Request} {a : Answer}

theorem select_effect (s : Session) (name : String) :
    Effect s (.select name) (.told (s.select name).value.1) (s.select name).value.2 := by
  unfold select
  cases h : Platform.named? name with
  | some p => exact .selected h
  | none => exact .unknownName h

theorem perform_select {name : String} {p : Platform.Profile}
    (h : Platform.named? name = some p) :
    s.perform (.select name) = (.told true, { s with profile := p }) := by
  simp only [perform, select, h, answered]

theorem selectKind_effect (s : Session) (kind : Platform.Kind) :
    Effect s (.selectKind kind) (.told (s.selectKind kind).value.1)
      (s.selectKind kind).value.2 := by
  unfold selectKind
  cases h : Platform.builtin? kind with
  | some p => exact .selectedKind h
  | none => exact .unknownKind h

omit [Platform.Machine] [Json.Capacity] in
theorem loadPlatformFile_eq {fs : FileSystem} {path : Path} {root : Xml.Element}
    (hread : Xml.readFile fs path = .ok (.ok root)) (htag : root.tag = "platform") (s : Session) :
    s.loadPlatformFile fs path =
      .ok ⟨(true, { s with profile := s.profile.override path root }),
        Platform.noticesOf (Platform.settings path root)⟩ := by
  simp only [loadPlatformFile, Platform.Profile.loadFile, hread, ok_bind, if_pos htag]
  rfl

theorem loadPlatformFile_effect (s : Session) (fs : FileSystem) (path : Path) :
    Effect s (.loadPlatformFile fs path) (s.answered (s.loadPlatformFile fs path)).1
      (s.answered (s.loadPlatformFile fs path)).2 := by
  cases hread : Xml.readFile fs path with
  | error fault =>
    rw [loadPlatformFile, Platform.Profile.loadFile, hread]
    exact .loadFault hread
  | ok read =>
    cases read with
    | error reason =>
      rw [loadPlatformFile, Platform.Profile.loadFile, hread]
      exact .unreadable hread
    | ok root =>
      by_cases htag : root.tag = "platform"
      · rw [loadPlatformFile_eq hread htag]
        exact .loaded hread htag
      · simp only [loadPlatformFile, Platform.Profile.loadFile, hread, ok_bind, if_neg htag]
        exact .wrongRoot hread htag

theorem perform_importFrom {fs : FileSystem} {r : Condition.Rule} {path : Path}
    {out : Logged (List CompileUnit)} (h : importDescriptor fs r path = .ok out) :
    s.perform (.importFrom fs r path) =
      (.listed out.value, { s with units := s.units ++ out.value }) := by
  have himport : s.importFrom fs r path =
      .ok ⟨(out.value, { s with units := s.units ++ out.value }), out.log⟩ := by
    rw [importFrom, h, ok_bind]
    rfl
  simp only [perform, himport]

theorem importFrom_effect (s : Session) (fs : FileSystem) (r : Condition.Rule) (path : Path) :
    Effect s (.importFrom fs r path) (s.perform (.importFrom fs r path)).1
      (s.perform (.importFrom fs r path)).2 := by
  cases h : importDescriptor fs r path with
  | error fault =>
    have himport : s.importFrom fs r path = .error fault := by rw [importFrom, h, error_bind]
    simp only [perform, himport]
    exact .importFault h
  | ok out =>
    rw [perform_importFrom h]
    exact .imported h

theorem perform_effect (s : Session) (q : Request) :
    Effect s q (s.perform q).1 (s.perform q).2 := by
  cases q with
  | select name => exact select_effect s name
  | selectKind kind => exact selectKind_effect s kind
  | loadPlatformFile fs path => exact loadPlatformFile_effect s fs path
  | importFrom fs r path => exact importFrom_effect s fs r path

/-! ### What a request leaves alone -/

/-- Whether a request is for an import. -/
def Request.isImport : Request → Bool
  | .importFrom .. => true
  | _ => false

/-- Whether an answer says that nothing was done. -/
def Answer.isRefusal : Answer → Bool
  | .told success => !success
  | .listed _ => false
  | .fault _ => true

/-- What a request leaves alone. -/
structure Keeps (s : Session) (q : Request) (a : Answer) (t : Session) : Prop where
  /-- Only an import adds units. -/
  units_eq : q.isImport = false → t.units = s.units
  /-- No import changes the profile. -/
  profile_eq : q.isImport = true → t.profile = s.profile
  /-- What is refused changes nothing. -/
  eq_of_refusal : a.isRefusal = true → t = s
  /-- What is imported is added at the end, as it is listed. -/
  units_of_listed : ∀ units, a = .listed units → t.units = s.units ++ units

theorem Effect.keeps (h : Effect s q a t) : Keeps s q a t := by
  cases h with
  | imported himport =>
    refine ⟨nofun, fun _ => rfl, nofun, ?_⟩
    rintro _ ⟨⟩
    rfl
  | _ => exact ⟨fun _ => rfl, by simp [Request.isImport], by simp [Answer.isRefusal], nofun⟩

/-! ### What a history tells -/

namespace Event

/-- The units that an import gave. -/
def imported : Event → List CompileUnit
  | ⟨.importFrom .., .listed units⟩ => units
  | _ => []

/-- The profile that was selected. -/
def chosen? : Event → Option Platform.Profile
  | ⟨.select name, .told true⟩ => Platform.named? name
  | ⟨.selectKind kind, .told true⟩ => Platform.builtin? kind
  | _ => none

/-- The platform file that was loaded, with its root element. -/
def loaded? : Event → Option (Path × Xml.Element)
  | ⟨.loadPlatformFile fs path, .told true⟩ => match Xml.readFile fs path with
    | .ok (.ok root) => some (path, root)
    | _ => none
  | _ => none

end Event

/-- A profile as the platform files that were loaded change it, one after the other. -/
def overridden (p : Platform.Profile) (events : List Event) : Platform.Profile :=
  (events.filterMap Event.loaded?).foldl (fun p file => p.override file.1 file.2) p

/-- The profile that a history leaves active, given the one from before. -/
inductive Active (p : Platform.Profile) (events : List Event) : Platform.Profile → Prop
  /-- Nothing was selected. -/
  | before (h : ∀ e ∈ events, e.chosen? = none) : Active p events (overridden p events)
  /-- The last selection counts, and what was loaded after that. -/
  | chosen {earlier later : List Event} {e : Event} {chosen : Platform.Profile}
      (hevents : events = earlier ++ e :: later) (he : e.chosen? = some chosen)
      (hlater : ∀ e ∈ later, e.chosen? = none) : Active p events (overridden chosen later)

/-- The profile after an event. -/
def profileAfter (p : Platform.Profile) (e : Event) : Platform.Profile :=
  e.chosen?.getD (overridden p [e])

theorem Effect.units_eq (h : Effect s q a t) : t.units = s.units ++ Event.imported ⟨q, a⟩ := by
  cases h <;> simp [Event.imported]

theorem Effect.profile_eq (h : Effect s q a t) : t.profile = profileAfter s.profile ⟨q, a⟩ := by
  cases h with
  | selected h => simp [profileAfter, Event.chosen?, h]
  | selectedKind h => simp [profileAfter, Event.chosen?, h]
  | loaded hread htag => simp [profileAfter, Event.chosen?, overridden, Event.loaded?, hread]
  | _ => rfl

/-- Every success shows in the history. -/
theorem Effect.exists_of_success (h : Effect s q a t) (ha : a = .told true) :
    (Event.chosen? ⟨q, a⟩).isSome ∨ (Event.loaded? ⟨q, a⟩).isSome := by
  cases h with
  | selected h => simp [Event.chosen?, h]
  | selectedKind h => simp [Event.chosen?, h]
  | loaded hread htag => simp [Event.loaded?, hread]
  | _ => cases ha

omit [Platform.Machine] [Json.Capacity] in
theorem overridden_cons (p : Platform.Profile) (e : Event) (events : List Event) :
    overridden p (e :: events) = overridden (overridden p [e]) events := by
  unfold overridden
  cases h : e.loaded? <;> simp [h]

omit [Json.Capacity] in
/-- A profile that is changed by one event after the other is the one that the history leaves
active. By induction on the history: what comes later decides unless it selects nothing. -/
theorem active_foldl (p : Platform.Profile) (events : List Event) :
    Active p events (events.foldl profileAfter p) := by
  induction events generalizing p with
  | nil => exact .before nofun
  | cons e events ih =>
    rw [List.foldl_cons]
    generalize hlast : events.foldl profileAfter (profileAfter p e) = last
    cases hlast ▸ ih (profileAfter p e) with
    | before hnone =>
      cases he : e.chosen? with
      | some chosen =>
        have hafter : profileAfter p e = chosen := by rw [profileAfter, he, Option.getD_some]
        rw [hafter]
        exact .chosen (List.nil_append _).symm he hnone
      | none =>
        have hafter : profileAfter p e = overridden p [e] := by
          rw [profileAfter, he, Option.getD_none]
        rw [hafter, ← overridden_cons]
        exact .before (List.forall_mem_cons.mpr ⟨he, hnone⟩)
    | chosen hevents he hlater =>
      exact .chosen (by rw [hevents, List.cons_append]) he hlater

/-! ### Runs -/

theorem units_run (s : Session) (requests : List Request) :
    (s.run requests).2.units = s.units ++ (s.run requests).1.flatMap Event.imported := by
  induction requests generalizing s with
  | nil => simp [run]
  | cons q requests ih =>
    rw [run_cons, List.flatMap_cons, ih, (s.perform_effect q).units_eq, List.append_assoc]

theorem profile_run (s : Session) (requests : List Request) :
    (s.run requests).2.profile = (s.run requests).1.foldl profileAfter s.profile := by
  induction requests generalizing s with
  | nil => rfl
  | cons q requests ih =>
    rw [run_cons, List.foldl_cons, ih, (s.perform_effect q).profile_eq]

theorem requests_run (s : Session) (requests : List Request) :
    (s.run requests).1.map Event.request = requests := by
  induction requests generalizing s with
  | nil => rfl
  | cons q requests ih =>
    rw [run_cons, List.map_cons, ih]

theorem exists_effect_of_mem_run {e : Event} {requests : List Request}
    (h : e ∈ (s.run requests).1) : ∃ s t, Effect s e.request e.answer t := by
  induction requests generalizing s with
  | nil => cases h
  | cons q requests ih =>
    rw [run_cons, List.mem_cons] at h
    rcases h with rfl | h
    · exact ⟨s, _, s.perform_effect q⟩
    · exact ih h

omit [Json.Capacity] in
theorem of_start {kind : Platform.Kind} (h : start kind = .ok s) :
    s.units = [] ∧ Platform.builtin? kind = some s.profile := by
  unfold start at h
  split at h
  · rename_i hp
    cases h
    exact ⟨rfl, hp⟩
  · cases h

/-- **What a session holds.** At any time a request does what its circumstances call for, leaves
alone what it is not about, and leaves everything alone if it is refused. So the units are those
that the imports gave, in order, and the profile is the one that was selected last, or the initial
one, as the platform files loaded after that change it. -/
theorem start_run {kind : Platform.Kind} (h : start kind = .ok s) (requests : List Request) :
    (s.run requests).1.map Event.request = requests ∧
      (∀ q, Effect (s.run requests).2 q ((s.run requests).2.perform q).1
          ((s.run requests).2.perform q).2 ∧
        Keeps (s.run requests).2 q ((s.run requests).2.perform q).1
          ((s.run requests).2.perform q).2) ∧
      (s.run requests).2.units = (s.run requests).1.flatMap Event.imported ∧
      Platform.builtin? kind = some s.profile ∧
      Active s.profile (s.run requests).1 (s.run requests).2.profile ∧
      ∀ e ∈ (s.run requests).1, e.answer = .told true → e.chosen?.isSome ∨ e.loaded?.isSome := by
  obtain ⟨hunits, hprofile⟩ := of_start h
  refine ⟨requests_run s requests, fun q => ⟨perform_effect _ q, (perform_effect _ q).keeps⟩, ?_,
    hprofile, ?_, ?_⟩
  · rw [units_run, hunits, List.nil_append]
  · rw [profile_run]
    exact active_foldl s.profile _
  · intro e he ha
    obtain ⟨s, t, heffect⟩ := exists_effect_of_mem_run he
    exact heffect.exists_of_success ha

end Run

namespace Sample

/-- Two selections, one of them in vain, and an import between them. -/
def requests : List Request :=
  [.select "win64", .importFrom Project.Sample.files .standard Project.Sample.path,
    .selectKind .custom]

def units : List CompileUnit :=
  [{ file := "a.c", defines := ["FIRST"], platform := some .win32W },
    { file := "a.c", defines := ["SECOND"], platform := some .win64 }]

theorem importDescriptor_eq : ∃ log,
    importDescriptor Project.Sample.files .standard Project.Sample.path = .ok ⟨units, log⟩ := by
  have hbytes : Project.Sample.files.load Project.Sample.path =
      .ok (.ok ⟨Project.Sample.bytes.toArray⟩) := by rfl
  have hpath : IsProject Project.Sample.path := Text.hasWord_iff.mp (by decide)
  obtain ⟨log, himport⟩ :=
    Project.importUnits_of_root (p := { path := Project.Sample.path }) .standard
      Project.Sample.readFile_eq
  have hunits : Project.units (Project.extend { path := Project.Sample.path } Project.Sample.root)
      .standard = units := by
    rw [Project.extend, Project.Sample.ofRoot_eq]
    decide +kernel
  refine ⟨log, ?_⟩
  rw [importDescriptor_of_isProject hbytes hpath, himport, ok_bind, hunits]
  rfl

end Sample

/-- The profile that was selected remains active, because the selection after it is in vain. -/
theorem start_run_sample : ∃ s win64, start .unix64 = .ok s ∧
    Platform.builtin? .win64 = some win64 ∧ (s.run Sample.requests).2.units = Sample.units ∧
    (s.run Sample.requests).2.profile = win64 := by
  obtain ⟨log, himport⟩ := Sample.importDescriptor_eq
  obtain ⟨s, hstart⟩ : ∃ s, start .unix64 = .ok s := ⟨_, rfl⟩
  obtain ⟨win64, hwin64⟩ : ∃ p, Platform.builtin? .win64 = some p := ⟨_, rfl⟩
  have hname : Platform.named? "win64" = some win64 := by
    rw [Platform.named?, show Platform.Kind.ofName? "win64" = some .win64 by decide +kernel]
    exact hwin64
  have hrun : (s.run Sample.requests).1 =
      [⟨.select "win64", .told true⟩,
        ⟨.importFrom Project.Sample.files .standard Project.Sample.path, .listed Sample.units⟩,
        ⟨.selectKind .custom, .told false⟩] := by
    rw [Sample.requests, run_cons, perform_select hname, run_cons, perform_importFrom himport]
    rfl
  obtain ⟨-, -, hunits, -⟩ := start_run hstart Sample.requests
  refine ⟨s, win64, hstart, hwin64, ?_, ?_⟩
  · rw [hunits, hrun]
    rfl
  · rw [profile_run, hrun]
    have hchosen : profileAfter s.profile ⟨.select "win64", .told true⟩ = win64 := by
      simp only [profileAfter, Event.chosen?, hname, Option.getD_some]
    rw [List.foldl_cons, hchosen]
    rfl

end Session

end BuildDescriptor
