import BuildDescriptor.Proofs.Descriptor.Units
import BuildDescriptor.Proofs.Session.History

/-!
# The platforms of the units in a session

A unit that names a platform is compiled for the built-in profile of that platform, whichever
profile is active. A unit that names none is compiled for the active profile.

`Session.profileOf` does not always look the built-in profile up. Where the active profile has the
kind that the unit names, it takes the active one. So the two have to be the same, in every session
that can be reached: a profile may carry the kind of a built-in one only if it is that one. Every
request keeps to this. What is selected is built in, and what a platform file changes becomes
`custom`, even if the file changes no field.

## Main definitions

* `Session.Consistent` — what every request keeps
* `Session.Resolves` — the profile that a unit is compiled for

## Main results

* `Session.Effect.consistent`, `Session.consistent_run` — one request, and a run
* `Session.resolves_of_mem_units_run` — the units of a session, at any later time
-/

namespace BuildDescriptor

namespace Session

variable {s t : Session} {q : Request} {a : Answer} {u : CompileUnit} {kind : Platform.Kind}
  {p : Platform.Profile}

section Run

variable [Platform.Machine]

/-- What every request keeps: no unit is ill-formed, and the active profile is not a variation of
the built-in one whose kind it has. -/
structure Consistent (s : Session) : Prop where
  units_wellFormed : ∀ u ∈ s.units, u.WellFormed
  profile_eq : ∀ p, Platform.builtin? s.profile.kind = some p → s.profile = p

/-- The profile that a unit is compiled for in a session. -/
structure Resolves (s : Session) (u : CompileUnit) : Prop where
  builtin : ∀ kind, u.platform = some kind → Platform.builtin? kind = some (s.profileOf u)
  active : u.platform = none → s.profileOf u = s.profile

/-! ### Built-in profiles -/

theorem eq_of_builtin?_kind {p' : Platform.Profile} (hp : Platform.builtin? kind = some p)
    (hp' : Platform.builtin? p.kind = some p') : p = p' := by
  rw [Platform.kind_of_builtin? hp, hp] at hp'
  exact Option.some.inj hp'

theorem eq_of_named? {name : String} {p' : Platform.Profile} (hp : Platform.named? name = some p)
    (hp' : Platform.builtin? p.kind = some p') : p = p' := by
  obtain ⟨kind, -, hkind⟩ := Option.bind_eq_some_iff.mp hp
  exact eq_of_builtin?_kind hkind hp'

/-- A profile that a file has changed carries the kind of no built-in one. -/
theorem builtin?_kind_override (p : Platform.Profile) (path : Path) (root : Xml.Element) :
    Platform.builtin? (p.override path root).kind = none := rfl

theorem consistent_of_start (h : start kind = .ok s) : s.Consistent := by
  obtain ⟨hunits, hprofile⟩ := of_start h
  refine ⟨?_, fun _ hp => eq_of_builtin?_kind hprofile hp⟩
  rw [hunits]
  exact nofun

/-! ### The profile of a unit -/

/-- The built-in profile counts, whether it is looked up or active. -/
theorem Consistent.profileOf_eq (hs : s.Consistent) (hu : u.platform = some kind)
    (hp : Platform.builtin? kind = some p) : s.profileOf u = p := by
  rw [profileOf, hu]
  by_cases hkind : kind = s.profile.kind
  · rw [hkind] at hp
    simp only [if_pos hkind]
    exact hs.profile_eq p hp
  · simp only [if_neg hkind, hp, Option.getD_some]

theorem Consistent.resolves (hs : s.Consistent) (hu : u.WellFormed) : s.Resolves u := by
  refine ⟨fun kind hkind => ?_, fun hnone => by rw [profileOf, hnone]⟩
  have hcustom : kind ≠ .custom := by
    rintro rfl
    rcases hu.platform_cases with h | h | h <;> rw [h] at hkind <;> cases hkind
  obtain ⟨p, hp⟩ := Option.ne_none_iff_exists'.mp (mt Platform.builtin?_eq_none_iff.mp hcustom)
  rw [hp, hs.profileOf_eq hkind hp]

/-! ### One request, and a run -/

variable [Json.Capacity]

theorem Effect.consistent (h : Effect s q a t) (hs : s.Consistent) : t.Consistent := by
  cases h with
  | selected hname => exact ⟨hs.units_wellFormed, fun _ hp => eq_of_named? hname hp⟩
  | selectedKind hkind => exact ⟨hs.units_wellFormed, fun _ hp => eq_of_builtin?_kind hkind hp⟩
  | loaded hread htag =>
    refine ⟨hs.units_wellFormed, fun p hp => ?_⟩
    rw [builtin?_kind_override] at hp
    cases hp
  | imported himport =>
    refine ⟨fun u hu => ?_, hs.profile_eq⟩
    rcases List.mem_append.mp hu with hu | hu
    · exact hs.units_wellFormed u hu
    · exact wellFormed_of_importDescriptor himport u hu
  | _ => exact hs

theorem consistent_run (hs : s.Consistent) (requests : List Request) :
    (s.run requests).2.Consistent := by
  induction requests generalizing s with
  | nil => exact hs
  | cons q requests ih => exact ih ((s.perform_effect q).consistent hs)

theorem mem_units_run (hu : u ∈ s.units) (requests : List Request) :
    u ∈ (s.run requests).2.units := by
  rw [units_run]
  exact List.mem_append_left _ hu

/-- **The units of a session.** Each of them is well-formed, remains in the session, and is compiled
for the built-in profile of the platform that it names, if it names one. This is so at any later
time, whatever is selected, loaded or imported in between. -/
theorem resolves_of_mem_units_run (h : start kind = .ok s) (requests : List Request)
    (hu : u ∈ (s.run requests).2.units) :
    u.WellFormed ∧ ∀ more, u ∈ ((s.run requests).2.run more).2.units ∧
      ((s.run requests).2.run more).2.Resolves u := by
  have hconsistent := consistent_run (consistent_of_start h) requests
  have hwellFormed := hconsistent.units_wellFormed u hu
  exact ⟨hwellFormed, fun more =>
    ⟨mem_units_run hu more, (consistent_run hconsistent more).resolves hwellFormed⟩⟩

/-! ### A session with a changed profile -/

theorem perform_loadPlatformFile {fs : FileSystem} {path : Path} {root : Xml.Element}
    (hread : Xml.readFile fs path = .ok (.ok root)) (htag : root.tag = "platform") :
    s.perform (.loadPlatformFile fs path) =
      (.told true, { s with profile := s.profile.override path root }) := by
  rw [perform, loadPlatformFile_eq hread htag]
  rfl

end Run

namespace PlatformSample

/-- A platform with pointers of two bytes. -/
def text : String := "<platform><sizeof><pointer>2</pointer></sizeof></platform>"

def bytes : List UInt8 := text.toList.map Char.toUInt8

def files : FileSystem := ⟨fun _ => .ok (.file ⟨bytes.toArray⟩)⟩

def path : Path := ⟨"", ["p.xml"]⟩

def root : Xml.Element :=
  .mk "platform" [] none [.mk "sizeof" [] none [.mk "pointer" [] (some "2") []]]

theorem readFile_eq : Xml.readFile files path = .ok (.ok root) :=
  Xml.readFile_of_parse (by rfl) (show Xml.parse bytes = .ok root by decide +kernel)

/-- The session selects a profile and imports a project. -/
def requests : List Request :=
  [.selectKind .win64, .importFrom Project.Sample.files .standard Project.Sample.path]

/-- A unit of the project, for the platform of that profile. -/
def unit : CompileUnit := { file := "a.c", defines := ["SECOND"], platform := some .win64 }

end PlatformSample

/-- The profile that was selected is changed after the import. The unit is compiled for the one that
is built in. -/
theorem resolves_sample : ∃ s, start .unix64 = .ok s ∧
    PlatformSample.unit ∈ (s.run PlatformSample.requests).2.units ∧
    ∃ t, t = ((s.run PlatformSample.requests).2.run
        [.loadPlatformFile PlatformSample.files PlatformSample.path]).2 ∧
      t.profile.size .pointer = 2 ∧
      Platform.builtin? .win64 = some (t.profileOf PlatformSample.unit) := by
  obtain ⟨log, himport⟩ := Sample.importDescriptor_eq
  obtain ⟨s, hstart⟩ : ∃ s, start .unix64 = .ok s := ⟨_, rfl⟩
  have hunits : PlatformSample.unit ∈ (s.run PlatformSample.requests).2.units := by
    rw [PlatformSample.requests, run_cons, run_cons, perform_importFrom himport]
    exact List.mem_append_right _ (show PlatformSample.unit ∈ Sample.units by decide)
  refine ⟨s, hstart, hunits, _, rfl, ?_, ?_⟩
  · rw [run_cons, perform_loadPlatformFile PlatformSample.readFile_eq rfl]
    exact show (Platform.Profile.override _ _ PlatformSample.root).size .pointer = 2 by rfl
  · exact ((resolves_of_mem_units_run hstart _ hunits).2 _).2.builtin .win64 rfl

end Session

end BuildDescriptor
