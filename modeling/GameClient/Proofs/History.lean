import GameClient.Headless
import Mathlib.Data.List.Destutter
import Mathlib.Data.List.Induction
import Mathlib.Data.Option.Basic

/-! # The history in the log

A headless renderer keeps the count and the session of the frame before, and no other frame bears on
what it notes. So the log has the counts and the sessions in the order in which they were rendered,
each once for as long as it lasted. -/

namespace GameClient

namespace Headless

structure Picture where
  actors : List Actor
  localId : Option SessionId

def draw (h : Headless) (picture : Picture) : Headless × List Notice :=
  h.render picture.actors picture.localId

/-- The renderer once all pictures are drawn, in order. -/
def after (h : Headless) (pictures : List Picture) : Headless :=
  pictures.foldl (fun h picture => (h.draw picture).1) h

def logs : Headless → List Picture → List (List Notice)
  | _, [] => []
  | h, picture :: rest => (h.draw picture).2 :: (h.draw picture).1.logs rest

theorem logs_append (h : Headless) (earlier later : List Picture) :
    h.logs (earlier ++ later) = h.logs earlier ++ (h.after earlier).logs later := by
  induction earlier generalizing h with
  | nil => rfl
  | cons picture earlier ih => exact congrArg (List.cons _) (ih _)

theorem length_logs (h : Headless) (pictures : List Picture) :
    (h.logs pictures).length = pictures.length := by
  induction pictures generalizing h with
  | nil => rfl
  | cons picture pictures ih => exact congrArg Nat.succ (ih _)

/-- The session of the last picture. Before the first there is none. -/
def lastId (pictures : List Picture) : Option SessionId := pictures.getLast?.bind (·.localId)

theorem after_eq (pictures : List Picture) :
    after {} pictures =
      ⟨pictures.length, pictures.getLast?.map (·.actors.length), lastId pictures⟩ := by
  induction pictures using List.reverseRecOn with
  | nil => rfl
  | append_singleton earlier last ih =>
    have drawn : after {} (earlier ++ [last]) = ((after {} earlier).draw last).1 :=
      List.foldl_concat ..
    have id : lastId (earlier ++ [last]) = last.localId := by
      rw [lastId, List.getLast?_concat, Option.bind_some]
    rw [drawn, ih, id, List.length_append, List.getLast?_concat]
    rfl

/-! ## What one frame notes -/

/-- The notice of a session that is played from now on. -/
def sessionNotice : Option SessionId → Notice
  | some id => .playingAs id
  | none => .noLocalSession

def positionNotice (frame : Nat) (actor : Actor) : Notice :=
  .localActor (.ofBinary32 actor.x) (.ofBinary32 actor.y) frame

@[simp] theorem sessionNotice_inj {id id' : Option SessionId} :
    sessionNotice id = sessionNotice id' ↔ id = id' := by
  cases id <;> cases id' <;> simp [sessionNotice]

@[simp] theorem sessionNotice_ne_actorsChanged (id : Option SessionId) (count : Nat) :
    sessionNotice id ≠ .actorsChanged count := by
  cases id <;> simp [sessionNotice]

@[simp] theorem sessionNotice_ne_localActor (id : Option SessionId) (x y : Binary64)
    (frame : Nat) : sessionNotice id ≠ .localActor x y frame := by
  cases id <;> simp [sessionNotice]

theorem draw_eq (h : Headless) (picture : Picture) :
    (h.draw picture).2 =
      (if h.lastCount = some picture.actors.length then []
        else [.actorsChanged picture.actors.length]) ++
      (if h.lastLocal = picture.localId then [] else [sessionNotice picture.localId]) ++
      ((picture.actors.find? (·.isLocal picture.localId)).map
        (positionNotice (h.frames + 1))).toList := by
  have session : h.sessionNotices picture.localId =
      if h.lastLocal = picture.localId then [] else [sessionNotice picture.localId] := by
    unfold sessionNotices
    cases picture.localId <;> rfl
  have position : positionNotices (h.frames + 1) picture.actors picture.localId =
      ((picture.actors.find? (·.isLocal picture.localId)).map
        (positionNotice (h.frames + 1))).toList := by
    unfold positionNotices
    cases picture.actors.find? (·.isLocal picture.localId) <;> rfl
  rw [draw, render, countNotices, session, position]

theorem mem_draw {h : Headless} {picture : Picture} {line : Notice} :
    line ∈ (h.draw picture).2 ↔
      (line = .actorsChanged picture.actors.length ∧ h.lastCount ≠ some picture.actors.length) ∨
      (line = sessionNotice picture.localId ∧ h.lastLocal ≠ picture.localId) ∨
      ∃ actor, picture.actors.find? (·.isLocal picture.localId) = some actor ∧
        positionNotice (h.frames + 1) actor = line := by
  rw [draw_eq, List.mem_append, List.mem_append, List.mem_ite_nil_left, List.mem_ite_nil_left,
    List.mem_singleton, List.mem_singleton, Option.mem_toList, Option.map_eq_some_iff, or_assoc]
  exact or_congr and_comm (or_congr and_comm Iff.rfl)

theorem find?_isLocal_eq_some_iff {actors : List Actor} {localId : Option SessionId}
    {actor : Actor} :
    actors.find? (·.isLocal localId) = some actor ↔
      localId = some actor.sessionId ∧ ∃ before after, actors = before ++ actor :: after ∧
        ∀ other ∈ before, localId ≠ some other.sessionId := by
  rw [List.find?_eq_some_iff_append]
  simp only [Actor.isLocal, beq_iff_eq, Bool.not_eq_true', beq_eq_false_iff_ne]

/-- What a frame notes is of three parts. -/
inductive Part where
  | count
  | session
  | position
deriving DecidableEq

def part? : Notice → Option Part
  | .actorsChanged _ => some .count
  | .playingAs _ | .noLocalSession => some .session
  | .localActor .. => some .position
  | _ => none

/-- The part of the log that belongs to a picture, by those before it. -/
structure Told (earlier : List Picture) (now : Picture) (lines : List Notice) : Prop where
  /-- Each part is there once at most, and nothing else. -/
  parts : (lines.map part?).Sublist [some .count, some .session, some .position]
  count : ∀ count, .actorsChanged count ∈ lines ↔ count = now.actors.length ∧
    ∀ last, earlier.getLast? = some last → last.actors.length ≠ now.actors.length
  session : ∀ id, sessionNotice id ∈ lines ↔ id = now.localId ∧ lastId earlier ≠ now.localId
  position : ∀ x y frame, .localActor x y frame ∈ lines ↔ ∃ actor before after,
    now.actors = before ++ actor :: after ∧ now.localId = some actor.sessionId ∧
      (∀ other ∈ before, now.localId ≠ some other.sessionId) ∧
      x = .ofBinary32 actor.x ∧ y = .ofBinary32 actor.y ∧ frame = earlier.length + 1

theorem parts_draw (h : Headless) (picture : Picture) :
    ((h.draw picture).2.map part?).Sublist [some .count, some .session, some .position] := by
  rw [draw_eq, List.map_append, List.map_append]
  change List.Sublist _ ([some Part.count] ++ [some Part.session] ++ [some Part.position])
  refine List.Sublist.append (List.Sublist.append ?_ ?_) ?_
  · split <;> simp [part?]
  · cases picture.localId <;> split <;> simp [part?, sessionNotice]
  · cases picture.actors.find? (·.isLocal picture.localId) <;> simp [part?, positionNotice]

theorem told_draw (earlier : List Picture) (now : Picture) :
    Told earlier now ((after {} earlier).draw now).2 where
  parts := parts_draw _ _
  count count := by
    have other := (sessionNotice_ne_actorsChanged now.localId count).symm
    simp [mem_draw, after_eq, positionNotice, other]
  session id := by
    have other (actor : Actor) : positionNotice (earlier.length + 1) actor ≠ sessionNotice id :=
      (sessionNotice_ne_localActor _ _ _ _).symm
    simp [mem_draw, after_eq, other]
  position x y frame := by
    rw [mem_draw, after_eq]
    constructor
    · rintro (⟨other, -⟩ | ⟨other, -⟩ | ⟨actor, found, same⟩)
      · cases other
      · exact absurd other.symm (sessionNotice_ne_localActor _ _ _ _)
      · obtain ⟨id, before, after, split, first⟩ := find?_isLocal_eq_some_iff.mp found
        obtain ⟨rfl, rfl, rfl⟩ := Notice.localActor.inj same
        exact ⟨actor, before, after, split, id, first, rfl, rfl, rfl⟩
    · rintro ⟨actor, before, after, split, id, first, rfl, rfl, rfl⟩
      have found := find?_isLocal_eq_some_iff.mpr ⟨id, before, after, split, first⟩
      exact .inr (.inr ⟨actor, found, rfl⟩)

/-! ## Histories -/

def count? : Notice → Option Nat
  | .actorsChanged count => some count
  | _ => none

def session? : Notice → Option (Option SessionId)
  | .playingAs id => some (some id)
  | .noLocalSession => some none
  | _ => none

/-- A value that is kept from frame to frame and noted where it changes. -/
theorem noted_changes {α : Type} [DecidableEq α] {kept : Headless → α} {shown : Picture → α}
    {line? : Notice → Option α}
    (keeps : ∀ (h : Headless) picture, kept (h.draw picture).1 = shown picture)
    (notes : ∀ (h : Headless) picture, (h.draw picture).2.filterMap line? =
      if kept h ≠ shown picture then [shown picture] else [])
    (h : Headless) (pictures : List Picture) :
    kept h :: (h.logs pictures).flatten.filterMap line? =
      (pictures.map shown).destutter' (· ≠ ·) (kept h) := by
  induction pictures generalizing h with
  | nil => rfl
  | cons picture pictures ih =>
    have rest := ih (h.draw picture).1
    rw [keeps] at rest
    rw [logs, List.flatten_cons, List.filterMap_append, notes, List.map_cons]
    split
    next changed => rw [List.destutter'_cons_pos _ changed, ← rest, List.singleton_append]
    next same =>
      rw [List.destutter'_cons_neg _ same, Decidable.not_not.mp same, ← rest, List.nil_append]

theorem filterMap_session?_draw (h : Headless) (picture : Picture) :
    (h.draw picture).2.filterMap session? =
      if h.lastLocal ≠ picture.localId then [picture.localId] else [] := by
  have count (count : Nat) : session? (.actorsChanged count) = none := rfl
  have session : session? (sessionNotice picture.localId) = some picture.localId := by
    cases picture.localId <;> rfl
  have position (actor : Actor) : session? (positionNotice (h.frames + 1) actor) = none := rfl
  rw [draw_eq, ite_not]
  cases picture.actors.find? (·.isLocal picture.localId) <;>
    split <;> split <;> simp [count, session, position]

theorem filterMap_count?_draw (h : Headless) (picture : Picture) :
    (h.draw picture).2.filterMap (fun line => (count? line).map some) =
      if h.lastCount ≠ some picture.actors.length then [some picture.actors.length] else [] := by
  have count (count : Nat) : count? (.actorsChanged count) = some count := rfl
  have session : count? (sessionNotice picture.localId) = none := by
    cases picture.localId <;> rfl
  have position (actor : Actor) : count? (positionNotice (h.frames + 1) actor) = none := rfl
  rw [draw_eq, ite_not]
  cases picture.actors.find? (·.isLocal picture.localId) <;>
    split <;> split <;> simp [count, session, position]

theorem destutter'_none (counts : List Nat) :
    (counts.map some).destutter' (· ≠ ·) none = none :: (counts.destutter (· ≠ ·)).map some := by
  cases counts with
  | nil => rfl
  | cons first rest =>
    have repeated := List.map_destutter_ne (first :: rest) (Option.some_injective Nat)
    rw [repeated]
    exact List.destutter'_cons_pos _ (Option.some_ne_none first).symm

theorem counts_logs (pictures : List Picture) :
    (logs {} pictures).flatten.filterMap count? =
      (pictures.map (·.actors.length)).destutter (· ≠ ·) := by
  -- Nothing is kept before the first frame, so its count is always noted.
  have noted : none :: (logs {} pictures).flatten.filterMap (fun line => (count? line).map some) =
      (pictures.map fun picture => some picture.actors.length).destutter' (· ≠ ·) none :=
    noted_changes (fun _ _ => rfl) filterMap_count?_draw {} pictures
  have counts : (pictures.map fun picture => some picture.actors.length) =
      (pictures.map (·.actors.length)).map some := List.map_map.symm
  rw [← List.map_filterMap, counts, destutter'_none] at noted
  exact List.map_injective_iff.mpr (Option.some_injective Nat) (List.tail_eq_of_cons_eq noted)

theorem sessions_logs (pictures : List Picture) :
    none :: (logs {} pictures).flatten.filterMap session? =
      (none :: pictures.map (·.localId)).destutter (· ≠ ·) :=
  noted_changes (fun _ _ => rfl) filterMap_session?_draw {} pictures

/-- The log of a renderer is the history of what it rendered. -/
theorem logs_changes (pictures : List Picture) :
    (after {} pictures).frames = pictures.length ∧
    (∀ earlier now later, pictures = earlier ++ now :: later →
      ∃ lines, (logs {} pictures)[earlier.length]? = some lines ∧ Told earlier now lines) ∧
    (logs {} pictures).flatten.filterMap count? =
      (pictures.map (·.actors.length)).destutter (· ≠ ·) ∧
    none :: (logs {} pictures).flatten.filterMap session? =
      (none :: pictures.map (·.localId)).destutter (· ≠ ·) := by
  refine ⟨congrArg frames (after_eq pictures), ?_, counts_logs pictures, sessions_logs pictures⟩
  rintro earlier now later rfl
  refine ⟨((after {} earlier).draw now).2, ?_, told_draw earlier now⟩
  have before := length_logs {} earlier
  rw [logs_append, List.getElem?_append_right (Nat.le_of_eq before), before, Nat.sub_self]
  rfl

/-- A session whose actor is there from the second frame on. -/
theorem logs_changes_of_arrival :
    let id : SessionId := ⟨.replicate 16 0, rfl⟩
    let first : Picture := ⟨[], some id⟩
    let second : Picture := ⟨[⟨id, 0, 0⟩], some id⟩
    ∃ lines, (logs {} [first, second])[1]? = some lines ∧ Told [first] second lines := by
  intro id first second
  exact (logs_changes [first, second]).2.1 [first] second [] rfl

end Headless

end GameClient
