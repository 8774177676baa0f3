import GameClient.Proofs.Links

/-! # The life of a link

The owner of a link leaves frames with its task and lets go of it, and in between the task makes
its steps. The record of a link keeps the frames that were accepted, the steps, and what showed of
them. `Stage` ties the record to the task at every moment: what was reported, what the server was
sent, and which frames still wait. -/

namespace GameClient

namespace Inbound

def binary? : Inbound → Option Bytes
  | binary frame => some frame
  | _ => none

def binaries (messages : List Inbound) : List Bytes := messages.filterMap binary?

end Inbound

/-- What the server is sent. -/
inductive Parcel where
  | binary (frame : Bytes)
  | close
deriving DecidableEq

namespace SocketTask

def Output.parcel? : Output → Option Parcel
  | transmit frame => some (.binary frame)
  | transmitClose => some .close
  | _ => none

def parcels (outputs : List Output) : List Parcel := outputs.filterMap Output.parcel?

def Step.message? : Step → Option Inbound
  | receive message => some message
  | _ => none

/-- The server refuses or ends the link, or a frame does not get through. -/
def Step.breaks : Step → Bool
  | refused _ => true
  | sendFailed _ => true
  | receive .close => true
  | receive (.failed _) => true
  | receive .ended => true
  | _ => false

/-- What happened to one link. -/
structure Record where
  /-- The frames that were accepted from the owner, oldest first. -/
  accepted : List Bytes := []
  steps : List Step := []
  outputs : List Output := []

namespace Record

def reports (r : Record) : List Event := SocketTask.reports r.outputs

def parcels (r : Record) : List Parcel := SocketTask.parcels r.outputs

def readings (r : Record) : List Inbound := r.steps.filterMap Step.message?

def frames (r : Record) : List Bytes := Inbound.binaries r.readings

def Broken (r : Record) : Prop := ∃ step ∈ r.steps, step.breaks = true

instance (r : Record) : Decidable r.Broken :=
  inferInstanceAs (Decidable (∃ step ∈ r.steps, step.breaks = true))

/-- The link came up, and each frame that was read was reported. -/
def Told (r : Record) : Prop := r.reports = .connected :: r.frames.map .frame

def leave (r : Record) (frame : Bytes) : Record := { r with accepted := r.accepted ++ [frame] }

def extend (r : Record) (step : Step) (outputs : List Output) : Record :=
  { r with steps := r.steps ++ [step], outputs := r.outputs ++ outputs }

variable {r : Record} {step : Step} {outputs : List Output}

@[simp] theorem accepted_extend : (r.extend step outputs).accepted = r.accepted := rfl

@[simp] theorem reports_extend :
    (r.extend step outputs).reports = r.reports ++ SocketTask.reports outputs :=
  List.filterMap_append

@[simp] theorem parcels_extend :
    (r.extend step outputs).parcels = r.parcels ++ SocketTask.parcels outputs :=
  List.filterMap_append

@[simp] theorem frames_extend :
    (r.extend step outputs).frames = r.frames ++ Inbound.binaries step.message?.toList := by
  have readings : (r.extend step outputs).readings = r.readings ++ step.message?.toList := by
    rw [Record.readings, Record.extend, List.filterMap_append]
    cases h : step.message? <;> simp [Record.readings, h]
  rw [frames, readings, Inbound.binaries, List.filterMap_append]
  rfl

theorem Broken.extend (h : r.Broken) (step : Step) (outputs : List Output) :
    (r.extend step outputs).Broken := by
  obtain ⟨breaking, made, breaks⟩ := h
  exact ⟨breaking, List.mem_append_left _ made, breaks⟩

theorem broken_extend (h : step.breaks = true) (outputs : List Output) :
    (r.extend step outputs).Broken :=
  ⟨step, List.mem_append_right _ List.mem_cons_self, h⟩

theorem Told.quiet (h : r.Told) (unread : Inbound.binaries step.message?.toList = [])
    (silent : SocketTask.reports outputs = []) : (r.extend step outputs).Told := by
  rw [Told, reports_extend, frames_extend, unread, silent, List.append_nil, List.append_nil]
  exact h

end Record

/-! ## Lives -/

/-- The life of a link so far, as its record, while the receiving end of the event channel is
there or gone for good. -/
inductive Life : Bool → Record → SocketTask → Prop
  | opened (url : String) (heard : Bool) : Life heard {} { url }
  | left {heard : Bool} {r : Record} {t : SocketTask} (frame : Bytes) : Life heard r t →
      t.phase ≠ .finished → Life heard (r.leave frame) { t with outbox := t.outbox ++ [frame] }
  | asked {heard : Bool} {r : Record} {t : SocketTask} : Life heard r t →
      Life heard r { t with shutdownRequested := true }
  | stepped {heard : Bool} {r : Record} {t t' : SocketTask} {step : Step}
      {outputs : List Output} : Life heard r t → t.step? heard step = some (t', outputs) →
      Life heard (r.extend step outputs) t'
  | deafened {heard : Bool} {r : Record} {t : SocketTask} : Life heard r t → Life false r t

/-! ## Stages -/

/-- The link is not up yet. -/
structure Ahead (r : Record) (t : SocketTask) : Prop where
  reports : r.reports = []
  frames : r.frames = []
  parcels : r.parcels = []
  accepted : r.accepted = t.outbox

/-- The link is up: what was accepted was sent or still waits. -/
structure Open (r : Record) (t : SocketTask) : Prop where
  told : r.Told
  accepted : r.accepted.map .binary = r.parcels ++ t.pending.map .binary

/-- How a task can have finished. -/
inductive Ending (heard : Bool) (r : Record) (t : SocketTask) : Prop
  | abandoned : t.shutdownRequested = true → r.reports = [] → Ending heard r t
  | refused : r.reports = [.disconnected] → r.frames = [] → Ending heard r t
  | unheard : heard = false → r.reports <+: .connected :: r.frames.map .frame → Ending heard r t
  | closed : t.shutdownRequested = true → r.Told →
      r.Broken ∨ r.parcels = r.accepted.map .binary ++ [.close] → Ending heard r t
  | lost : r.reports = .connected :: r.frames.map .frame ++ [.disconnected] → r.Broken →
      Ending heard r t

/-- How far the life of a link has come, by the phase of its task. -/
def Stage (heard : Bool) (r : Record) (t : SocketTask) : Prop :=
  match t.phase with
  | .spawned | .connecting => Ahead r t
  | .waiting | .sending _ => Open r t
  | .flushing => Open r t ∧ t.shutdownRequested = true
  | .closing => r.Told ∧ r.Broken ∧ t.shutdownRequested = true
  | .finished => Ending heard r t

section

variable {heard : Bool} {r : Record} {t t' : SocketTask} {step : Step} {outputs : List Output}

theorem Ahead.left (h : Ahead r t) (frame : Bytes) :
    Ahead (r.leave frame) { t with outbox := t.outbox ++ [frame] } := by
  refine ⟨h.reports, h.frames, h.parcels, ?_⟩
  rw [Record.leave, h.accepted]

theorem Open.left (h : Open r t) (frame : Bytes) :
    Open (r.leave frame) { t with outbox := t.outbox ++ [frame] } := by
  have waits : ({ t with outbox := t.outbox ++ [frame] } : SocketTask).pending =
      t.pending ++ [frame] := by
    cases phase : t.phase <;> simp [pending, phase]
  refine ⟨h.told, ?_⟩
  rw [waits, Record.leave, List.map_append, List.map_append, h.accepted, List.append_assoc]
  rfl

theorem Stage.left (h : Stage heard r t) (unfinished : t.phase ≠ .finished) (frame : Bytes) :
    Stage heard (r.leave frame) { t with outbox := t.outbox ++ [frame] } := by
  unfold Stage at h ⊢
  dsimp only
  split at h
  · exact h.left frame
  · exact h.left frame
  · exact h.left frame
  · exact h.left frame
  · exact ⟨h.1.left frame, h.2⟩
  · exact h
  · next finished => exact absurd finished unfinished

theorem Stage.asked (h : Stage heard r t) :
    Stage heard r { t with shutdownRequested := true } := by
  unfold Stage at h ⊢
  dsimp only
  split at h
  · exact ⟨h.reports, h.frames, h.parcels, h.accepted⟩
  · exact ⟨h.reports, h.frames, h.parcels, h.accepted⟩
  · exact ⟨h.told, h.accepted⟩
  · exact ⟨h.told, h.accepted⟩
  · exact ⟨⟨h.1.told, h.1.accepted⟩, rfl⟩
  · exact ⟨h.1, h.2.1, rfl⟩
  · cases h with
    | abandoned _ reports => exact .abandoned rfl reports
    | refused reports frames => exact .refused reports frames
    | unheard deaf reports => exact .unheard deaf reports
    | closed _ told sent => exact .closed rfl told sent
    | lost reports broken => exact .lost reports broken

theorem Stage.deafened (h : Stage heard r t) : Stage false r t := by
  unfold Stage at h ⊢
  split at h
  · exact h
  · exact h
  · exact h
  · exact h
  · exact h
  · exact h
  · cases h with
    | abandoned asked reports => exact .abandoned asked reports
    | refused reports frames => exact .refused reports frames
    | unheard _ reports => exact .unheard rfl reports
    | closed asked told sent => exact .closed asked told sent
    | lost reports broken => exact .lost reports broken

theorem Open.extend (h : Open r t) (told : (r.extend step outputs).Told)
    (moved : t.pending.map Parcel.binary =
      SocketTask.parcels outputs ++ t'.pending.map Parcel.binary) :
    Open (r.extend step outputs) t' := by
  refine ⟨told, ?_⟩
  rw [Record.accepted_extend, Record.parcels_extend, h.accepted, moved, List.append_assoc]

theorem ending_of_lose (told : r.Told) (unread : Inbound.binaries step.message?.toList = [])
    (breaks : step.breaks = true) (notices : List Notice)
    (lost : some (t.lose heard (notices.map .note)) = some (t', outputs)) :
    Stage heard (r.extend step outputs) t' := by
  cases lost
  cases heard with
  | true =>
    refine Ending.lost ?_ (Record.broken_extend breaks _)
    rw [Record.reports_extend, Record.frames_extend, unread, reports_append, reports_notes, told,
      List.append_nil]
    rfl
  | false =>
    refine Ending.unheard rfl ?_
    rw [Record.reports_extend, Record.frames_extend, unread, reports_append, reports_notes, told,
      List.append_nil]
    exact ⟨[], (List.append_nil _).trans (List.append_nil _)⟩

theorem stage_of_receive {message : Inbound} (opened : Open r t) (waiting : t.phase = .waiting)
    (received : some (t.receive heard message) = some (t', outputs)) :
    Stage heard (r.extend (.receive message) outputs) t' := by
  cases message with
  | binary frame =>
    simp only [receive] at received
    split at received
    · cases received
      rw [Stage, waiting]
      refine opened.extend ?_ rfl
      rw [Record.Told, Record.reports_extend, Record.frames_extend, opened.told, List.map_append]
      rfl
    · next deaf =>
      cases received
      refine Ending.unheard (by simpa using deaf) ?_
      rw [Record.reports_extend, Record.frames_extend, opened.told, List.map_append,
        ← List.cons_append]
      exact (List.prefix_append_right_inj _).mpr List.nil_prefix
  | other =>
    cases received
    rw [Stage, waiting]
    exact opened.extend (opened.told.quiet rfl rfl) rfl
  | close => exact ending_of_lose opened.told rfl rfl [_] received
  | failed reason => exact ending_of_lose opened.told rfl rfl [_] received
  | ended => exact ending_of_lose opened.told rfl rfl [_] received

theorem Stage.stepped (h : Stage heard r t) (stepped : t.step? heard step = some (t', outputs)) :
    Stage heard (r.extend step outputs) t' := by
  -- The cases stand in the order of the branches of `step?`.
  unfold step? at stepped
  split at stepped
  case h_1 spawned =>
    rw [Stage, spawned] at h
    cases stepped
    refine ⟨?_, ?_, ?_, h.accepted⟩
    · rw [Record.reports_extend, h.reports]
      rfl
    · rw [Record.frames_extend, h.frames]
      rfl
    · rw [Record.parcels_extend, h.parcels]
      rfl
  case h_2 connecting =>
    rw [Stage, connecting] at h
    dsimp only at stepped
    split at stepped
    · cases stepped
      refine ⟨?_, ?_⟩
      · rw [Record.Told, Record.reports_extend, Record.frames_extend, h.reports, h.frames]
        rfl
      · rw [Record.parcels_extend, Record.accepted_extend, h.parcels, h.accepted]
        rfl
    · next deaf =>
      cases stepped
      refine Ending.unheard (by simpa using deaf) ?_
      rw [Record.reports_extend, h.reports]
      exact List.nil_prefix
  case h_3 reason connecting =>
    rw [Stage, connecting] at h
    cases stepped
    cases heard with
    | true =>
      refine Ending.refused ?_ ?_
      · rw [Record.reports_extend, h.reports]
        rfl
      · rw [Record.frames_extend, h.frames]
        rfl
    | false =>
      refine Ending.unheard rfl ?_
      rw [Record.reports_extend, h.reports]
      exact List.nil_prefix
  case h_4 connecting =>
    rw [Stage, connecting] at h
    split at stepped
    · next asked =>
      cases stepped
      refine Ending.abandoned asked ?_
      rw [Record.reports_extend, h.reports]
      rfl
    · cases stepped
  case h_5 waiting =>
    rw [Stage, waiting] at h
    split at stepped
    · next asked =>
      cases stepped
      refine ⟨h.extend (h.told.quiet rfl rfl) ?_, asked⟩
      rw [pending, waiting]
      rfl
    · cases stepped
  case h_6 waiting =>
    rw [Stage, waiting] at h
    split at stepped
    · next frame rest _ first =>
      cases stepped
      refine h.extend (h.told.quiet rfl rfl) ?_
      rw [pending, waiting, first]
      rfl
    · cases stepped
  case h_7 message waiting =>
    rw [Stage, waiting] at h
    split at stepped
    · exact stage_of_receive h waiting stepped
    · cases stepped
  case h_8 frame sending =>
    rw [Stage, sending] at h
    cases stepped
    refine h.extend (h.told.quiet rfl rfl) ?_
    rw [pending, sending]
    rfl
  case h_9 frame reason sending =>
    rw [Stage, sending] at h
    exact ending_of_lose h.told rfl rfl [_] stepped
  case h_10 flushing =>
    rw [Stage, flushing] at h
    split at stepped
    · next frame rest first =>
      cases stepped
      rw [Stage, flushing]
      refine ⟨h.1.extend (h.1.told.quiet rfl rfl) ?_, h.2⟩
      rw [pending, pending, flushing, first]
      rfl
    · cases stepped
  case h_11 reason flushing =>
    rw [Stage, flushing] at h
    split at stepped
    · cases stepped
      exact ⟨h.1.told.quiet rfl rfl, Record.broken_extend rfl _, h.2⟩
    · cases stepped
  case h_12 flushing =>
    rw [Stage, flushing] at h
    split at stepped
    · next none =>
      cases stepped
      refine Ending.closed h.2 (h.1.told.quiet rfl rfl) (.inr ?_)
      have sent : r.accepted.map .binary = r.parcels := by
        rw [h.1.accepted, pending, flushing, List.isEmpty_iff.mp none, List.map_nil,
          List.append_nil]
      rw [Record.parcels_extend, Record.accepted_extend, sent]
      rfl
    · cases stepped
  case h_13 closing =>
    rw [Stage, closing] at h
    cases stepped
    exact Ending.closed h.2.2 (h.1.quiet rfl rfl) (.inl (h.2.1.extend _ _))
  case h_14 => cases stepped

/-- At every moment of its life a link is at the stage of its task. -/
theorem Life.stage (h : Life heard r t) : Stage heard r t := by
  induction h with
  | opened url heard => exact ⟨rfl, rfl, rfl, rfl⟩
  | left frame _ unfinished ih => exact ih.left unfinished frame
  | asked _ ih => exact ih.asked
  | stepped _ stepped ih => exact ih.stepped stepped
  | deafened _ ih => exact ih.deafened

end

end SocketTask

end GameClient
