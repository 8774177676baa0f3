import GameClient.Transport.Socket

/-! # Links and what they report

Every link reports in the same order: that it is up, its frames, and last that it is gone. Some
links say less, when nobody listens or when they were asked to shut down, and none says more.
`Course` is how far a link has come in this order. `SocketTask.Move` lists what one step of a task
can do, as far as it shows at the client; all else follows from the moves. -/

namespace GameClient

/-! ## Courses -/

/-- How far a link has come, by its events. -/
inductive Course where
  | idle
  | up
  | ended
deriving DecidableEq

namespace Course

def next? : Course → Event → Option Course
  | idle, .connected => some up
  | idle, .disconnected => some ended
  | up, .frame _ => some up
  | up, .disconnected => some ended
  | _, _ => none

/-- The course after these events, if they can come in this order. -/
def follow? : Course → List Event → Option Course
  | course, [] => some course
  | course, event :: events => (course.next? event).bind fun next => next.follow? events

theorem follow?_append (course : Course) (events more : List Event) :
    course.follow? (events ++ more) =
      (course.follow? events).bind fun next => next.follow? more := by
  induction events generalizing course with
  | nil => rfl
  | cons event events ih =>
    simp only [List.cons_append, follow?]
    cases course.next? event with
    | none => rfl
    | some next => exact ih next

theorem eq_up_of_next?_connected {course next : Course}
    (h : course.next? .connected = some next) : next = up := by
  cases course with
  | idle => cases h; rfl
  | up => cases h
  | ended => cases h

theorem eq_up_of_next?_frame {course next : Course} {bytes : Bytes}
    (h : course.next? (.frame bytes) = some next) : next = up := by
  cases course with
  | idle => cases h
  | up => cases h; rfl
  | ended => cases h

theorem eq_ended_of_next? {course next : Course} (h : course.next? .disconnected = some next) :
    next = ended := by
  cases course with
  | idle => cases h; rfl
  | up => cases h; rfl
  | ended => cases h

theorem eq_of_follow?_ended {events : List Event} {course : Course}
    (h : ended.follow? events = some course) : events = [] ∧ course = ended := by
  cases events with
  | nil =>
    cases h
    exact ⟨rfl, rfl⟩
  | cons event events => cases h

theorem follow?_cons {course next : Course} {event : Event} {events : List Event}
    (h : course.follow? (event :: events) = some next) :
    ∃ mid, course.next? event = some mid ∧ mid.follow? events = some next := by
  simp only [follow?] at h
  cases first : course.next? event with
  | none =>
    rw [first] at h
    cases h
  | some mid =>
    rw [first] at h
    exact ⟨mid, rfl, h⟩

end Course

/-! ## Tasks -/

namespace SocketTask

def Output.event? : Output → Option Event
  | report event => some event
  | _ => none

def reports (outputs : List Output) : List Event := outputs.filterMap Output.event?

theorem reports_append (outputs more : List Output) :
    reports (outputs ++ more) = reports outputs ++ reports more :=
  List.filterMap_append

theorem reports_notes (notices : List Notice) : reports (notices.map .note) = [] := by
  simp [reports, Output.event?]

/-- The frames that were accepted and have not reached the server. -/
def pending (t : SocketTask) : List Bytes :=
  match t.phase with
  | .sending frame => frame :: t.outbox
  | _ => t.outbox

/-- A task that closes its link is silent from then on. -/
def course (t : SocketTask) : Course :=
  match t.phase with
  | .spawned | .connecting => .idle
  | .waiting | .sending _ => .up
  | .flushing | .closing | .finished => .ended

/-- What one step can do: the next task and the events that it reports. -/
inductive Move (heard : Bool) (t : SocketTask) : Step → SocketTask → List Event → Prop
  | run : t.phase = .spawned → Move heard t .run { t with phase := .connecting } []
  | connected : t.phase = .connecting → heard = true →
      Move heard t .connected { t with phase := .waiting } [.connected]
  | received (frame : Bytes) : t.phase = .waiting → heard = true →
      Move heard t (.receive (.binary frame)) t [.frame frame]
  | skipped : t.phase = .waiting → Move heard t (.receive .other) t []
  | taken {frame : Bytes} {rest : List Bytes} : t.phase = .waiting → t.outbox = frame :: rest →
      Move heard t .take { t with phase := .sending frame, outbox := rest } []
  | sent {frame : Bytes} : t.phase = .sending frame →
      Move heard t .sent { t with phase := .waiting } []
  | lost {step : Step} : t.course ≠ .ended → heard = true →
      Move heard t step { t with phase := .finished } [.disconnected]
  | unheard {step : Step} : t.course ≠ .ended → heard = false →
      Move heard t step { t with phase := .finished } []
  | silent {step : Step} {phase : Phase} {outbox : List Bytes} :
      t.shutdownRequested = true ∨ t.course = .ended →
      phase = .flushing ∨ phase = .closing ∨ phase = .finished → outbox ⊆ t.outbox →
      Move heard t step { t with phase, outbox } []

section

variable {t t' : SocketTask} {heard : Bool} {step : Step} {outputs : List Output}

/-- A link that ends by itself says so to anyone who listens. -/
theorem move_of_lose (notices : List Notice) (h : t.course ≠ .ended)
    (lost : some (t.lose heard (notices.map .note)) = some (t', outputs)) :
    Move heard t step t' (reports outputs) := by
  cases lost
  rw [reports_append, reports_notes]
  cases heard with
  | true => exact .lost h rfl
  | false => exact .unheard h rfl

theorem move_of_receive {message : Inbound} (waiting : t.phase = .waiting)
    (h : some (t.receive heard message) = some (t', outputs)) :
    Move heard t (.receive message) t' (reports outputs) := by
  have live : t.course ≠ .ended := by
    rw [course, waiting]
    exact Course.noConfusion
  cases message with
  | binary frame =>
    simp only [receive] at h
    split at h
    · next hears =>
      cases h
      exact .received frame waiting hears
    · next deaf =>
      cases h
      exact .unheard live (by simpa using deaf)
  | other =>
    cases h
    exact .skipped waiting
  | close => exact move_of_lose [_] live h
  | failed reason => exact move_of_lose [_] live h
  | ended => exact move_of_lose [_] live h

theorem move_of_step (h : t.step? heard step = some (t', outputs)) :
    Move heard t step t' (reports outputs) := by
  -- The cases stand in the order of the branches of `step?`.
  unfold step? at h
  split at h
  case h_1 spawned =>
    cases h
    exact .run spawned
  case h_2 connecting =>
    dsimp only at h
    split at h
    · next hears =>
      cases h
      exact .connected connecting hears
    · next deaf =>
      cases h
      exact .unheard (by simp [course, connecting]) (by simpa using deaf)
  case h_3 connecting =>
    exact move_of_lose [_] (by simp [course, connecting]) h
  case h_4 connecting =>
    split at h
    · next asked =>
      cases h
      exact .silent (.inl asked) (.inr (.inr rfl)) (List.Subset.refl _)
    · cases h
  case h_5 waiting =>
    split at h
    · next asked =>
      cases h
      exact .silent (.inl asked) (.inl rfl) (List.Subset.refl _)
    · cases h
  case h_6 waiting =>
    split at h
    · next first =>
      cases h
      exact .taken waiting first
    · cases h
  case h_7 waiting =>
    split at h
    · exact move_of_receive waiting h
    · cases h
  case h_8 sending =>
    cases h
    exact .sent sending
  case h_9 sending =>
    exact move_of_lose [_] (by simp [course, sending]) h
  case h_10 flushing =>
    split at h
    · next first =>
      cases h
      refine .silent (.inr (by simp [course, flushing])) (.inl flushing) ?_
      rw [first]
      exact List.subset_cons_self _ _
    · cases h
  case h_11 flushing =>
    split at h
    · next first =>
      cases h
      refine .silent (.inr (by simp [course, flushing])) (.inr (.inl rfl)) ?_
      rw [first]
      exact List.subset_cons_self _ _
    · cases h
  case h_12 flushing =>
    split at h
    · cases h
      exact .silent (.inr (by simp [course, flushing])) (.inr (.inr rfl)) (List.Subset.refl _)
    · cases h
  case h_13 closing =>
    cases h
    exact .silent (.inr (by simp [course, closing])) (.inr (.inr rfl)) (List.Subset.refl _)
  case h_14 => cases h

end

namespace Move

variable {t t' : SocketTask} {heard : Bool} {step : Step} {events : List Event}

theorem asked_eq (h : Move heard t step t' events) :
    t'.shutdownRequested = t.shutdownRequested := by
  cases h <;> rfl

theorem step_eq (h : Move heard t step t' events) {frame : Bytes}
    (reported : .frame frame ∈ events) : step = .receive (.binary frame) := by
  cases h <;> simp_all

theorem pending_subset (h : Move heard t step t' events) : t'.pending ⊆ t.pending := by
  have outbox : t.outbox ⊆ t.pending := by
    unfold pending
    split
    · exact List.subset_cons_self _ _
    · exact List.Subset.refl _
  cases h with
  | run => exact outbox
  | connected => exact outbox
  | received => exact List.Subset.refl _
  | skipped => exact List.Subset.refl _
  | taken waiting first =>
    rw [first] at outbox
    exact outbox
  | sent => exact outbox
  | lost => exact outbox
  | unheard => exact outbox
  | silent _ closing fewer =>
    rcases closing with rfl | rfl | rfl
    all_goals exact List.Subset.trans fewer outbox

/-- A link that is over stays so in silence. -/
theorem ended (h : Move heard t step t' events) (ended : t.course = .ended) :
    t'.course = .ended ∧ events = [] := by
  cases h with
  | run phase => simp [course, phase] at ended
  | connected phase => simp [course, phase] at ended
  | received _ phase => simp [course, phase] at ended
  | skipped phase => simp [course, phase] at ended
  | taken phase => simp [course, phase] at ended
  | sent phase => simp [course, phase] at ended
  | lost live => exact absurd ended live
  | unheard live => exact absurd ended live
  | silent _ closing =>
    refine ⟨?_, rfl⟩
    rcases closing with rfl | rfl | rfl
    all_goals rfl

/-- A link that is heard and not asked to shut down reports every change of its course. -/
theorem follow? (h : Move true t step t' events) (unasked : t.shutdownRequested = false) :
    t.course.follow? events = some t'.course := by
  cases h with
  | run phase => rw [course, phase]; rfl
  | connected phase => rw [course, phase]; rfl
  | received _ phase => rw [course, phase]; rfl
  | skipped phase => rfl
  | taken phase => rw [course, phase]; rfl
  | sent phase => rw [course, phase]; rfl
  | lost live =>
    cases stage : t.course with
    | idle => rfl
    | up => rfl
    | ended => exact absurd stage live
  | unheard _ deaf => cases deaf
  | silent why closing =>
    rcases why with asked | ended
    · rw [unasked] at asked
      cases asked
    · rw [ended]
      rcases closing with rfl | rfl | rfl
      all_goals rfl

end Move

/-- The task can still report an event, now or later: in any course of its own steps, in which its
owner may leave more frames with it or ask it to shut down. -/
inductive CanReport : SocketTask → Prop
  | now {t t' : SocketTask} {heard : Bool} {step : Step} {outputs : List Output} {event : Event} :
      t.step? heard step = some (t', outputs) → .report event ∈ outputs → CanReport t
  | later {t t' : SocketTask} {heard : Bool} {step : Step} {outputs : List Output} :
      t.step? heard step = some (t', outputs) → CanReport t' → CanReport t
  | left {t : SocketTask} (frame : Bytes) :
      CanReport { t with outbox := t.outbox ++ [frame] } → CanReport t
  | asked {t : SocketTask} : CanReport { t with shutdownRequested := true } → CanReport t

theorem CanReport.course_ne_ended {t : SocketTask} (h : CanReport t) : t.course ≠ .ended := by
  -- Backwards from the report: a task that is over stays over with each step before it.
  induction h with
  | @now t t' heard step outputs event stepped reported =>
    intro ended
    have silence : reports outputs = [] := ((move_of_step stepped).ended ended).2
    have shown : event ∈ reports outputs := List.mem_filterMap.mpr ⟨_, reported, rfl⟩
    rw [silence] at shown
    cases shown
  | later stepped _ ih =>
    intro ended
    exact ih ((move_of_step stepped).ended ended).1
  | left frame _ ih => exact ih
  | asked _ ih => exact ih

end SocketTask

/-! ## All links of an owner -/

namespace WebSocket

def links (s : WebSocket) : List SocketTask := s.former ++ s.current.toList

/-- The course of the last link; before the first one there is nothing to hear. -/
def course (s : WebSocket) : Course :=
  match s.links.getLast? with
  | some task => task.course
  | none => .ended

def stepLink? (s : WebSocket) (link : Nat) (heard : Bool) (step : SocketTask.Step) :
    Option (WebSocket × List SocketTask.Output) :=
  if link < s.former.length then s.stepFormer? link heard step
  else if link = s.former.length then s.stepCurrent? heard step
  else none

theorem links_of_current {s : WebSocket} {task : SocketTask} (h : s.current = some task) :
    s.links = s.former ++ [task] := by
  rw [links, h, Option.toList_some]

theorem links_of_stepLink? {s s' : WebSocket} {link : Nat} {heard : Bool}
    {step : SocketTask.Step} {outputs : List SocketTask.Output}
    (h : s.stepLink? link heard step = some (s', outputs)) :
    ∃ task task', s.links[link]? = some task ∧ task.step? heard step = some (task', outputs) ∧
      s'.links = s.links.set link task' := by
  unfold stepLink? at h
  split at h
  · next former =>
    unfold stepFormer? at h
    obtain ⟨task, found, h⟩ := Option.bind_eq_some_iff.mp h
    obtain ⟨⟨task', outputs'⟩, stepped, h⟩ := Option.bind_eq_some_iff.mp h
    cases h
    refine ⟨task, task', ?_, stepped, ?_⟩
    · rw [links, List.getElem?_append_left former, found]
    · rw [links, links, List.set_append_left _ _ former]
  · split at h
    · next last =>
      unfold stepCurrent? at h
      obtain ⟨task, found, h⟩ := Option.bind_eq_some_iff.mp h
      obtain ⟨⟨task', outputs'⟩, stepped, h⟩ := Option.bind_eq_some_iff.mp h
      cases h
      refine ⟨task, task', ?_, stepped, ?_⟩
      · rw [links_of_current found, last, List.getElem?_append_right (Nat.le_refl _), Nat.sub_self]
        rfl
      · rw [links_of_current found, last, List.set_append_right _ _ (Nat.le_refl _), Nat.sub_self]
        rfl
    · cases h

/-- The last link is changed by `f`, or no link is changed. -/
inductive Touched (f : SocketTask → SocketTask) (s s' : WebSocket) : Prop
  | not : s'.links = s.links → Touched f s s'
  | last (link : Nat) (task : SocketTask) : link + 1 = s.links.length →
      s.links[link]? = some task → s'.links = s.links.set link (f task) → Touched f s s'

theorem touched_of_current {f : SocketTask → SocketTask} {s s' : WebSocket} {task : SocketTask}
    (current : s.current = some task) (links' : s'.links = s.former ++ [f task]) :
    Touched f s s' := by
  have links := links_of_current current
  refine .last s.former.length task ?_ ?_ ?_
  · rw [links, List.length_append, List.length_singleton]
  · rw [links, List.getElem?_append_right (Nat.le_refl _), Nat.sub_self]
    rfl
  · rw [links, links', List.set_append_right _ _ (Nat.le_refl _), Nat.sub_self]
    rfl

theorem touched_send (frame : Bytes) (s : WebSocket) :
    Touched (fun task => { task with outbox := task.outbox ++ [frame] }) s (s.send frame).2 := by
  unfold send
  split
  · exact .not rfl
  · next task current =>
    split
    · exact .not rfl
    · exact touched_of_current current rfl

theorem touched_disconnect (s : WebSocket) :
    Touched (fun task => { task with shutdownRequested := true }) s s.disconnect := by
  unfold disconnect
  split
  · next task current =>
    refine touched_of_current current ?_
    exact List.append_nil _
  · exact .not rfl

/-- A connect call opens one more link, or it is refused and changes nothing. -/
theorem connect_cases (s : WebSocket) :
    (s.connect.1 = .accepted ∧ s.connect.2.links = s.disconnect.links ++ [{ url := s.url }]) ∨
      (s.connect.1 ≠ .accepted ∧ s.connect.2 = s) := by
  unfold connect
  split
  · refine .inl ⟨rfl, ?_⟩
    have gone : s.disconnect.current = none := by
      unfold disconnect
      split
      · rfl
      · assumption
    rw [links, links, gone, Option.toList_none, List.append_nil]
    rfl
  · refine .inr ⟨?_, rfl⟩
    exact Answer.noConfusion

namespace Touched

variable {f : SocketTask → SocketTask} {s s' : WebSocket}

theorem length_eq (h : Touched f s s') : s'.links.length = s.links.length := by
  cases h with
  | not same => rw [same]
  | last _ _ _ _ changed => rw [changed, List.length_set]

theorem getLast? (h : Touched f s s') :
    s'.links.getLast? = s.links.getLast? ∨
      ∃ task, s.links.getLast? = some task ∧ s'.links.getLast? = some (f task) := by
  cases h with
  | not same => exact .inl (by rw [same])
  | last link task length found changed =>
    have place : s.links.length - 1 = link := by omega
    have inside : link < s.links.length := by omega
    refine .inr ⟨task, ?_, ?_⟩
    · rw [List.getLast?_eq_getElem?, place, found]
    · rw [changed, List.getLast?_eq_getElem?, List.length_set, place,
        List.getElem?_set_self inside]

theorem course_eq (h : Touched f s s') (keeps : ∀ task, (f task).course = task.course) :
    s'.course = s.course := by
  unfold course
  rcases h.getLast? with same | ⟨task, last, last'⟩
  · rw [same]
  · rw [last, last']
    exact keeps task

end Touched

/-! ## Former links -/

theorem former_disconnect (s : WebSocket) : s.former <+: s.disconnect.former := by
  unfold disconnect
  split
  · exact List.prefix_append _ _
  · exact List.prefix_rfl

theorem former_connect (s : WebSocket) : s.former <+: s.connect.2.former := by
  unfold connect
  split
  · exact s.former_disconnect
  · exact List.prefix_rfl

theorem former_send (frame : Bytes) (s : WebSocket) : (s.send frame).2.former = s.former := by
  unfold send
  split
  · rfl
  · split
    · rfl
    · rfl

/-- The current link becomes the last of the former ones. -/
theorem former_disconnect_of_current {s : WebSocket} {task : SocketTask}
    (h : s.current = some task) :
    s.disconnect.former[s.former.length]? = some { task with shutdownRequested := true } := by
  rw [disconnect, h]
  exact List.getElem?_concat_length

theorem former_of_stepLink? {s s' : WebSocket} {link stepping : Nat} {heard : Bool}
    {step : SocketTask.Step} {outputs : List SocketTask.Output} {task : SocketTask}
    (h : s.stepLink? stepping heard step = some (s', outputs))
    (found : s.former[link]? = some task) :
    (stepping ≠ link ∧ s'.former[link]? = some task) ∨
      ∃ task', stepping = link ∧ task.step? heard step = some (task', outputs) ∧
        s'.former[link]? = some task' := by
  have inside : link < s.former.length := (List.getElem?_eq_some_iff.mp found).1
  unfold stepLink? at h
  split at h
  · unfold stepFormer? at h
    obtain ⟨mover, mover_found, h⟩ := Option.bind_eq_some_iff.mp h
    obtain ⟨⟨moved, shown⟩, stepped, h⟩ := Option.bind_eq_some_iff.mp h
    cases h
    by_cases same : stepping = link
    · subst same
      rw [found] at mover_found
      cases mover_found
      exact .inr ⟨moved, rfl, stepped, List.getElem?_set_self inside⟩
    · exact .inl ⟨same, (List.getElem?_set_ne same).trans found⟩
  · split at h
    · next last =>
      unfold stepCurrent? at h
      obtain ⟨mover, -, h⟩ := Option.bind_eq_some_iff.mp h
      obtain ⟨_, -, h⟩ := Option.bind_eq_some_iff.mp h
      cases h
      exact .inl ⟨by omega, found⟩
    · cases h

end WebSocket

end GameClient
