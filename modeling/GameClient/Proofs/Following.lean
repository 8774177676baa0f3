import GameClient.Proofs.Online

/-! # A client on its last link

`Kept` is about the links: all but the last are over, and what waits on a link was vouched for on
it. `Live` ties the client and the events that wait to the last link. Each section says what one
operation keeps. -/

namespace GameClient

open Happening

/-! ## Links -/

/-- The server has assigned the id on the last link. -/
def AssignedLast (s : WebSocket) (id : SessionId) (past : List Happening) : Prop :=
  ∃ link, link + 1 = s.links.length ∧ Assigned link id past

/-- The frame carries an id that the server has assigned on the last link. -/
def VouchedLast (s : WebSocket) (frame : Bytes) (past : List Happening) : Prop :=
  ∃ link, link + 1 = s.links.length ∧ Vouched link frame past

/-- What holds of the links at all times. -/
structure Kept (s : WebSocket) (past : List Happening) : Prop where
  opened : s.links.length = opened past
  ended : ∀ link task, s.links[link]? = some task → link + 1 < s.links.length →
    task.course = .ended
  vouched : ∀ link task, s.links[link]? = some task →
    ∀ frame ∈ task.pending, Vouched link frame past

namespace Kept

variable {s s' : WebSocket} {past : List Happening}

theorem more (h : Kept s past) {more : List Happening} (quiet : Happening.opened more = 0) :
    Kept s (past ++ more) := by
  refine ⟨?_, h.ended, ?_⟩
  · rw [opened_append, quiet, Nat.add_zero]
    exact h.opened
  · intro link task found frame waits
    exact (h.vouched link task found frame waits).more more

/-- The task of one link may change, if a link that is over stays over and every new frame is
vouched for. -/
theorem set (h : Kept s past) {link : Nat} {task task' : SocketTask}
    (found : s.links[link]? = some task) (changed : s'.links = s.links.set link task')
    (ended : task.course = .ended → task'.course = .ended)
    (vouched : ∀ frame ∈ task'.pending, frame ∈ task.pending ∨ Vouched link frame past) :
    Kept s' past := by
  have inside : link < s.links.length := (List.getElem?_eq_some_iff.mp found).1
  have length : s'.links.length = s.links.length := by rw [changed, List.length_set]
  refine ⟨length.trans h.opened, ?_, ?_⟩
  · intro other t found' former
    rw [changed] at found'
    rw [length] at former
    by_cases same : link = other
    · subst same
      rw [List.getElem?_set_self inside] at found'
      cases found'
      exact ended (h.ended link task found former)
    · rw [List.getElem?_set_ne same] at found'
      exact h.ended other t found' former
  · intro other t found' frame waits
    rw [changed] at found'
    by_cases same : link = other
    · subst same
      rw [List.getElem?_set_self inside] at found'
      cases found'
      rcases vouched frame waits with old | new
      · exact h.vouched link task found frame old
      · exact new
    · rw [List.getElem?_set_ne same] at found'
      exact h.vouched other t found' frame waits

theorem touch (h : Kept s past) {f : SocketTask → SocketTask} (touched : WebSocket.Touched f s s')
    (course : ∀ task, (f task).course = task.course)
    (vouched : ∀ task, ∀ frame ∈ (f task).pending,
      frame ∈ task.pending ∨ VouchedLast s frame past) : Kept s' past := by
  cases touched with
  | not same =>
    refine ⟨?_, ?_, ?_⟩
    all_goals rw [same]
    · exact h.opened
    · exact h.ended
    · exact h.vouched
  | last link task last found changed =>
    refine h.set found changed ?_ ?_
    · intro ended
      rw [course, ended]
    · intro frame waits
      rcases vouched task frame waits with old | ⟨link', last', new⟩
      · exact .inl old
      · obtain rfl : link' = link := by omega
        exact .inr new

theorem send (h : Kept s past) {frame : Bytes} (vouched : VouchedLast s frame past) :
    Kept (s.send frame).2 past := by
  refine h.touch (WebSocket.touched_send frame s) (fun _ => rfl) ?_
  intro task other waits
  have cases : other ∈ task.pending ∨ other = frame := by
    unfold SocketTask.pending at waits ⊢
    split at waits <;> simp_all [or_assoc]
  rcases cases with old | rfl
  · exact .inl old
  · exact .inr vouched

theorem sendAll (h : Kept s past) {frames : List Bytes}
    (vouched : ∀ frame ∈ frames, VouchedLast s frame past) :
    Kept (Transport.sendAll frames s) past := by
  induction frames generalizing s with
  | nil => exact h
  | cons frame frames ih =>
    have first : Kept (s.send frame).2 past := h.send (vouched frame List.mem_cons_self)
    apply ih first
    intro other later
    rw [VouchedLast, (WebSocket.touched_send frame s).length_eq]
    exact vouched other (List.mem_cons_of_mem frame later)

theorem disconnect (h : Kept s past) : Kept s.disconnect past := by
  refine h.touch (WebSocket.touched_disconnect s) (fun _ => rfl) ?_
  intro task frame waits
  exact .inl waits

theorem step (h : Kept s past) {link : Nat} {heard : Bool} {step : SocketTask.Step}
    {outputs : List SocketTask.Output}
    (stepped : s.stepLink? link heard step = some (s', outputs)) :
    Kept s' (past ++ [.task link step]) := by
  obtain ⟨task, task', found, moved, changed⟩ := WebSocket.links_of_stepLink? stepped
  have move := SocketTask.move_of_step moved
  have longer : Kept s (past ++ [.task link step]) := h.more rfl
  refine longer.set found changed ?_ ?_
  · intro ended
    exact (move.ended ended).1
  · intro frame waits
    exact .inl (move.pending_subset waits)

theorem connect (h : Kept s past) {more : List Happening} (ended : s.course = .ended)
    (accepted : s.connect.1 = .accepted) (one : Happening.opened more = 1) :
    Kept s.connect.2 (past ++ more) := by
  rcases s.connect_cases with ⟨-, links⟩ | ⟨refused, -⟩
  · have gone := h.disconnect
    have length : s.connect.2.links.length = s.disconnect.links.length + 1 := by
      rw [links, List.length_append, List.length_singleton]
    have ended : s.disconnect.course = .ended := by
      rw [(WebSocket.touched_disconnect s).course_eq (fun _ => rfl), ended]
    refine ⟨?_, ?_, ?_⟩
    · rw [length, opened_append, one, gone.opened]
    · intro link task found former
      rw [length] at former
      have inside : link < s.disconnect.links.length := by omega
      rw [links, List.getElem?_append_left inside] at found
      -- What was the last link is over by assumption, and the ones before it already were.
      by_cases last : link + 1 = s.disconnect.links.length
      · have place : s.disconnect.links.length - 1 = link := by omega
        have seen : s.disconnect.links.getLast? = some task := by
          rw [List.getLast?_eq_getElem?, place, found]
        rw [WebSocket.course, seen] at ended
        exact ended
      · exact gone.ended link task found (by omega)
    · intro link task found frame waits
      rw [links] at found
      by_cases inside : link < s.disconnect.links.length
      · rw [List.getElem?_append_left inside] at found
        exact (gone.vouched link task found frame waits).more more
      · rw [List.getElem?_append_right (by omega), List.getElem?_singleton] at found
        split at found
        · cases found
          cases waits
        · cases found
  · exact absurd accepted refused

end Kept

/-! ## The client on its last link -/

def WebSocket.asked (s : WebSocket) : Bool :=
  match s.links.getLast? with
  | some last => last.shutdownRequested
  | none => false

/-- There are as many links, and the last one is as far and has been asked as much. -/
structure Alike (s s' : WebSocket) : Prop where
  length : s'.links.length = s.links.length
  course : s'.course = s.course
  asked : s'.asked = s.asked

theorem alike_send (frame : Bytes) (s : WebSocket) : Alike s (s.send frame).2 := by
  have touched := WebSocket.touched_send frame s
  refine ⟨touched.length_eq, touched.course_eq (fun _ => rfl), ?_⟩
  unfold WebSocket.asked
  rcases touched.getLast? with same | ⟨task, last, last'⟩
  · rw [same]
  · rw [last, last']

theorem alike_sendAll (frames : List Bytes) (s : WebSocket) :
    Alike s (Transport.sendAll frames s) := by
  induction frames generalizing s with
  | nil => exact ⟨rfl, rfl, rfl⟩
  | cons frame frames ih =>
    have first := alike_send frame s
    have rest := ih (s.send frame).2
    exact ⟨rest.length.trans first.length, rest.course.trans first.course,
      rest.asked.trans first.asked⟩

/-- The client has no session and shows no actors. -/
def Client.IsClean {τ ι : Type} (c : Client τ ι) : Prop := c.session.id = none ∧ c.actors = []

/-- The client has followed its last link for as long as `course`, and the events that wait lead on
from there to where the link is now. -/
structure Live {ι : Type} (course : Course) (c : Client WebSocket ι) (queue : List Event)
    (past : List Happening) : Prop where
  ahead : course.follow? queue = some c.transport.course
  unasked : c.transport.asked = false
  clean : course ≠ .up → c.IsClean
  held : ∀ id, c.session.id = some id → AssignedLast c.transport id past
  queued : ∀ frame, .frame frame ∈ queue →
    ∃ link, link + 1 = c.transport.links.length ∧ .task link (.receive (.binary frame)) ∈ past

namespace Live

variable {ι : Type} {course next : Course} {c c' : Client WebSocket ι} {queue queue' : List Event}
  {past : List Happening}

theorem more (h : Live course c queue past) (more : List Happening) :
    Live course c queue (past ++ more) := by
  refine ⟨h.ahead, h.unasked, h.clean, ?_, ?_⟩
  · intro id held
    obtain ⟨link, last, assigned⟩ := h.held id held
    exact ⟨link, last, assigned.more more⟩
  · intro frame waits
    obtain ⟨link, last, received⟩ := h.queued frame waits
    exact ⟨link, last, List.mem_append_left more received⟩

theorem same (h : Live course c queue past) (transport : c'.transport = c.transport)
    (session : c'.session = c.session) (actors : c'.actors = c.actors) :
    Live course c' queue past := by
  refine ⟨?_, ?_, ?_, ?_, ?_⟩
  · rw [transport]
    exact h.ahead
  · rw [transport]
    exact h.unasked
  · rw [Client.IsClean, session, actors]
    exact h.clean
  · rw [transport, session]
    exact h.held
  · rw [transport]
    exact h.queued

theorem connect (h : Live .ended c queue past) (accepted : c.transport.connect.1 = .accepted)
    (transport : c'.transport = c.transport.connect.2) (session : c'.session = c.session)
    (actors : c'.actors = c.actors) : Live .idle c' queue past := by
  obtain ⟨rfl, -⟩ := Course.eq_of_follow?_ended h.ahead
  rcases c.transport.connect_cases with ⟨-, links⟩ | ⟨refused, -⟩
  · have last : c'.transport.links.getLast? = some { url := c.transport.url } := by
      rw [transport, links, List.getLast?_concat]
    obtain ⟨unassigned, empty⟩ := h.clean Course.noConfusion
    refine ⟨?_, ?_, ?_, ?_, ?_⟩
    · rw [WebSocket.course, last]
      rfl
    · rw [WebSocket.asked, last]
    · intro _
      rw [Client.IsClean, session, actors]
      exact ⟨unassigned, empty⟩
    · intro id held
      rw [session, unassigned] at held
      cases held
    · intro frame waits
      cases waits
  · exact absurd accepted refused

theorem step (h : Live course c queue past) (kept : Kept c.transport past) {s : WebSocket}
    {link : Nat} {step : SocketTask.Step} {outputs : List SocketTask.Output}
    (stepped : c.transport.stepLink? link true step = some (s, outputs)) :
    Live course { c with transport := s } (queue ++ SocketTask.reports outputs)
      (past ++ [.task link step]) := by
  obtain ⟨task, task', found, moved, changed⟩ := WebSocket.links_of_stepLink? stepped
  have move := SocketTask.move_of_step moved
  have inside : link < c.transport.links.length := (List.getElem?_eq_some_iff.mp found).1
  have length : s.links.length = c.transport.links.length := by rw [changed, List.length_set]
  have queued : ∀ frame, .frame frame ∈ queue →
      ∃ link', link' + 1 = s.links.length ∧
        .task link' (.receive (.binary frame)) ∈ past ++ [.task link step] := by
    rw [length]
    exact (h.more _).queued
  have held : ∀ id, c.session.id = some id → AssignedLast s id (past ++ [.task link step]) := by
    unfold AssignedLast
    rw [length]
    exact (h.more _).held
  by_cases last : link + 1 = c.transport.links.length
  · have place : c.transport.links.length - 1 = link := by omega
    have now : c.transport.links.getLast? = some task := by
      rw [List.getLast?_eq_getElem?, place, found]
    have later : s.links.getLast? = some task' := by
      rw [changed, List.getLast?_eq_getElem?, List.length_set, place,
        List.getElem?_set_self inside]
    have ahead := h.ahead
    have unasked := h.unasked
    rw [WebSocket.course, now] at ahead
    rw [WebSocket.asked, now] at unasked
    refine ⟨?_, ?_, h.clean, held, ?_⟩
    · rw [Course.follow?_append, ahead, WebSocket.course, later]
      exact move.follow? unasked
    · rw [WebSocket.asked, later]
      exact move.asked_eq.trans unasked
    · intro frame waits
      rcases List.mem_append.mp waits with old | new
      · exact queued frame old
      · refine ⟨link, last.trans length.symm, ?_⟩
        rw [move.step_eq new]
        exact List.mem_append_right past List.mem_cons_self
  · -- A link that is over reports nothing, and it is not the one that the client follows.
    obtain ⟨-, silence⟩ := move.ended (kept.ended link task found (by omega))
    have same : s.links.getLast? = c.transport.links.getLast? := by
      rw [changed, List.getLast?_eq_getElem?, List.getLast?_eq_getElem?, List.length_set,
        List.getElem?_set_ne (by omega)]
    rw [silence, List.append_nil]
    refine ⟨?_, ?_, h.clean, held, queued⟩
    · rw [WebSocket.course, same]
      exact h.ahead
    · rw [WebSocket.asked, same]
      exact h.unasked

/-- A call that only hands frames over keeps the client on its link. -/
theorem carry (h : Live course c queue past) {effects : List Effect}
    (carried : Client.Carried c c' effects)
    (known : ∀ id, c'.session.id = some id → AssignedLast c.transport id past)
    (ahead : next.follow? queue' = some c.transport.course) (fewer : queue' ⊆ queue)
    (clean : next ≠ .up → c'.IsClean) : Live next c' queue' past := by
  have alike := alike_sendAll (Effect.frames effects) c.transport
  rw [← carried.transport] at alike
  refine ⟨?_, ?_, clean, ?_, ?_⟩
  · rw [alike.course]
    exact ahead
  · rw [alike.asked]
    exact h.unasked
  · intro id held
    obtain ⟨link, last, assigned⟩ := known id held
    exact ⟨link, last.trans alike.length.symm, assigned⟩
  · intro frame waits
    obtain ⟨link, last, received⟩ := h.queued frame (fewer waits)
    exact ⟨link, last.trans alike.length.symm, received⟩

/-- An ASSIGN that is accepted is the frame at the head of the queue. -/
theorem accepted {event : Event} (h : Live course c (event :: queue) past) (id : SessionId)
    (accepted : (Call.handle event : Call WebSocket ι).acceptedId? c.session = some id) :
    AssignedLast c.transport id past := by
  cases event with
  | connected => cases accepted
  | disconnected => cases accepted
  | frame bytes =>
    have assigned : assignedId? bytes = some id := by
      simp only [Call.acceptedId?] at accepted
      split at accepted
      · exact accepted
      · cases accepted
    obtain ⟨link, last, received⟩ := h.queued bytes List.mem_cons_self
    exact ⟨link, last, bytes, received, assigned⟩

variable [Sampler ι]

/-- Every id is from the last link, and so is the id in every frame. -/
theorem known (h : Live course c queue past) (call : Call WebSocket ι)
    (accepted : ∀ id, call.acceptedId? c.session = some id → AssignedLast c.transport id past) :
    (∀ id, (c.perform call).1.session.id = some id → AssignedLast c.transport id past) ∧
      ∀ frame ∈ Effect.frames (c.perform call).2, VouchedLast c.transport frame past := by
  have move := (c.step_perform call).session
  have from_mark : ∀ id, id ∈ Mark.ids (c.marks call) → AssignedLast c.transport id past := by
    intro id marked
    rw [Client.ids_marks, Option.mem_toList] at marked
    exact accepted id marked
  constructor
  · intro id held
    rcases move.known held with before | now
    · exact h.held id before
    · exact from_mark id now
  · intro frame handed
    rw [← Client.frames_marks] at handed
    obtain ⟨id, carried, source⟩ := move.carried handed
    have assigned : AssignedLast c.transport id past := by
      rcases source with before | now
      · exact h.held id before
      · exact from_mark id now
    obtain ⟨link, last, assigned⟩ := assigned
    exact ⟨link, last, id, carried, assigned⟩

theorem tick (h : Live course c queue past) : Live course c.tick.1 queue past := by
  have known := (h.known .tick (fun id none => nomatch none)).1
  refine h.carry c.tick_carried known h.ahead (List.Subset.refl _) ?_
  -- Off the link there is no id, so the tick does nothing.
  intro quiet
  obtain ⟨unassigned, empty⟩ := h.clean quiet
  have idle : c.session.readyId = none := by
    unfold Session.readyId
    split
    · exact unassigned
    · rfl
  rw [Client.tick_of_not_ready idle]
  exact ⟨unassigned, empty⟩

theorem handle {event : Event} (h : Live course c (event :: queue) past) :
    ∃ next, course.next? event = some next ∧ Live next (c.handle event).1 queue past := by
  obtain ⟨next, reached, ahead⟩ := Course.follow?_cons h.ahead
  refine ⟨next, reached, ?_⟩
  have known := (h.known (.handle event) h.accepted).1
  refine h.carry (c.handle_carried event) known ahead (List.subset_cons_self _ _) ?_
  intro quiet
  cases event with
  | connected => exact absurd (Course.eq_up_of_next?_connected reached) quiet
  | disconnected => exact ⟨rfl, rfl⟩
  | frame bytes => exact absurd (Course.eq_up_of_next?_frame reached) quiet

end Live

end GameClient
