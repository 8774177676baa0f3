import GameClient.Proofs.LinkLife
import Mathlib.Logic.Function.Basic

/-! # Traffic on the links of a transport

A transport in use: its owner calls it, its tasks make their steps, servers send messages, and all
this in any order. A task that waits looks for a shutdown, then for frames and then for messages,
and takes what it finds first: this is one step. Should the owner let go of the link in the middle
of it, then the same shows as if it did so right after the step.

The record of each link is taken from the history of the whole transport, and it is the record of
a life of that link. -/

namespace GameClient

open SocketTask (Record Life)

/-- A transport in use, and what the servers have sent on its links. -/
structure Traffic where
  socket : WebSocket
  /-- The receiving end of the event channel is still there. -/
  heard : Bool := true
  /-- What the server has sent on each link and the task has not read, oldest first. -/
  arriving : Nat → List Inbound := fun _ => []

namespace Traffic

/-- What happens: the calls of the owner with their answers, the messages of the servers, the steps
of the tasks with what shows of them, and the end of the receiver. A transport that is dropped is
disconnected, and no call follows. -/
inductive Deed where
  | connect (answer : Answer)
  /-- The frame is for the newest link. -/
  | send (link : Nat) (frame : Bytes) (answer : Answer)
  | disconnect
  | serve (link : Nat) (message : Inbound)
  | task (link : Nat) (step : SocketTask.Step) (outputs : List SocketTask.Output)
  | deafen
deriving DecidableEq

inductive Step : Traffic → Deed → Traffic → Prop
  | connect (s : Traffic) :
      Step s (.connect s.socket.connect.1) { s with socket := s.socket.connect.2 }
  | send (s : Traffic) (frame : Bytes) :
      Step s (.send s.socket.former.length frame (s.socket.send frame).1)
        { s with socket := (s.socket.send frame).2 }
  | disconnect (s : Traffic) : Step s .disconnect { s with socket := s.socket.disconnect }
  | serve (s : Traffic) (link : Nat) (message : Inbound) :
      Step s (.serve link message)
        { s with arriving := Function.update s.arriving link (s.arriving link ++ [message]) }
  | read {s : Traffic} {link : Nat} {message : Inbound} {rest : List Inbound}
      {socket : WebSocket} {outputs : List SocketTask.Output} :
      s.arriving link = message :: rest →
      s.socket.stepLink? link s.heard (.receive message) = some (socket, outputs) →
      Step s (.task link (.receive message) outputs)
        { s with socket, arriving := Function.update s.arriving link rest }
  | task {s : Traffic} {link : Nat} {step : SocketTask.Step} {socket : WebSocket}
      {outputs : List SocketTask.Output} : step.message? = none →
      s.socket.stepLink? link s.heard step = some (socket, outputs) →
      Step s (.task link step outputs) { s with socket }
  | deafen (s : Traffic) : Step s .deafen { s with heard := false }

/-- The runs, with all that happens in them. -/
inductive Run : Traffic → List Deed → Traffic → Prop
  | nil (s : Traffic) : Run s [] s
  | cons {s m s' : Traffic} {deed : Deed} {more : List Deed} :
      Step s deed m → Run m more s' → Run s (deed :: more) s'

theorem Run.append {s m s' : Traffic} {past more : List Deed} (h : Run s past m)
    (h' : Run m more s') : Run s (past ++ more) s' := by
  induction h with
  | nil s => exact h'
  | cons step _ ih => exact .cons step (ih h')

/-- Before the first call nothing is opened. -/
def start (url : String) (hasRuntime : Bool) : Traffic := { socket := { url, hasRuntime } }

/-! ## Records -/

namespace Deed

def accepted? (link : Nat) : Deed → Option Bytes
  | send newest frame .accepted => if newest = link then some frame else none
  | _ => none

def step? (link : Nat) : Deed → Option SocketTask.Step
  | task other step _ => if other = link then some step else none
  | _ => none

def outputs (link : Nat) : Deed → List SocketTask.Output
  | task other _ outputs => if other = link then outputs else []
  | _ => []

def served? (link : Nat) : Deed → Option Inbound
  | serve other message => if other = link then some message else none
  | _ => none

/-- The deed leaves no trace in the record of the link. -/
structure Passes (link : Nat) (deed : Deed) : Prop where
  accepted : deed.accepted? link = none
  step : deed.step? link = none
  outputs : deed.outputs link = []

end Deed

/-- What happened to a link. -/
def record (link : Nat) (past : List Deed) : Record where
  accepted := past.filterMap (Deed.accepted? link)
  steps := past.filterMap (Deed.step? link)
  outputs := past.flatMap (Deed.outputs link)

/-- The messages that the server has sent on a link. -/
def served (link : Nat) (past : List Deed) : List Inbound := past.filterMap (Deed.served? link)

section

variable {link : Nat} {past : List Deed}

theorem record_append (link : Nat) (past more : List Deed) :
    record link (past ++ more) =
      ⟨(record link past).accepted ++ (record link more).accepted,
        (record link past).steps ++ (record link more).steps,
        (record link past).outputs ++ (record link more).outputs⟩ := by
  simp [record]

theorem reports_cons (link : Nat) (deed : Deed) (more : List Deed) :
    (record link (deed :: more)).reports =
      SocketTask.reports (deed.outputs link) ++ (record link more).reports :=
  SocketTask.reports_append (deed.outputs link) (more.flatMap (Deed.outputs link))

theorem record_of_passes {deed : Deed} (h : deed.Passes link) :
    record link (past ++ [deed]) = record link past := by
  simp [record, h.accepted, h.step, h.outputs]

theorem record_send (link : Nat) (past : List Deed) (frame : Bytes) :
    record link (past ++ [.send link frame .accepted]) = (record link past).leave frame := by
  simp [record, Record.leave, Deed.accepted?, Deed.step?, Deed.outputs]

theorem record_task (link : Nat) (past : List Deed) (step : SocketTask.Step)
    (outputs : List SocketTask.Output) :
    record link (past ++ [.task link step outputs]) =
      (record link past).extend step outputs := by
  simp [record, Record.extend, Deed.accepted?, Deed.step?, Deed.outputs]

theorem passes_send {other : Nat} (h : other ≠ link) (frame : Bytes) (answer : Answer) :
    (Deed.send other frame answer).Passes link := by
  refine ⟨?_, rfl, rfl⟩
  cases answer with
  | accepted => exact if_neg h
  | refused error => rfl

theorem passes_task {other : Nat} (h : other ≠ link) (step : SocketTask.Step)
    (outputs : List SocketTask.Output) : (Deed.task other step outputs).Passes link :=
  ⟨rfl, if_neg h, if_neg h⟩

end

/-! ## Lives -/

/-- The record of each link is that of a life, and that of a link not opened yet is empty. -/
structure Lived (s : Traffic) (past : List Deed) : Prop where
  life : ∀ link task, s.socket.links[link]? = some task → Life s.heard (record link past) task
  blank : ∀ link, s.socket.links.length ≤ link → record link past = {}

namespace Lived

variable {s s' : Traffic} {past past' : List Deed}

theorem same (h : Lived s past) (links : s'.socket.links = s.socket.links)
    (heard : s'.heard = s.heard) (records : ∀ link, record link past' = record link past) :
    Lived s' past' := by
  constructor
  · intro link task found
    rw [records, heard]
    exact h.life link task (links ▸ found)
  · intro link beyond
    rw [records]
    exact h.blank link (links ▸ beyond)

theorem set (h : Lived s past) {link : Nat} {task task' : SocketTask}
    (found : s.socket.links[link]? = some task)
    (changed : s'.socket.links = s.socket.links.set link task') (heard : s'.heard = s.heard)
    (life : Life s.heard (record link past') task')
    (others : ∀ other, other ≠ link → record other past' = record other past) :
    Lived s' past' := by
  have inside : link < s.socket.links.length := (List.getElem?_eq_some_iff.mp found).1
  constructor
  · intro other t found'
    rw [changed] at found'
    rw [heard]
    by_cases same : link = other
    · subst same
      rw [List.getElem?_set_self inside] at found'
      cases found'
      exact life
    · rw [List.getElem?_set_ne same] at found'
      rw [others other (Ne.symm same)]
      exact h.life other t found'
  · intro other beyond
    rw [changed, List.length_set] at beyond
    rw [others other (by omega)]
    exact h.blank other beyond

theorem disconnect (h : Lived s past) (records : ∀ link, record link past' = record link past) :
    Lived { s with socket := s.socket.disconnect } past' := by
  cases WebSocket.touched_disconnect s.socket with
  | not same => exact h.same same rfl records
  | last link task _ found changed =>
    refine h.set found changed rfl ?_ fun other _ => records other
    rw [records]
    exact .asked (h.life link task found)

theorem opened (h : Lived s past) {url : String}
    (links : s'.socket.links = s.socket.links ++ [{ url := url }]) (heard : s'.heard = s.heard)
    (records : ∀ link, record link past' = record link past) : Lived s' past' := by
  constructor
  · intro link task found
    rw [links] at found
    rw [records, heard]
    -- The new link is the last one, and nothing was recorded of it so far.
    by_cases former : link < s.socket.links.length
    · rw [List.getElem?_append_left former] at found
      exact h.life link task found
    · rw [h.blank link (by omega)]
      rw [List.getElem?_append_right (by omega), List.getElem?_singleton] at found
      split at found
      · cases found
        exact .opened url s.heard
      · cases found
  · intro link beyond
    rw [links, List.length_append] at beyond
    rw [records]
    exact h.blank link (by omega)

theorem connect (h : Lived s past) (records : ∀ link, record link past' = record link past) :
    Lived { s with socket := s.socket.connect.2 } past' := by
  rcases s.socket.connect_cases with ⟨-, links⟩ | ⟨-, same⟩
  · exact (h.disconnect fun _ => rfl).opened links rfl records
  · rw [same]
    exact h.same rfl rfl records

theorem send (h : Lived s past) (frame : Bytes) :
    Lived { s with socket := (s.socket.send frame).2 }
      (past ++ [.send s.socket.former.length frame (s.socket.send frame).1]) := by
  have refused (error : TransportError)
      (unsent : s.socket.send frame = (.refused error, s.socket)) :
      Lived { s with socket := (s.socket.send frame).2 }
        (past ++ [.send s.socket.former.length frame (s.socket.send frame).1]) := by
    rw [unsent]
    exact h.same rfl rfl fun link => record_of_passes ⟨rfl, rfl, rfl⟩
  cases current : s.socket.current with
  | none => exact refused .notConnected (by rw [WebSocket.send, current])
  | some task =>
    by_cases finished : task.phase = .finished
    · refine refused .closed ?_
      simp only [WebSocket.send, current, if_pos finished]
    · have sent : s.socket.send frame = (.accepted,
          { s.socket with current := some { task with outbox := task.outbox ++ [frame] } }) := by
        simp only [WebSocket.send, current, if_neg finished]
      have links := WebSocket.links_of_current current
      have found : s.socket.links[s.socket.former.length]? = some task := by
        rw [links, List.getElem?_append_right (Nat.le_refl _), Nat.sub_self]
        rfl
      have changed : (s.socket.send frame).2.links =
          s.socket.links.set s.socket.former.length
            { task with outbox := task.outbox ++ [frame] } := by
        rw [sent, links, List.set_append_right _ _ (Nat.le_refl _), Nat.sub_self]
        rfl
      refine h.set found changed rfl ?_ ?_
      · rw [sent, record_send]
        exact .left frame (h.life _ task found) finished
      · intro other different
        exact record_of_passes (passes_send (Ne.symm different) frame _)

theorem task (h : Lived s past) {link : Nat} {step : SocketTask.Step} {socket : WebSocket}
    {outputs : List SocketTask.Output} (arriving : Nat → List Inbound)
    (stepped : s.socket.stepLink? link s.heard step = some (socket, outputs)) :
    Lived { s with socket, arriving } (past ++ [.task link step outputs]) := by
  obtain ⟨t, t', found, moved, changed⟩ := WebSocket.links_of_stepLink? stepped
  refine h.set found changed rfl ?_ ?_
  · rw [record_task]
    exact .stepped (h.life link t found) moved
  · intro other different
    exact record_of_passes (passes_task (Ne.symm different) step outputs)

theorem step (h : Lived s past) {deed : Deed} (step : Step s deed s') :
    Lived s' (past ++ [deed]) := by
  cases step with
  | connect => exact h.connect fun _ => record_of_passes ⟨rfl, rfl, rfl⟩
  | send frame => exact h.send frame
  | disconnect => exact h.disconnect fun _ => record_of_passes ⟨rfl, rfl, rfl⟩
  | serve link message => exact h.same rfl rfl fun _ => record_of_passes ⟨rfl, rfl, rfl⟩
  | read _ stepped => exact h.task _ stepped
  | task _ stepped => exact h.task _ stepped
  | deafen =>
    constructor
    · intro link task found
      rw [record_of_passes ⟨rfl, rfl, rfl⟩]
      exact .deafened (h.life link task found)
    · intro link beyond
      rw [record_of_passes ⟨rfl, rfl, rfl⟩]
      exact h.blank link beyond

theorem run (h : Lived s past) {more : List Deed} (run : Run s more s') :
    Lived s' (past ++ more) := by
  induction run generalizing past with
  | nil s =>
    rw [List.append_nil]
    exact h
  | cons step _ ih =>
    have later := ih (h.step step)
    rw [List.append_assoc] at later
    exact later

end Lived

theorem lived_start (url : String) (hasRuntime : Bool) : Lived (start url hasRuntime) [] := by
  constructor
  · intro link task found
    cases found
  · intro link _
    rfl

/-- Every link of a run has lived through its record. -/
theorem Run.life {url : String} {hasRuntime : Bool} {past : List Deed} {s : Traffic}
    (run : Run (start url hasRuntime) past s) {link : Nat} {task : SocketTask}
    (found : s.socket.links[link]? = some task) : Life s.heard (record link past) task :=
  ((lived_start url hasRuntime).run run).life link task found

/-! ## Former links -/

/-- What happens to a former link: it makes a step, or it is passed by. -/
inductive Aftermath (s s' : Traffic) (deed : Deed) (link : Nat) (task : SocketTask) : Prop
  | apart : deed.Passes link → s'.socket.former[link]? = some task →
      s'.heard = s.heard ∨ s'.heard = false → Aftermath s s' deed link task
  | stepped {step : SocketTask.Step} {outputs : List SocketTask.Output} {task' : SocketTask} :
      deed = .task link step outputs → task.step? s.heard step = some (task', outputs) →
      s'.socket.former[link]? = some task' → s'.heard = s.heard → Aftermath s s' deed link task

theorem Step.aftermath {s s' : Traffic} {deed : Deed} (h : Step s deed s') {link : Nat}
    {task : SocketTask} (found : s.socket.former[link]? = some task) :
    Aftermath s s' deed link task := by
  have inside : link < s.socket.former.length := (List.getElem?_eq_some_iff.mp found).1
  have kept {socket : WebSocket} (longer : s.socket.former <+: socket.former) :
      socket.former[link]? = some task := by
    obtain ⟨_, longer⟩ := longer
    rw [← longer, List.getElem?_append_left inside, found]
  have moved {stepping : Nat} {step : SocketTask.Step} {socket : WebSocket}
      {outputs : List SocketTask.Output} (arriving : Nat → List Inbound)
      (stepped : s.socket.stepLink? stepping s.heard step = some (socket, outputs)) :
      Aftermath s { s with socket, arriving } (.task stepping step outputs) link task := by
    rcases WebSocket.former_of_stepLink? stepped found with ⟨other, kept⟩ | ⟨_, rfl, own, found'⟩
    · exact .apart (passes_task other step outputs) kept (.inl rfl)
    · exact .stepped rfl own found' rfl
  cases h with
  | connect => exact .apart ⟨rfl, rfl, rfl⟩ (kept s.socket.former_connect) (.inl rfl)
  | send frame =>
    refine .apart (passes_send (Nat.ne_of_gt inside) frame _) ?_ (.inl rfl)
    exact kept (WebSocket.former_send frame s.socket ▸ List.prefix_rfl)
  | disconnect => exact .apart ⟨rfl, rfl, rfl⟩ (kept s.socket.former_disconnect) (.inl rfl)
  | serve => exact .apart ⟨rfl, rfl, rfl⟩ found (.inl rfl)
  | read _ stepped => exact moved _ stepped
  | task _ stepped => exact moved _ stepped
  | deafen => exact .apart ⟨rfl, rfl, rfl⟩ found (.inr rfl)

/-! ## Messages -/

theorem readings_append (link : Nat) (past more : List Deed) :
    (record link (past ++ more)).readings =
      (record link past).readings ++ (record link more).readings := by
  rw [record_append]
  exact List.filterMap_append

theorem served_append (link : Nat) (past more : List Deed) :
    served link (past ++ more) = served link past ++ served link more :=
  List.filterMap_append

theorem readings_singleton (link : Nat) (deed : Deed) :
    (record link [deed]).readings =
      ((deed.step? link).bind SocketTask.Step.message?).toList := by
  cases step : deed.step? link with
  | none => simp [record, Record.readings, step]
  | some made => cases read : made.message? <;> simp [record, Record.readings, step, read]

theorem served_singleton (link : Nat) (deed : Deed) :
    served link [deed] = (deed.served? link).toList := by
  cases message : deed.served? link <;> simp [served, message]

theorem Step.readings {s s' : Traffic} {deed : Deed} (h : Step s deed s') (link : Nat) :
    (record link [deed]).readings ++ s'.arriving link = s.arriving link ++ served link [deed] := by
  rw [readings_singleton, served_singleton]
  cases h with
  | connect => exact (List.append_nil _).symm
  | send frame => exact (List.append_nil _).symm
  | disconnect => exact (List.append_nil _).symm
  | deafen => exact (List.append_nil _).symm
  | serve other message =>
    by_cases same : other = link
    · simp [Deed.step?, Deed.served?, same]
    · simp [Deed.step?, Deed.served?, same, Function.update_of_ne (Ne.symm same)]
  | @read other message rest _ _ first =>
    by_cases same : other = link
    · subst same
      simp [Deed.step?, Deed.served?, SocketTask.Step.message?, first]
    · simp [Deed.step?, Deed.served?, same, Function.update_of_ne (Ne.symm same)]
  | @task other step _ _ unread =>
    by_cases same : other = link
    · simp [Deed.step?, Deed.served?, same, unread]
    · simp [Deed.step?, Deed.served?, same]

/-- What a task has read and what it has not read yet is what the server has sent, in order. -/
theorem Run.readings {s s' : Traffic} {past : List Deed} (run : Run s past s') (link : Nat) :
    (record link past).readings ++ s'.arriving link = s.arriving link ++ served link past := by
  induction run with
  | nil s => simp [record, served, Record.readings]
  | @cons s m s' deed more step _ ih =>
    calc (record link (deed :: more)).readings ++ s'.arriving link
        = (record link [deed]).readings ++
            ((record link more).readings ++ s'.arriving link) := by
          rw [← List.singleton_append, readings_append, List.append_assoc]
      _ = (s.arriving link ++ served link [deed]) ++ served link more := by
          rw [ih, ← List.append_assoc, step.readings]
      _ = s.arriving link ++ served link (deed :: more) := by
          rw [List.append_assoc, ← served_append, List.singleton_append]

theorem Run.readings_prefix {url : String} {hasRuntime : Bool} {past : List Deed} {s : Traffic}
    (run : Run (start url hasRuntime) past s) (link : Nat) :
    (record link past).readings <+: served link past :=
  ⟨s.arriving link, run.readings link⟩

end Traffic

end GameClient
