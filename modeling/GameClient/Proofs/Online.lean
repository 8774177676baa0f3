import GameClient.Loop
import GameClient.Proofs.Links
import GameClient.Proofs.Trail

/-! # A loop over WebSocket links

The loop and the tasks of its links take their steps in any order. Everything that is reported
comes from the tasks. Which turn the loop takes is left more open here than it is: a turn is
possible as soon as there is something to do, whatever the clock says and whatever else there is
to do. So what holds of all runs here holds of the loop with its clock and its order as well. -/

namespace GameClient

/-- What happens in a run: the loop does something outside itself, or the task of a link makes a
step. What the server does is in the steps of the tasks. -/
inductive Happening where
  | did (effect : Effect)
  | task (link : Nat) (step : SocketTask.Step)
deriving DecidableEq

namespace Happening

def effect? : Happening → Option Effect
  | did effect => some effect
  | task _ _ => none

def doings (past : List Happening) : List Effect := past.filterMap effect?

def opened (past : List Happening) : Nat := (Effect.connects (doings past)).count .accepted

/-- The server has assigned the id on the link. -/
def Assigned (link : Nat) (id : SessionId) (past : List Happening) : Prop :=
  ∃ assign, task link (.receive (.binary assign)) ∈ past ∧ assignedId? assign = some id

/-- The frame carries an id that the server has assigned on the link. -/
def Vouched (link : Nat) (frame : Bytes) (past : List Happening) : Prop :=
  ∃ id : SessionId, idField frame = id.bytes ∧ Assigned link id past

theorem doings_did (effects : List Effect) : doings (effects.map did) = effects := by
  simp [doings, List.filterMap_map, Function.comp_def, effect?]

theorem opened_append (past more : List Happening) :
    opened (past ++ more) = opened past + opened more := by
  rw [opened, doings, List.filterMap_append, Effect.connects_append, List.count_append]
  rfl

theorem opened_did (effects : List Effect) :
    opened (effects.map did) = (Effect.connects effects).count .accepted := by
  rw [opened, doings_did]

theorem opened_of_connects {effects : List Effect} (h : Effect.connects effects = []) :
    opened (effects.map did) = 0 := by
  rw [opened_did, h]
  rfl

theorem Assigned.more {link : Nat} {id : SessionId} {past : List Happening}
    (h : Assigned link id past) (more : List Happening) : Assigned link id (past ++ more) := by
  obtain ⟨assign, received, assigned⟩ := h
  exact ⟨assign, List.mem_append_left more received, assigned⟩

theorem Vouched.more {link : Nat} {frame : Bytes} {past : List Happening}
    (h : Vouched link frame past) (more : List Happening) : Vouched link frame (past ++ more) := by
  obtain ⟨id, carried, assigned⟩ := h
  exact ⟨id, carried, assigned.more more⟩

end Happening

open Happening

/-! ## Turns of the loop -/

namespace Loop

variable {τ ι : Type}

theorem isAlive_of_running {l : Loop τ ι} (h : l.status = .running) : l.isAlive = true := by
  rw [isAlive, h]
  rfl

theorem isAlive_of_fresh {l : Loop τ ι} (h : l.status = .fresh) : l.isAlive = true := by
  rw [isAlive, h]
  rfl

/-- There is something to do for this turn. -/
def MayTake (l : Loop τ ι) : Turn → Prop
  | .begin => l.status = .fresh
  | .stop => l.status = .running ∧ l.stopRequested = true
  | .tick => l.status = .running
  | .event event => l.status = .running ∧ l.queue.head? = some event
  | .channelClosed => l.status = .running ∧ l.hasSenders = false
  | .reconnect => l.status = .running ∧ l.reconnectAt.isSome = true

theorem mayTake_of_channelTurn? {l : Loop τ ι} {turn : Turn} (running : l.status = .running)
    (h : l.channelTurn? = some turn) : l.MayTake turn := by
  unfold channelTurn? at h
  split at h
  · cases h
  · split at h
    · next event _ first =>
      cases h
      exact ⟨running, by rw [first, List.head?_cons]⟩
    · split at h
      · cases h
      · next closed =>
        cases h
        exact ⟨running, by simpa using closed⟩

theorem mayTake_of_reconnectTurn? {l : Loop τ ι} {turn : Turn} (running : l.status = .running)
    (h : l.reconnectTurn? = some turn) : l.MayTake turn := by
  unfold reconnectTurn? at h
  split at h
  · next instant armed =>
    split at h
    · cases h
      exact ⟨running, by rw [armed, Option.isSome_some]⟩
    · cases h
  · cases h

theorem mayTake_of_turn? {l : Loop τ ι} {turn : Turn} (h : l.turn? = some turn) :
    l.MayTake turn := by
  unfold turn? at h
  split at h
  · cases h
  · cases h
  · next fresh =>
    cases h
    exact fresh
  · next running =>
    split at h
    · next asked =>
      cases h
      exact ⟨running, asked⟩
    · split at h
      · cases h
        exact running
      · rcases Option.or_eq_some_iff.mp h with channel | ⟨-, timer⟩
        · exact mayTake_of_channelTurn? running channel
        · exact mayTake_of_reconnectTurn? running timer

structure Scheduled (l l' : Loop τ ι) (effects : List Effect) : Prop where
  client : l'.client = l.client
  queue : l'.queue = l.queue
  status : l'.isAlive = true → l'.status = l.status
  notices : ∃ notices : List Notice, effects = notices.map .note

theorem scheduled (draw : Binary64) (l : Loop τ ι) :
    Scheduled l (l.schedule draw).1 (l.schedule draw).2 := by
  unfold schedule
  split
  · exact ⟨rfl, rfl, fun _ => rfl, [], rfl⟩
  · next backoff _ =>
    split
    · exact ⟨rfl, rfl, fun _ => rfl, [.attemptsExhausted backoff.attempts], rfl⟩
    · refine ⟨rfl, rfl, ?_, [], rfl⟩
      exact fun alive => nomatch alive
    · next delay later _ =>
      dsimp only
      split
      · refine ⟨rfl, rfl, ?_, [.reconnectScheduled later.attempts delay], rfl⟩
        exact fun alive => nomatch alive
      · exact ⟨rfl, rfl, fun _ => rfl, [.reconnectScheduled later.attempts delay], rfl⟩

/-- What the loop does for itself about an event, before its client handles it. -/
def heed (draw : Binary64) (l : Loop τ ι) : Event → Loop τ ι × List Effect
  | .connected => ({ l with backoff := l.backoff.map .reset, reconnectAt := none }, [])
  | .disconnected => l.schedule draw
  | .frame _ => (l, [])

/-- Only a lost link arms the timer. -/
structure Heeded (l l' : Loop τ ι) (event : Event) (effects : List Effect) : Prop
    extends Scheduled l l' effects where
  connected : event = .connected → l'.reconnectAt = none
  frame : ∀ bytes, event = .frame bytes → l'.reconnectAt = l.reconnectAt

/-- After an event the timer is armed only if the link is over. -/
theorem Heeded.ended {l m : Loop τ ι} {event : Event} {effects : List Effect}
    (h : Heeded l m event effects) {course next : Course}
    (due : l.reconnectAt.isSome = true → course = .ended) (reached : course.next? event = some next)
    (armed : m.reconnectAt.isSome = true) : next = .ended := by
  cases event with
  | connected =>
    rw [h.connected rfl] at armed
    cases armed
  | disconnected => exact Course.eq_ended_of_next? reached
  | frame bytes =>
    rw [h.frame bytes rfl] at armed
    rw [due armed] at reached
    cases reached

theorem heeded (draw : Binary64) (l : Loop τ ι) (event : Event) :
    Heeded l (l.heed draw event).1 event (l.heed draw event).2 := by
  cases event with
  | connected =>
    refine ⟨⟨rfl, rfl, fun _ => rfl, [], rfl⟩, fun _ => rfl, ?_⟩
    intro bytes other
    cases other
  | disconnected =>
    refine ⟨l.scheduled draw, ?_, ?_⟩
    · intro other
      cases other
    · intro bytes other
      cases other
  | frame bytes =>
    refine ⟨⟨rfl, rfl, fun _ => rfl, [], rfl⟩, ?_, fun _ _ => rfl⟩
    intro other
    cases other

theorem handle_eq [Transport τ] (draw : Binary64) (l : Loop τ ι) (event : Event) :
    l.handle draw event =
      let (m, effects) := { l with queue := l.queue.tail }.heed draw event
      if m.status ≠ .running then (m, effects)
      else
        let state := (m.client.handle event).1.session.connection
        ({ m with client := (m.client.handle event).1, published := state },
          effects ++ (m.client.handle event).2 ++ [.publish state]) := by
  cases event <;> rfl

theorem connects_handle [Transport τ] (draw : Binary64) (l : Loop τ ι) (event : Event) :
    Effect.connects (l.handle draw event).2 = [] := by
  have heeded := heeded draw { l with queue := l.queue.tail } event
  obtain ⟨notices, noted⟩ := heeded.notices
  rw [handle_eq]
  dsimp only
  rw [noted]
  split
  · exact Effect.connects_notes notices
  · rw [Effect.connects_append, Effect.connects_append, Effect.connects_notes,
      (Client.handle_carried _ event).connects]
    rfl

theorem connects_stop [Transport τ] [Sampler ι] (l : Loop τ ι) :
    Effect.connects l.stop.2 = [] := by
  have effects : l.stop.2 =
      l.client.teardown.2 ++ [.publish l.client.teardown.1.session.connection] := rfl
  rw [effects, Effect.connects_append, Client.connects_teardown]
  rfl

end Loop

/-! ## Runs -/

/-- A loop whose client uses WebSocket links. -/
abbrev Online (ι : Type) := Loop WebSocket ι

namespace Online

variable {ι : Type} [Sampler ι]

/-- Before the first step nothing is opened. -/
def start (config : LoopConfig) (url : String) (hasRuntime : Bool) (input : ι) : Online ι :=
  .new config (.new { url, hasRuntime } input)

/-- One step of the loop, of the task of a link, or of the world around them. -/
inductive Step : Online ι → List Happening → Online ι → Prop
  | turn {l : Online ι} {turn : Loop.Turn} (draw : Binary64) : l.MayTake turn →
      Step l ((l.perform draw turn).2.map .did) (l.perform draw turn).1
  /-- The task is heard as long as the loop is alive. -/
  | task {l : Online ι} {link : Nat} {step : SocketTask.Step} {socket : WebSocket}
      {outputs : List SocketTask.Output} :
      l.client.transport.stepLink? link l.isAlive step = some (socket, outputs) →
      Step l [.task link step] (l.disturb fun _ => (SocketTask.reports outputs, socket))
  | wait (l : Online ι) (nanos : Nat) : Step l [] { l with now := l.now + nanos }
  | stop (l : Online ι) : Step l [] l.requestStop

inductive Run (first : Online ι) : List Happening → Online ι → Prop
  | nil : Run first [] first
  | snoc {past more : List Happening} {l l' : Online ι} :
      Run first past l → Step l more l' → Run first (past ++ more) l'

/-! ## Schedules -/

/-- What happens next. -/
inductive Choice where
  | turn (turn : Loop.Turn) (draw : Binary64)
  | task (link : Nat) (step : SocketTask.Step)
  | wait (nanos : Nat)
  | stop

omit [Sampler ι] in
instance decidableMayTake (l : Online ι) : (turn : Loop.Turn) → Decidable (l.MayTake turn)
  | .begin => inferInstanceAs (Decidable (l.status = .fresh))
  | .stop => inferInstanceAs (Decidable (l.status = .running ∧ l.stopRequested = true))
  | .tick => inferInstanceAs (Decidable (l.status = .running))
  | .event event =>
    inferInstanceAs (Decidable (l.status = .running ∧ l.queue.head? = some event))
  | .channelClosed => inferInstanceAs (Decidable (l.status = .running ∧ l.hasSenders = false))
  | .reconnect =>
    inferInstanceAs (Decidable (l.status = .running ∧ l.reconnectAt.isSome = true))

/-- The step that is chosen, if it is possible. -/
def make? (l : Online ι) : Choice → Option (List Happening × Online ι)
  | .turn turn draw =>
    if l.MayTake turn then some ((l.perform draw turn).2.map .did, (l.perform draw turn).1)
    else none
  | .task link step =>
    match l.client.transport.stepLink? link l.isAlive step with
    | some (socket, outputs) =>
      some ([.task link step], l.disturb fun _ => (SocketTask.reports outputs, socket))
    | none => none
  | .wait nanos => some ([], { l with now := l.now + nanos })
  | .stop => some ([], l.requestStop)

/-- The run by a schedule, if all its steps are possible. -/
def play? : List Happening × Online ι → List Choice → Option (List Happening × Online ι)
  | state, [] => some state
  | (past, l), choice :: choices =>
    match l.make? choice with
    | some (more, l') => play? (past ++ more, l') choices
    | none => none

theorem step_of_make? {l l' : Online ι} {choice : Choice} {more : List Happening}
    (h : l.make? choice = some (more, l')) : Step l more l' := by
  cases choice with
  | turn turn draw =>
    simp only [make?] at h
    split at h
    · next may =>
      cases h
      exact .turn draw may
    · cases h
  | task link step =>
    simp only [make?] at h
    split at h
    · next stepped =>
      cases h
      exact .task stepped
    · cases h
  | wait nanos =>
    cases h
    exact .wait l nanos
  | stop =>
    cases h
    exact .stop l

theorem Run.play {first l l' : Online ι} {past past' : List Happening} {choices : List Choice}
    (run : Run first past l) (h : play? (past, l) choices = some (past', l')) :
    Run first past' l' := by
  induction choices generalizing past l with
  | nil =>
    cases h
    exact run
  | cons choice choices ih =>
    simp only [play?] at h
    split at h
    · next made => exact ih (run.snoc (step_of_make? made)) h
    · cases h

end Online

end GameClient
