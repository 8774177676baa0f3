import GameClient.Proofs.Grammar
import GameClient.Proofs.News

/-! # The end of a loop

A loop that is asked to stop does so in its next turn, or after its first one. The turn tears the
client down, and nothing comes after it. What a client does only in a teardown is its farewell: it
leaves the session that is ready, if there is one, and gives up the link and the input. A run that
ends with a stop has the farewell of its client once, at its end. -/

namespace GameClient

/-- The frame tells the server that the client leaves. -/
def saysLeave (frame : Bytes) : Bool :=
  match read? frame with
  | some (.leave _ _) => true
  | _ => false

@[simp] theorem saysLeave_join (id : SessionId) (seq : UInt32) :
    saysLeave (Control.encode ⟨.join, id, seq⟩) = false := by
  rw [saysLeave, read?_join]

@[simp] theorem saysLeave_leave (id : SessionId) (seq : UInt32) :
    saysLeave (Control.encode ⟨.leave, id, seq⟩) = true := by
  rw [saysLeave, read?_leave]

@[simp] theorem saysLeave_input (input : Input) : saysLeave input.encode = false := by
  rw [saysLeave, read?_input]

/-- What only a teardown does outside. -/
inductive Farewell where
  | leave (frame : Bytes)
  | disconnect
  | release
deriving DecidableEq

namespace Effect

def farewell? : Effect → Option Farewell
  | send frame _ => if saysLeave frame then some (.leave frame) else none
  | disconnect => some .disconnect
  | release => some .release
  | _ => none

def farewells (effects : List Effect) : List Farewell := effects.filterMap farewell?

@[simp] theorem farewells_append (a b : List Effect) :
    farewells (a ++ b) = farewells a ++ farewells b :=
  List.filterMap_append

theorem isOutward_of_farewell? (effect : Effect) (inward : effect.isOutward = false) :
    effect.farewell? = none := by
  cases effect with
  | note => rfl
  | publish => rfl
  | _ => cases inward

end Effect

open Effect

namespace Call

variable {τ ι : Type}

/-- Whether the client is torn down, once the call is made. -/
def latch (closed : Bool) : Call τ ι → Bool
  | start => false
  | teardown => true
  | _ => closed

end Call

namespace Client

variable {τ ι : Type} {c : Client τ ι}

/-! ## Farewells -/

/-- The LEAVE of a client, if its session is ready. -/
def lastFrames (c : Client τ ι) : List Bytes :=
  match c.session.readyId with
  | none => []
  | some id => [Control.encode ⟨.leave, id, c.session.seq⟩]

/-- What a teardown of the client does. -/
def farewell (c : Client τ ι) : List Farewell := c.lastFrames.map .leave ++ [.disconnect, .release]

variable [Transport τ] [Sampler ι]

theorem saysLeave_of_mem_frames {call : Call τ ι} (other : call ≠ .teardown) {frame : Bytes}
    (handed : frame ∈ Effect.frames (c.perform call).2) : saysLeave frame = false := by
  cases call with
  | start =>
    have none : Effect.frames (c.perform .start).2 = [] := frames_connect _
    rw [none] at handed
    cases handed
  | reconnect =>
    have none : Effect.frames (c.perform .reconnect).2 = [] := frames_connect _
    rw [none] at handed
    cases handed
  | handle event =>
    cases event with
    | connected => cases handed
    | disconnected => cases handed
    | frame bytes =>
      rcases c.handle_frame bytes with ⟨id, -, -, joined⟩ | ⟨-, unmoved⟩
      · rw [perform, joined, frames_join] at handed
        rw [List.mem_singleton.mp handed, saysLeave_join]
      · rw [perform, unmoved.frames] at handed
        cases handed
  | tick =>
    cases ready : c.session.readyId with
    | none =>
      rw [perform, tick_of_not_ready ready] at handed
      cases handed
    | some id =>
      rw [perform, frames_tick ready] at handed
      split at handed
      · cases handed
      · rw [List.mem_singleton.mp handed, saysLeave_input]
  | teardown => exact absurd rfl other
  | disturb transport input => cases handed

theorem farewells_perform {call : Call τ ι} (other : call ≠ .teardown) :
    farewells (c.perform call).2 = [] := by
  rw [farewells, List.filterMap_eq_nil_iff]
  intro effect done
  have allowed := c.allows_of_mem_perform call effect done
  cases effect with
  | send frame answer =>
    have handed : frame ∈ Effect.frames (c.perform call).2 := List.mem_filterMap.mpr ⟨_, done, rfl⟩
    simp [farewell?, saysLeave_of_mem_frames other handed]
  | disconnect => cases call <;> simp_all [Call.allows]
  | release => cases call <;> simp_all [Call.allows]
  | _ => rfl

theorem farewells_effects_of_no_teardown (c : Client τ ι) {calls : List (Call τ ι)}
    (none : .teardown ∉ calls) : farewells (c.effects calls) = [] := by
  refine filterMap_effects ?_ c
  intro call made c
  apply farewells_perform
  rintro rfl
  exact none made

theorem frames_of_teardown (standing : c.tornDown = false) :
    Effect.frames c.teardown.2 = c.lastFrames := by
  unfold lastFrames
  split
  · next none => rw [teardown_snd standing, leave_of_not_ready (c := c.tearing) none]; rfl
  · next id ready => rw [frames_teardown ready, standing]; rfl

theorem farewells_teardown (standing : c.tornDown = false) :
    farewells c.teardown.2 = c.farewell := by
  unfold farewell lastFrames
  rw [teardown_snd standing, farewells_append]
  split
  · next none =>
    rw [leave_of_not_ready (c := c.tearing) none]
    rfl
  · next id ready =>
    obtain ⟨answer, notice, left⟩ := leave_snd (c := c.tearing) ready
    have goodbye := saysLeave_leave id c.tearing.session.seq
    rw [left]
    simp only [farewells, List.filterMap_cons, farewell?, goodbye]
    rfl

theorem tornDown_perform_eq (c : Client τ ι) (call : Call τ ι) :
    (c.perform call).1.tornDown = call.latch c.tornDown := by
  cases call with
  | start => rfl
  | reconnect => rfl
  | handle event =>
    cases event with
    | connected => rfl
    | disconnected => rfl
    | frame bytes =>
      rcases c.handle_frame bytes with ⟨id, -, -, joined⟩ | ⟨-, unmoved⟩
      · rw [perform, joined, join_fst]
        rfl
      · exact unmoved.tornDown
  | tick => exact c.ticked.tornDown
  | teardown =>
    rw [perform]
    cases torn : c.tornDown with
    | true =>
      rw [teardown_of_tornDown torn]
      exact torn
    | false =>
      rw [teardown_fst torn]
      cases ready : c.session.readyId with
      | none =>
        rw [leave_of_not_ready (c := c.tearing) ready]
        rfl
      | some id =>
        rw [leave_fst (c := c.tearing) ready]
        rfl
  | disturb transport input => rfl

/-- A client that was not torn down stays so in every call but a teardown. -/
theorem tornDown_perform (standing : c.tornDown = false) {call : Call τ ι}
    (other : call ≠ .teardown) : (c.perform call).1.tornDown = false := by
  rw [tornDown_perform_eq, standing]
  cases call with
  | teardown => exact absurd rfl other
  | _ => rfl

theorem tornDown_after (standing : c.tornDown = false) {calls : List (Call τ ι)}
    (none : .teardown ∉ calls) : (c.after calls).tornDown = false := by
  induction calls generalizing c with
  | nil => exact standing
  | cons call calls ih =>
    obtain ⟨other, none⟩ := List.ne_and_not_mem_of_not_mem_cons none
    exact ih (tornDown_perform standing (Ne.symm other)) none

end Client

namespace Loop

variable {τ ι : Type} {l : Loop τ ι}

/-- A loop that has stopped has nothing left. -/
structure Settled (l : Loop τ ι) : Prop where
  stopped : l.status = .stopped
  down : l.client.session.Down
  actors : l.client.actors = []
  published : l.published = .disconnected

theorem Settled.isAlive (h : Settled l) : l.isAlive = false := by
  rw [Loop.isAlive, h.stopped]
  rfl

theorem Settled.post (h : Settled l) (event : Event) : l.post event = (false, l) := by
  rw [Loop.post, if_neg (by simp [h.isAlive])]

/-! ## Turns before the stop -/

theorem teardown_not_mem_calls (draw : Binary64) (l : Loop τ ι) (turn : Turn)
    (other : turn ≠ .stop) : .teardown ∉ l.calls draw turn := by
  cases turn with
  | stop => exact absurd rfl other
  | event event =>
    rw [calls]
    split <;> simp
  | _ => simp [calls]

variable [Transport τ] [Sampler ι]

theorem farewells_perform {turn : Turn} (other : turn ≠ .stop) (draw : Binary64) :
    farewells (l.perform draw turn).2 = [] := by
  rw [farewells, filterMap_perform isOutward_of_farewell?]
  apply Client.farewells_effects_of_no_teardown
  exact l.teardown_not_mem_calls draw turn other

/-- While the loop runs its client is not torn down. -/
def Standing (l : Loop τ ι) : Prop := l.status = .running → l.client.tornDown = false

theorem standing_after (config : LoopConfig) (client : Client τ ι) (moves : List (Move τ ι)) :
    Standing ((Loop.new config client).after moves) := by
  refine invariant_after ?_ ?_ nofun moves
  · intro l turn draw standing next running
    rw [(l.drives_perform draw turn).client]
    have kept (going : l.status = .running) (other : turn ≠ .stop) :=
      Client.tornDown_after (standing going) (l.teardown_not_mem_calls draw turn other)
    cases next_of_turn? next with
    -- The start takes back an earlier teardown.
    | begin => rfl
    | stop => cases running
    | tick going => exact kept going nofun
    | event unhurried => exact kept unhurried.running nofun
    | channelClosed unhurried => exact kept unhurried.running nofun
    | reconnect unhurried => exact kept unhurried.running nofun
  · intro l l' standing aside running
    rw [aside.tornDown]
    exact standing (aside.status.symm.trans running)

theorem farewells_of_alive (moves : List (Move τ ι)) (alive : (l.after moves).isAlive = true) :
    farewells (l.doings moves) = [] := by
  have kept := history_after (l := l)
    (P := fun past l => l.isAlive = true → farewells (past.flatMap Moment.effects) = [])
    ?_ ?_ [] (fun _ => rfl) moves
  · exact kept alive
  · intro past l turn draw silent next alive
    have going := isAlive_of_turn? next
    have other : turn ≠ .stop := by
      rintro rfl
      cases alive
    rw [List.flatMap_append, farewells_append, silent going, List.nil_append, List.flatMap_singleton]
    exact farewells_perform other draw
  · intro past l l' silent aside alive
    refine silent ?_
    rw [isAlive, aside.status] at alive
    exact alive

/-! ## The stop and what comes after it -/

theorem settled_stop (standing : l.client.tornDown = false) : Settled l.stop.1 := by
  have down : l.client.teardown.1.session.Down := by
    rw [Client.teardown_fst standing]
    exact Session.down_disconnected _
  refine ⟨rfl, down, ?_, down.connection⟩
  have torn : l.stop.1.client = l.client.teardown.1 := rfl
  rw [torn, Client.teardown_fst standing]

/-- Whatever is done around a loop that has stopped, it takes no turn any more. -/
theorem Settled.after (h : Settled l) (moves : List (Move τ ι)) :
    l.moments moves = [] ∧ Settled (l.after moves) := by
  refine history_after (P := fun past l => past = [] ∧ Settled l) ?_ ?_ [] ⟨rfl, h⟩ moves
  · rintro past l turn draw ⟨-, settled⟩ next
    rw [turn?_of_ended settled.isAlive] at next
    cases next
  · rintro past l l' ⟨none, settled⟩ aside
    exact ⟨none, aside.status.trans settled.stopped, aside.session ▸ settled.down,
      aside.actors.trans settled.actors, aside.published.trans settled.published⟩

/-- A loop that was asked to stop does nothing else, but that it begins if it has not begun. -/
theorem turn_of_asked (asked : l.stopRequested = true) (moves : List (Move τ ι)) :
    ∀ m ∈ l.moments moves, m.turn = .begin ∨ m.turn = .stop := by
  have kept := history_after (l := l)
    (P := fun past l => l.stopRequested = true ∧ ∀ m ∈ past, m.turn = .begin ∨ m.turn = .stop)
    ?_ ?_ [] ⟨asked, fun m none => nomatch none⟩ moves
  · exact kept.2
  · rintro past l turn draw ⟨asked, before⟩ next
    refine ⟨(l.situated_perform draw turn).stopRequested.trans asked, ?_⟩
    have busy (unasked : l.stopRequested = false) : turn = .begin ∨ turn = .stop :=
      nomatch asked.symm.trans unasked
    intro m listed
    rcases List.mem_append.mp listed with earlier | now
    · exact before m earlier
    · rw [List.mem_singleton.mp now]
      cases next_of_turn? next with
      | begin => exact .inl rfl
      | stop => exact .inr rfl
      | tick _ unasked => exact busy unasked
      | event unhurried => exact busy unhurried.unasked
      | channelClosed unhurried => exact busy unhurried.unasked
      | reconnect unhurried => exact busy unhurried.unasked
  · rintro past l l' ⟨asked, before⟩ aside
    exact ⟨aside.asked asked, before⟩

theorem isAlive_after (ended : l.isAlive = false) (moves : List (Move τ ι)) :
    (l.after moves).isAlive = false := by
  refine invariant_after (P := fun l => l.isAlive = false) ?_ ?_ ended moves
  · intro l turn draw ended next
    cases ended.symm.trans (isAlive_of_turn? next)
  · intro l l' ended aside
    rw [isAlive, aside.status]
    exact ended

/-- Two turns are enough for a stop, unless the loop fails. -/
theorem isAlive_of_asked (asked : l.stopRequested = true) (draw draw' : Binary64) :
    (l.after [.turn draw, .turn draw']).isAlive = false := by
  have stops {l : Loop τ ι} (running : l.status = .running) (asked : l.stopRequested = true)
      (draw : Binary64) : (l.move (.turn draw)).isAlive = false := by
    rw [move_turn (turn?_of_asked running asked)]
    rfl
  cases status : l.status with
  | fresh =>
    have next : l.turn? = some .begin := by rw [turn?, status]
    rw [after, move_turn next]
    rcases status_perform next draw with ⟨ended, -⟩ | ⟨-, running⟩ | ⟨fault, failed⟩
    · cases ended
    · exact stops running ((l.situated_perform draw .begin).stopRequested.trans asked) draw'
    · refine isAlive_after ?_ [.turn draw']
      rw [isAlive, failed]
      rfl
  | running => exact isAlive_after (stops status asked draw) [.turn draw']
  | stopped => exact isAlive_after (by rw [isAlive, status]; rfl) _
  | failed fault => exact isAlive_after (by rw [isAlive, status]; rfl) _

/-- What a stop in the next turn makes of the run: `later` comes after it. -/
structure Concluded (first : Loop τ ι) (moves : List (Move τ ι)) (draw : Binary64)
    (later : List (Move τ ι)) : Prop where
  /-- The stop is the last turn. -/
  last : first.moments (moves ++ .turn draw :: later) =
    first.moments moves ++ [⟨first.after moves, .stop, draw⟩]
  /-- The run has one farewell, that of the client at this moment. -/
  farewell : farewells (first.doings (moves ++ .turn draw :: later)) =
    (first.after moves).client.farewell
  frames : Effect.frames (first.doings (moves ++ .turn draw :: later)) =
    Effect.frames (first.doings moves) ++ (first.after moves).client.lastFrames
  announced : (first.doings (moves ++ .turn draw :: later)).getLast? = some (.publish .disconnected)
  settled : Settled (first.after (moves ++ .turn draw :: later))
  refused : ∀ event, (first.after (moves ++ .turn draw :: later)).post event =
    (false, first.after (moves ++ .turn draw :: later))

theorem concluded {first : Loop τ ι} {moves : List (Move τ ι)}
    (standing : (first.after moves).client.tornDown = false)
    (next : (first.after moves).turn? = some .stop) (draw : Binary64) (later : List (Move τ ι)) :
    Concluded first moves draw later := by
  obtain ⟨nothing, settled⟩ := (settled_stop standing).after later
  have last : first.moments (moves ++ .turn draw :: later) =
      first.moments moves ++ [⟨first.after moves, .stop, draw⟩] := by
    have none : ((first.after moves).perform draw .stop).1.moments later = [] := nothing
    rw [moments_append, moments_turn next, none]
  have done : first.doings (moves ++ .turn draw :: later) =
      first.doings moves ++ (first.after moves).stop.2 := by
    rw [doings, last, List.flatMap_append, List.flatMap_singleton]
    rfl
  have ended : first.after (moves ++ .turn draw :: later) =
      (first.after moves).stop.1.after later := by
    rw [after_append, after, move_turn next]
    rfl
  have stop : (first.after moves).stop.2 = (first.after moves).client.teardown.2 ++
      [.publish (first.after moves).client.teardown.1.session.connection] := rfl
  have before := farewells_of_alive moves (isAlive_of_turn? next)
  refine ⟨last, ?_, ?_, ?_, ended ▸ settled, ?_⟩
  · rw [done, farewells_append, before, stop, farewells_append, Client.farewells_teardown standing]
    exact List.append_nil _
  · rw [done, Effect.frames_append, stop, Effect.frames_append, Client.frames_of_teardown standing]
    exact congrArg (Effect.frames (first.doings moves) ++ ·) (List.append_nil _)
  · rw [done, stop, ← List.append_assoc, List.getLast?_concat]
    exact congrArg (some ∘ Effect.publish) (settled_stop standing).down.connection
  · intro event
    rw [ended]
    exact settled.post event

/-- A loop that was asked to stop does so, unless it fails: in its next turn, or in the one after
its first. The stop ends the run, it leaves the link closed, and a link in memory is then down. -/
theorem stop_is_final (config : LoopConfig) (client : Client τ ι) (moves : List (Move τ ι)) :
    let first := Loop.new config client
    let l := first.after moves
    (l.stopRequested = true →
      (∀ later, ∀ m ∈ l.moments later, m.turn = .begin ∨ m.turn = .stop) ∧
      ∀ draw draw', (l.after [.turn draw, .turn draw']).isAlive = false) ∧
    (l.turn? = some .stop → ∀ draw,
      (l.perform draw .stop).1.client.transport =
        Transport.disconnect (Transport.sendAll l.client.lastFrames l.client.transport) ∧
      ∀ later, Concluded first moves draw later) ∧
    ∀ m : Memory, (Transport.disconnect m).isUp = false := by
  intro first l
  refine ⟨fun asked => ⟨turn_of_asked asked, isAlive_of_asked asked⟩, ?_, fun m => rfl⟩
  intro next draw
  cases next_of_turn? next with
  | stop running =>
    have standing : l.client.tornDown = false := standing_after config client moves running
    refine ⟨?_, concluded standing next draw⟩
    rw [← Client.frames_of_teardown standing]
    exact (Client.teardown_carried standing).2

/-- The server assigns a session, and when the loop is asked to stop a broadcast waits. -/
def stopInSession : List (Move Memory KeyScript) :=
  [.turn .one, .turn .one, .turn .one, .post (.frame zeroAssign), .turn .one,
    .post (.frame (Broadcast.encode [])), .requestStop]

/-- The client has joined, and the stop sends its LEAVE and closes the link. -/
theorem stop_is_final_in_session :
    let first : Loop Memory KeyScript := .new twoAttempts (.new { reports := true } {})
    let l := first.after stopInSession
    let id : SessionId := ⟨List.replicate 16 0, rfl⟩
    l.queue ≠ [] ∧ l.client.session.readyId = some id ∧
      farewells (first.doings (stopInSession ++ [.turn .one])) =
        [.leave (Control.encode ⟨.leave, id, 1⟩), .disconnect, .release] ∧
      Settled (first.after (stopInSession ++ [.turn .one])) ∧
      (l.perform .one .stop).1.client.transport.isUp = false := by
  intro first l id
  have next : l.turn? = some .stop := by decide +kernel
  have farewell : l.client.farewell =
      [.leave (Control.encode ⟨.leave, id, 1⟩), .disconnect, .release] := by
    decide +kernel
  obtain ⟨-, stop, down⟩ := stop_is_final twoAttempts
    (.new (τ := Memory) { reports := true } ({} : KeyScript)) stopInSession
  obtain ⟨closed, concluded⟩ := stop next .one
  refine ⟨by decide +kernel, by decide +kernel, ?_, (concluded []).settled, ?_⟩
  · rw [← farewell]
    exact (concluded []).farewell
  · rw [closed]
    exact down _

end Loop

end GameClient
