import GameClient.Proofs.Delivery
import GameClient.Proofs.Outage
import GameClient.Transport.Memory

/-! # The client and its link

A link in memory comes and goes at once, when it is asked for or dropped, and the client hears of it
later. Each change of the link is reported in the order in which it happens, so the link is at all
times where the client will see it when it has heard all that waits. When nothing waits the client
knows of its link what holds. -/

namespace GameClient

namespace Memory

/-- What someone else who holds the link can do. -/
inductive Deed where
  | dropLink
  | refuseConnects (refuse : Bool)
  | failSends (fail : Bool)
  | drain
deriving DecidableEq

def undergo (m : Memory) : Deed → List Event × Memory
  | .dropLink => m.dropLink
  | .refuseConnects refuse => ([], { m with refusesConnects := refuse })
  | .failSends fail => ([], { m with failsSends := fail })
  | .drain => ([], m.drain.2)

def state (m : Memory) : ConnectionState := if m.isUp then .connected else .disconnected

theorem state_eq_connected {m : Memory} : m.state = .connected ↔ m.isUp = true := by
  cases up : m.isUp <;> simp [state, up]

/-- What becomes of a link is what was reported of it. -/
structure Told (m : Memory) (events : List Event) (m' : Memory) : Prop where
  reports : m'.reports = m.reports
  state : m.reports = true → m.state.hearAll events = m'.state

theorem told_connect (m : Memory) : Told m m.connect.2.1 m.connect.2.2 := by
  refine ⟨rfl, fun reports => ?_⟩
  simp only [connect, report, reports, if_true]
  cases refuses : m.refusesConnects <;> rfl

theorem told_undergo (m : Memory) (deed : Deed) :
    Told m (m.undergo deed).1 (m.undergo deed).2 := by
  refine ⟨by cases deed <;> rfl, fun reports => ?_⟩
  cases deed with
  | dropLink =>
    simp only [undergo, dropLink, report, reports, if_true]
    rfl
  | _ => rfl

/-- A frame that is handed over is kept, or nothing changes. -/
theorem exists_send (frame : Bytes) (m : Memory) : ∃ sent, (m.send frame).2 = { m with sent } := by
  unfold send
  split
  · exact ⟨m.sent, rfl⟩
  · split
    · exact ⟨m.sent, rfl⟩
    · exact ⟨m.sent.push frame, rfl⟩

end Memory

namespace Gated

def undergo (deed : Memory.Deed) (g : Gated Memory) : List Event × Gated Memory :=
  ((g.inner.undergo deed).1, { g with inner := (g.inner.undergo deed).2 })

/-- A connect is refused at the gate, and nothing is asked of the link, or it comes to the link. -/
inductive Connecting (g : Gated Memory) : Answer × List Event × Gated Memory → Prop
  | kept {error : TransportError} {rest : List Answer} : g.answers = .refused error :: rest →
      Connecting g (.refused error, [], { g with answers := rest })
  | passed : Connecting g
      (.accepted, g.inner.connect.2.1, { answers := g.answers.tail, inner := g.inner.connect.2.2 })

theorem connecting (g : Gated Memory) : Connecting g (Transport.connect g) := by
  obtain ⟨answers, inner⟩ := g
  cases answers with
  | nil => exact .passed
  | cons answer rest =>
    cases answer with
    | accepted => exact .passed
    | refused error => exact .kept rfl

theorem exists_sendAll (frames : List Bytes) (g : Gated Memory) :
    ∃ sent, Transport.sendAll frames g = { g with inner := { g.inner with sent } } := by
  induction frames generalizing g with
  | nil => exact ⟨g.inner.sent, rfl⟩
  | cons frame frames ih =>
    obtain ⟨taken, first⟩ := g.inner.exists_send frame
    have handed : (Transport.send frame g).2 = { g with inner := { g.inner with sent := taken } } :=
      congrArg (Gated.mk g.answers) first
    obtain ⟨sent, rest⟩ := ih { g with inner := { g.inner with sent := taken } }
    exact ⟨sent, (congrArg (Transport.sendAll frames) handed).trans rest⟩

end Gated

namespace Loop

variable {τ ι : Type} [Transport τ] [Sampler ι]

/-! ## What a turn does to the transport -/

/-- The loop asks for a link. -/
def Turn.asks : Turn → Bool
  | .begin | .reconnect => true
  | _ => false

theorem transport_of_asks {turn : Turn} (asks : turn.asks = true) (draw : Binary64) (l : Loop τ ι) :
    (l.perform draw turn).1.client.transport = (Transport.connect l.client.transport).2.2 := by
  rw [(l.drives_perform draw turn).client]
  cases turn with
  | begin => rfl
  | reconnect => rfl
  | _ => cases asks

theorem transport_of_not_asks {turn : Turn} (asks : turn.asks = false) (other : turn ≠ .stop)
    (draw : Binary64) (l : Loop τ ι) : ∃ frames, (l.perform draw turn).1.client.transport =
      Transport.sendAll frames l.client.transport := by
  rw [(l.drives_perform draw turn).client]
  cases turn with
  | tick => exact ⟨_, l.client.tick_carried.transport⟩
  | event event =>
    rw [calls]
    split
    · exact ⟨_, (l.client.handle_carried event).transport⟩
    · exact ⟨[], rfl⟩
  | channelClosed => exact ⟨[], rfl⟩
  | stop => exact absurd rfl other
  | _ => cases asks

omit [Sampler ι] in
theorem reports_of_asks {turn : Turn} (asks : turn.asks = true) (l : Loop τ ι) :
    l.reports turn = (Transport.connect l.client.transport).2.1 := by
  cases turn with
  | begin => rfl
  | reconnect => rfl
  | _ => cases asks

omit [Sampler ι] in
theorem reports_of_not_asks {turn : Turn} (asks : turn.asks = false) (l : Loop τ ι) :
    l.reports turn = [] := by
  cases turn with
  | begin => cases asks
  | reconnect => cases asks
  | _ => rfl

variable {l : Loop (Gated Memory) ι}

theorem told_perform {turn : Turn} (other : turn ≠ .stop) (draw : Binary64)
    (l : Loop (Gated Memory) ι) : Memory.Told l.client.transport.inner (l.reports turn)
      (l.perform draw turn).1.client.transport.inner := by
  cases asks : turn.asks with
  | true =>
    rw [transport_of_asks asks, reports_of_asks asks]
    have result := l.client.transport.connecting
    generalize Transport.connect l.client.transport = asked at *
    cases result with
    | kept => exact ⟨rfl, fun _ => rfl⟩
    | passed => exact Memory.told_connect _
  | false =>
    obtain ⟨frames, carried⟩ := transport_of_not_asks asks other draw l
    obtain ⟨sent, same⟩ := l.client.transport.exists_sendAll frames
    rw [carried, same, reports_of_not_asks asks]
    exact ⟨rfl, fun _ => rfl⟩

/-! ## Runs -/

/-- Only the link itself speaks of the link. Others may send frames, and act on the link in the ways
that there are. -/
def Move.Faithful : Move (Gated Memory) ι → Prop
  | .post event => isFrame event = true
  | .disturb act => ∃ deed, act = Gated.undergo deed
  | _ => True

/-- When all that waits is heard, the client knows of its link what holds. -/
structure Agrees (l : Loop (Gated Memory) ι) : Prop where
  reports : l.client.transport.inner.reports = true
  state : l.client.session.connection.hearAll l.queue = l.client.transport.inner.state

theorem Agrees.perform (h : Agrees l) {turn : Turn} (next : l.turn? = some turn) (draw : Binary64)
    (alive : (l.perform draw turn).1.isAlive = true) : Agrees (l.perform draw turn).1 := by
  have other : turn ≠ .stop := by
    rintro rfl
    cases alive
  have given : Moment.given ⟨l, turn, draw⟩ = turn.event?.toList :=
    (given_moment next draw).resolve_right fun failed => failed.2 (sound_of_isAlive alive)
  have heard : (l.perform draw turn).1.client.session.connection =
      l.client.session.connection.hearAll turn.event?.toList := by
    rw [← given]
    exact (announced ⟨l, turn, draw⟩).connection other
  have told := told_perform other draw l
  refine ⟨told.reports.trans h.reports, ?_⟩
  calc (l.perform draw turn).1.client.session.connection.hearAll (l.perform draw turn).1.queue
      = l.client.session.connection.hearAll
          (turn.event?.toList ++ (l.perform draw turn).1.queue) := by
        rw [heard, ConnectionState.hearAll_append]
    _ = (l.client.session.connection.hearAll l.queue).hearAll (l.reports turn) := by
        rw [queue_perform next draw, ConnectionState.hearAll_append]
    _ = (l.perform draw turn).1.client.transport.inner.state := by
        rw [h.state, told.state h.reports]

/-- Around the loop nothing is said of the link but what becomes of it. -/
theorem told_move {move : Move (Gated Memory) ι} (faithful : move.Faithful)
    (alive : l.isAlive = true) (none : l.moment? move = none) :
    Memory.Told l.client.transport.inner (l.sentBy move) (l.move move).client.transport.inner := by
  have still : Memory.Told l.client.transport.inner [] l.client.transport.inner :=
    ⟨rfl, fun _ => rfl⟩
  cases move with
  | turn draw =>
    have nothing : l.turn? = .none := Option.map_eq_none_iff.mp none
    rw [move_turn_of_none none]
    simpa only [sentBy, nothing] using still
  | post event =>
    cases event with
    | frame bytes =>
      simp only [sentBy, alive, if_true, Loop.move, post]
      exact ⟨rfl, fun _ => rfl⟩
    | _ => cases faithful
  | disturb act =>
    obtain ⟨deed, rfl⟩ := faithful
    have told := l.client.transport.inner.told_undergo deed
    simp only [sentBy, alive, if_true, Loop.move, disturb]
    split <;> exact told
  | wait instant =>
    simp only [sentBy, Loop.move, sleep]
    split <;> exact still
  | _ => exact still

theorem Agrees.move (h : Agrees l) {move : Move (Gated Memory) ι} (faithful : move.Faithful)
    (alive : l.isAlive = true) (none : l.moment? move = none) : Agrees (l.move move) := by
  have told := told_move faithful alive none
  have queue := l.queue_move move
  rw [none] at queue
  refine ⟨told.reports.trans h.reports, ?_⟩
  calc (l.move move).client.session.connection.hearAll (l.move move).queue
      = l.client.session.connection.hearAll (l.queue ++ l.sentBy move) := by
        rw [(aside_move none).session, ← queue]
        rfl
    _ = (l.move move).client.transport.inner.state := by
        rw [ConnectionState.hearAll_append, h.state, told.state h.reports]

/-- Let a loop have a link in memory that reports what becomes of it, behind a gate that refuses some
of the connects, and let nobody else report a link to come or to go. Whatever others do with the link,
while the loop is alive the state that its client will see when it has heard all that waits is that of
the link. So when nothing waits the client is connected just when the link is up. -/
theorem client_agrees_with_link (config : LoopConfig) (client : Client (Gated Memory) ι)
    (reports : client.transport.inner.reports = true)
    (known : client.session.connection = client.transport.inner.state)
    {moves : List (Move (Gated Memory) ι)} (faithful : ∀ move ∈ moves, move.Faithful) :
    let l := (Loop.new config client).after moves
    l.isAlive = true →
      l.client.session.connection.hearAll l.queue = l.client.transport.inner.state ∧
      (l.queue = [] →
        (l.client.session.connection = .connected ↔ l.client.transport.inner.isUp = true)) := by
  intro l alive
  have new : Agrees (Loop.new config client) := ⟨reports, known⟩
  have agrees : l.isAlive = true → Agrees l := by
    refine history_throughout (fun _ move => move.Faithful)
      (P := fun _ l => l.isAlive = true → Agrees l) ?_ ?_ [] (fun _ => new)
      (throughout_of_forall (fun move listed _ => faithful move listed) _)
    · intro _ l turn draw agrees _ next alive
      exact (agrees (isAlive_of_turn? next)).perform next draw alive
    · intro _ l move agrees faithful none alive
      rw [isAlive, (aside_move none).status] at alive
      exact (agrees alive).move faithful alive none
  have state := (agrees alive).state
  refine ⟨state, fun empty => ?_⟩
  rw [empty] at state
  rw [← Memory.state_eq_connected, ← state]
  rfl

/-- A client whose first connect is refused. -/
def refusedOnce : Client (Gated Memory) KeyScript :=
  .new { answers := [.refused .noRuntime], inner := { reports := true } } {}

/-- The second connect is taken. Then the link is dropped twice while a frame waits. -/
def droppedTwice : List (Move (Gated Memory) KeyScript) :=
  [.turn .one, .turn .one, .wait 1000000000, .turn .one, .turn .one, .turn .one,
    .post (.frame zeroAssign), .disturb (Gated.undergo .dropLink),
    .disturb (Gated.undergo (.refuseConnects true)), .disturb (Gated.undergo .dropLink)]

/-- The client still believes in its link, but not when it has heard all that waits. -/
theorem client_agrees_with_link_droppedTwice :
    let l := (Loop.new twoAttempts refusedOnce).after droppedTwice
    let heard := (Loop.new twoAttempts refusedOnce).after
      (droppedTwice ++ [.turn .one, .turn .one, .turn .one])
    l.client.session.connection = .connected ∧
      l.queue = [.frame zeroAssign, .disconnected, .disconnected] ∧
      l.client.session.connection.hearAll l.queue = l.client.transport.inner.state ∧
      heard.queue = [] ∧
      (heard.client.session.connection = .connected ↔ heard.client.transport.inner.isUp = true) := by
  have faithful : ∀ move ∈ droppedTwice, move.Faithful := by
    simp [droppedTwice, Move.Faithful, isFrame]
  have later : ∀ move ∈ droppedTwice ++ [.turn .one, .turn .one, .turn .one], move.Faithful := by
    simpa [Move.Faithful, or_imp, forall_and] using faithful
  obtain ⟨state, -⟩ := client_agrees_with_link twoAttempts refusedOnce rfl rfl faithful
    (by decide +kernel)
  obtain ⟨-, known⟩ := client_agrees_with_link twoAttempts refusedOnce rfl rfl later
    (by decide +kernel)
  exact ⟨by decide +kernel, by decide +kernel, state, by decide +kernel, known (by decide +kernel)⟩

end Loop

end GameClient
