import GameClient.Proofs.Budget
import GameClient.Proofs.Moments

/-! # News before timers

The events of a loop form a queue: those handled so far are the first of those sent, and the others
still wait. A loop whose timer is armed has a client without a link and without a session, and it
reconnects only when it has handled all that was sent, or when its channel has ended and it handles
nothing any more. So what it hears after a reconnect was sent in the course of it or later. -/

namespace GameClient

/-- There is neither a link nor a session. -/
structure Session.Down (s : Session) : Prop where
  connection : s.connection = .disconnected
  id : s.id = none

theorem Session.down_disconnected (s : Session) : s.disconnected.Down := ⟨rfl, rfl⟩

theorem Session.Down.readyId {s : Session} (h : s.Down) : s.readyId = none := by
  simp [Session.readyId, h.connection]

namespace Client

variable {τ ι : Type} [Transport τ] {c : Client τ ι}

theorem session_handle_frame (down : c.session.Down) (bytes : Bytes) :
    (c.handle (.frame bytes)).1.session = c.session := by
  rcases c.handle_frame bytes with ⟨id, up, -, -⟩ | ⟨-, unmoved⟩
  · cases down.connection.symm.trans up
  · exact unmoved.session

variable [Sampler ι]

theorem down_teardown (down : c.session.Down) : c.teardown.1.session.Down := by
  cases torn : c.tornDown with
  | true =>
    rw [teardown_of_tornDown torn]
    exact down
  | false =>
    rw [teardown_fst torn]
    exact Session.down_disconnected _

/-- Only the news of a link ends that a client is down. -/
theorem down_perform (down : c.session.Down) {call : Call τ ι} (other : call ≠ .handle .connected) :
    (c.perform call).1.session.Down := by
  cases call with
  | start => exact down
  | reconnect => exact down
  | handle event =>
    cases event with
    | connected => exact absurd rfl other
    | disconnected => exact c.session.down_disconnected
    | frame bytes =>
      simp only [perform, session_handle_frame down bytes]
      exact down
  | tick =>
    simp only [perform, tick_of_not_ready down.readyId]
    exact down
  | teardown => exact down_teardown down
  | disturb transport input => exact down

end Client

namespace Loop

variable {τ ι : Type} [Transport τ] [Sampler ι] {l : Loop τ ι}

/-! ## The timer and the client -/

/-- A client that is down stays so in every turn but the news of a link. -/
theorem down_perform (down : l.client.session.Down) (turn : Turn) (other : turn ≠ .event .connected)
    (draw : Binary64) : (l.perform draw turn).1.client.session.Down := by
  rw [(l.drives_perform draw turn).client]
  cases turn with
  | event event =>
    rw [calls]
    split
    · exact Client.down_perform down fun same => other (congrArg Turn.event (Call.handle.inj same))
    · exact down
  | begin => exact Client.down_perform down (by simp)
  | stop => exact Client.down_perform down (by simp)
  | tick => exact Client.down_perform down (by simp)
  | channelClosed => exact down
  | reconnect => exact Client.down_perform down (by simp)

/-- While the timer is armed, and before the first turn, the client is down. -/
structure Apart (l : Loop τ ι) : Prop where
  armed : l.reconnectAt.isSome = true → l.client.session.Down
  fresh : l.status = .fresh → l.client.session.Down

/-- A loss that was reported takes the client down, unless the loop fails. -/
theorem Apart.disconnected (h : Apart l) (running : l.status = .running) {draw : Binary64}
    (armed : (l.handle draw .disconnected).1.reconnectAt.isSome = true) :
    (l.handle draw .disconnected).1.client.session.Down := by
  rw [(l.drives_handle draw .disconnected).client, calls]
  split
  · exact l.client.session.down_disconnected
  · next ended =>
    rw [(l.heard draw .disconnected).reconnectAt, heed, reconnectAt_schedule] at armed
    · exact h.armed armed
    · exact fun same => ended (same.trans running)

theorem Apart.perform (h : Apart l) {turn : Turn} (next : l.turn? = some turn) (draw : Binary64) :
    Apart (l.perform draw turn).1 := by
  constructor
  · intro armed
    cases next_of_turn? next with
    | begin fresh => exact down_perform (h.fresh fresh) .begin (by simp) draw
    | stop => exact down_perform (h.armed armed) .stop (by simp) draw
    | tick => exact down_perform (h.armed armed) .tick (by simp) draw
    | @event event _ unhurried =>
      cases event with
      | connected =>
        rw [Loop.perform, (l.heard draw .connected).reconnectAt] at armed
        cases armed
      | disconnected => exact h.disconnected unhurried.running armed
      | frame bytes =>
        rw [Loop.perform, (l.heard draw (.frame bytes)).reconnectAt] at armed
        exact down_perform (h.armed armed) (.event (.frame bytes)) (by simp) draw
    | channelClosed => exact h.armed armed
    | reconnect _ _ timer =>
      exact down_perform (h.armed (Option.isSome_of_eq_some timer)) .reconnect (by simp) draw
  · exact fun fresh => absurd fresh (status_perform_ne_fresh next draw)

/-- A client that is down is given to a loop whose timer is not armed. -/
theorem Apart.after {config : LoopConfig} {client : Client τ ι} (down : client.session.Down)
    (moves : List (Move τ ι)) : Apart ((Loop.new config client).after moves) := by
  refine invariant_after ?_ ?_ ⟨nofun, fun _ => down⟩ moves
  · intro l turn draw h next
    exact h.perform next draw
  · intro l l' h aside
    constructor
    · rw [aside.reconnectAt, aside.session]
      exact h.armed
    · rw [aside.status, aside.session]
      exact h.fresh

/-! ## The queue -/

/-- The events that are handled in these moments. -/
def handled (past : List (Moment τ ι)) : List Event := past.filterMap fun m => m.turn.event?

def reports (l : Loop τ ι) : Turn → List Event
  | .begin | .reconnect => (Transport.connect l.client.transport).2.1
  | _ => []

/-- What is sent to the loop in one move. A loop that has ended takes nothing. -/
def sentBy (l : Loop τ ι) : Move τ ι → List Event
  | .turn _ => match l.turn? with
    | some turn => l.reports turn
    | none => []
  | .post event => if l.isAlive then [event] else []
  | .disturb act => if l.isAlive then (act l.client.transport).1 else []
  | _ => []

/-- What is sent to the loop in the course of the moves, from whatever source. -/
def sent : Loop τ ι → List (Move τ ι) → List Event
  | _, [] => []
  | l, move :: moves => l.sentBy move ++ (l.move move).sent moves

omit [Transport τ] [Sampler ι] in
theorem handled_append (past more : List (Moment τ ι)) :
    handled (past ++ more) = handled past ++ handled more := List.filterMap_append

theorem sent_append (l : Loop τ ι) (moves more : List (Move τ ι)) :
    l.sent (moves ++ more) = l.sent moves ++ (l.after moves).sent more := by
  induction moves generalizing l with
  | nil => rfl
  | cons move moves ih =>
    rw [List.cons_append, sent, sent, ih, List.append_assoc]
    rfl

/-- A turn takes the first event that waits, if it takes one, and reports go behind the last. -/
theorem queue_perform {turn : Turn} (next : l.turn? = some turn) (draw : Binary64) :
    turn.event?.toList ++ (l.perform draw turn).1.queue = l.queue ++ l.reports turn := by
  cases next_of_turn? next with
  | begin =>
    have begun : l.begun.queue = l.queue ++ l.reports .begin := l.queue_begun
    simp only [perform, begin_eq]
    rw [← begun, ← (l.begun.kept_react draw .firstConnectRefused l.client.start.1).queue]
    split <;> rfl
  | stop => simp [perform, stop, publish, reports, Turn.event?]
  | tick => simp [perform, tick, reports, Turn.event?]
  | @event event rest _ _ waits =>
    rw [perform, (l.heard draw event).queue,
      (kept_heed draw { l with queue := l.queue.tail } event).queue, waits]
    simp [reports, Turn.event?]
  | channelClosed => simp [perform, reports, Turn.event?]
  | reconnect =>
    have retried : l.retried.queue = l.queue ++ l.reports .reconnect := l.queue_retried
    simp only [perform, reconnect_eq]
    rw [← retried, ← (l.retried.kept_react draw .reconnectRefused l.client.reconnect.1).queue]
    rfl

/-- In each move, what is taken and what waits then is what waited and what is sent. -/
theorem queue_move (l : Loop τ ι) (move : Move τ ι) :
    handled (l.moment? move).toList ++ (l.move move).queue = l.queue ++ l.sentBy move := by
  cases move with
  | turn draw =>
    cases next : l.turn? with
    | some turn =>
      have taken : handled [⟨l, turn, draw⟩] = turn.event?.toList := by
        cases turn <;> rfl
      simp only [moment?, sentBy, next, move_turn next, Option.map_some, Option.toList_some, taken,
        queue_perform next draw]
    | none => simp [moment?, Loop.move, sentBy, next, handled]
  | post event =>
    simp only [moment?, Loop.move, sentBy, post]
    split <;> simp [handled]
  | disturb act =>
    have alive : { l with client := { l.client with transport := (act l.client.transport).2 } }.isAlive =
      l.isAlive := rfl
    simp only [moment?, Loop.move, sentBy, disturb, alive]
    split <;> simp [handled]
  | wait instant =>
    simp only [moment?, Loop.move, sentBy, sleep]
    split <;> simp [handled]
  | closeChannel => simp [moment?, Loop.move, sentBy, closeChannel, handled]
  | requestStop => simp [moment?, Loop.move, sentBy, requestStop, handled]
  | press input => simp [moment?, Loop.move, sentBy, handled]
  | clock now nextTick => simp [moment?, Loop.move, sentBy, handled]

/-- Events are handled in the order in which they were sent: those handled and those that still wait
are, in this order, those that waited and those sent. -/
theorem handled_append_queue (l : Loop τ ι) (moves : List (Move τ ι)) :
    handled (l.moments moves) ++ (l.after moves).queue = l.queue ++ l.sent moves := by
  induction moves generalizing l with
  | nil => exact (List.append_nil _).symm
  | cons move moves ih =>
    calc handled (l.moments (move :: moves)) ++ (l.after (move :: moves)).queue
        = handled (l.moment? move).toList ++
            (handled ((l.move move).moments moves) ++ ((l.move move).after moves).queue) := by
          rw [moments, handled_append, List.append_assoc, after]
      _ = (handled (l.moment? move).toList ++ (l.move move).queue) ++ (l.move move).sent moves := by
          rw [ih, List.append_assoc]
      _ = l.queue ++ l.sent (move :: moves) := by
          rw [queue_move, List.append_assoc, sent]

/-! ## The end of the channel -/

/-- The loop has seen the end of its channel: nothing waited, and nobody could send any more. -/
def SawEnd (past : List (Moment τ ι)) : Prop :=
  ∃ m ∈ past, m.turn = .channelClosed ∧ m.loop.queue = [] ∧ m.loop.hasSenders = false

theorem handled_of_deaf (deaf : l.listening = false) (moves : List (Move τ ι)) :
    handled (l.moments moves) = [] := by
  have kept := history_after (l := l)
    (P := fun past l => l.listening = false ∧ handled past = []) ?_ ?_ [] ⟨deaf, rfl⟩ moves
  · exact kept.2
  · rintro past l turn draw ⟨deaf, none⟩ next
    rw [handled_append, none]
    cases next_of_turn? next with
    | event _ listening => cases deaf.symm.trans listening
    | channelClosed _ listening => cases deaf.symm.trans listening
    | begin => exact ⟨((l.situated_perform draw .begin).listening nofun).trans deaf, rfl⟩
    | stop => exact ⟨deaf, rfl⟩
    | tick => exact ⟨deaf, rfl⟩
    | reconnect => exact ⟨((l.situated_perform draw .reconnect).listening nofun).trans deaf, rfl⟩
  · rintro past l l' ⟨deaf, none⟩ aside
    exact ⟨aside.listening.trans deaf, none⟩

theorem sawEnd_of_deaf (listening : l.listening = true) (moves : List (Move τ ι))
    (deaf : (l.after moves).listening = false) : SawEnd (l.moments moves) := by
  have kept := history_after (l := l)
    (P := fun past l => l.listening = false → SawEnd past) ?_ ?_ [] ?_ moves
  · exact kept deaf
  · intro past l turn draw saw next deaf
    by_cases closing : turn = .channelClosed
    · subst closing
      cases next_of_turn? next with
      | channelClosed _ _ empty closed => exact ⟨_, List.mem_concat_self, rfl, empty, closed⟩
    · rw [(l.situated_perform draw turn).listening closing] at deaf
      obtain ⟨m, before, ended⟩ := saw deaf
      exact ⟨m, List.mem_append_left _ before, ended⟩
  · intro past l l' saw aside deaf
    exact saw (aside.listening.symm.trans deaf)
  · exact fun deaf => nomatch listening.symm.trans deaf

/-! ## Reconnects -/

/-- While the timer is armed the client has neither a link nor a session. When the loop reconnects,
either all that was sent is handled, or the channel has ended. In both cases only what is sent in the
course of the reconnect or later is handled after it. -/
theorem reconnects_behind_news (config : LoopConfig) {client : Client τ ι}
    (down : client.session.Down) (moves : List (Move τ ι)) :
    let first := Loop.new config client
    let l := first.after moves
    (l.reconnectAt.isSome = true → l.client.session.Down) ∧
    (l.turn? = some .reconnect → l.client.session.Down ∧
      (l.queue = [] ∧ handled (first.moments moves) = first.sent moves ∨
        SawEnd (first.moments moves)) ∧
      ∀ draw later, handled (l.moments (.turn draw :: later)) <+: l.sent (.turn draw :: later)) := by
  intro first l
  have apart : Apart l := .after down moves
  refine ⟨apart.armed, ?_⟩
  intro next
  cases next_of_turn? next with
  | reconnect _ quiet timer =>
    refine ⟨apart.armed (Option.isSome_of_eq_some timer), ?_⟩
    rcases quiet with deaf | ⟨empty, -⟩
    · refine ⟨.inr (sawEnd_of_deaf rfl moves deaf), ?_⟩
      intro draw later
      rw [handled_of_deaf deaf]
      exact List.nil_prefix
    · have before := first.handled_append_queue moves
      rw [empty, List.append_nil] at before
      refine ⟨.inl ⟨empty, before⟩, ?_⟩
      intro draw later
      have after := l.handled_append_queue (.turn draw :: later)
      rw [empty, List.nil_append] at after
      exact ⟨_, after⟩

/-- The first connect is refused, and a second passes. -/
def firstSecond : List (Move (Gated Memory) KeyScript) :=
  [.turn .one, .turn .one, .wait 1000000000, .turn .one]

/-- Then the loop makes its first reconnect, with nothing left to hear. -/
theorem reconnects_behind_news_outage :
    outage.session.Down ∧
    let l := (Loop.new twoAttempts outage).after firstSecond
    l.turn? = some .reconnect ∧ l.client.session.Down ∧ l.queue = [] ∧
      ∀ draw later, handled (l.moments (.turn draw :: later)) <+: l.sent (.turn draw :: later) := by
  have down : outage.session.Down := ⟨rfl, rfl⟩
  have next : ((Loop.new twoAttempts outage).after firstSecond).turn? = some .reconnect := by
    decide +kernel
  obtain ⟨-, behind⟩ := reconnects_behind_news twoAttempts down firstSecond
  obtain ⟨apart, -, later⟩ := behind next
  exact ⟨down, next, apart, by decide +kernel, later⟩

end Loop

end GameClient
