import GameClient.Proofs.Rendering
import GameClient.Proofs.Stopping

/-! # Delivery and publication

The events that a loop gives to its client are, in order, those that were sent, up to those that still
wait; when the loop rests none waits. The end of the channel is seen once, behind the last event, and
it changes nothing else. The loop publishes the state of its client behind every event and at its end.
No other call changes that state, so what is published is at all times what holds. -/

namespace GameClient

namespace ConnectionState

/-- The state of a link once the event is heard. -/
def hear (state : ConnectionState) : Event → ConnectionState
  | .connected => .connected
  | .disconnected => .disconnected
  | .frame _ => state

/-- The state of a link once all the events are heard, the first one first. -/
def hearAll (state : ConnectionState) (events : List Event) : ConnectionState :=
  events.foldl hear state

theorem hearAll_append (state : ConnectionState) (events more : List Event) :
    state.hearAll (events ++ more) = (state.hearAll events).hearAll more := List.foldl_append

end ConnectionState

def Call.event? {τ ι : Type} : Call τ ι → Option Event
  | .handle event => some event
  | _ => none

namespace Client

variable {τ ι : Type} [Transport τ]

theorem connection_handle (c : Client τ ι) (event : Event) :
    (c.handle event).1.session.connection = c.session.connection.hear event := by
  cases event with
  | connected => rfl
  | disconnected => rfl
  | frame bytes =>
    rcases c.handle_frame bytes with ⟨id, -, -, joined⟩ | ⟨-, unmoved⟩
    · rw [joined, join_fst]
      rfl
    · exact congrArg Session.connection unmoved.session

variable [Sampler ι]

theorem connection_tick (c : Client τ ι) :
    c.tick.1.session.connection = c.session.connection := by
  rcases c.ticked.session with same | advanced
  · rw [same]
  · rw [advanced]
    rfl

theorem connection_perform {call : Call τ ι} (other : call ≠ .teardown) (c : Client τ ι) :
    (c.perform call).1.session.connection = c.session.connection.hearAll call.event?.toList := by
  cases call with
  | handle event => exact c.connection_handle event
  | tick => exact c.connection_tick
  | teardown => exact absurd rfl other
  | _ => rfl

theorem connection_after {calls : List (Call τ ι)} (standing : .teardown ∉ calls)
    (c : Client τ ι) : (c.after calls).session.connection =
      c.session.connection.hearAll (calls.filterMap Call.event?) := by
  induction calls generalizing c with
  | nil => rfl
  | cons call calls ih =>
    obtain ⟨other, standing⟩ := List.ne_and_not_mem_of_not_mem_cons standing
    rw [Client.after, ih standing, connection_perform (Ne.symm other), filterMap_cons_eq,
      ConnectionState.hearAll_append]

end Client

namespace Loop

variable {τ ι : Type} [Transport τ] [Sampler ι] {l : Loop τ ι}

/-! ## What the client is given -/

def Moment.given (m : Moment τ ι) : List Event :=
  (m.loop.calls m.draw m.turn).filterMap Call.event?

def given (past : List (Moment τ ι)) : List Event := past.flatMap Moment.given

omit [Transport τ] [Sampler ι] in
theorem given_append (past more : List (Moment τ ι)) :
    given (past ++ more) = given past ++ given more := List.flatMap_append

/-- The loop has not failed. -/
def Sound (l : Loop τ ι) : Prop := ∀ fault, l.status ≠ .failed fault

omit [Transport τ] [Sampler ι] in
theorem sound_of_isAlive (alive : l.isAlive = true) : Sound l := by
  intro fault failed
  simp [isAlive, failed] at alive

/-- The client is given the event of the turn, unless the loop fails over it. -/
theorem given_moment {turn : Turn} (next : l.turn? = some turn) (draw : Binary64) :
    Moment.given ⟨l, turn, draw⟩ = turn.event?.toList ∨
      Moment.given ⟨l, turn, draw⟩ = [] ∧ ¬ Sound (l.perform draw turn).1 := by
  cases next_of_turn? next with
  | @event event _ unhurried =>
    have heard := (l.heard draw event).status
    rcases l.status_handle draw event with same | ⟨fault, failed⟩
    · refine .inl ?_
      have running := heard.symm.trans (same.trans unhurried.running)
      simp only [Moment.given, calls, if_pos running]
      rfl
    · refine .inr ⟨?_, fun sound => sound fault failed⟩
      have ended : ({ l with queue := l.queue.tail }.heed draw event).1.status ≠ .running := by
        rw [← heard, failed]
        simp
      simp only [Moment.given, calls, if_neg ended]
      rfl
  | _ => exact .inl rfl

/-- What was given is what was handled, but for an event over which the loop failed. -/
theorem given_after (moves : List (Move τ ι)) :
    given (l.moments moves) <+: handled (l.moments moves) ∧
      (Sound (l.after moves) → given (l.moments moves) = handled (l.moments moves)) := by
  refine history_after (P := fun past l => given past <+: handled past ∧
    (Sound l → given past = handled past)) ?_ ?_ [] ⟨List.nil_prefix, fun _ => rfl⟩ moves
  · rintro past l turn draw ⟨-, same⟩ next
    have before := same (sound_of_isAlive (isAlive_of_turn? next))
    have taken : handled [⟨l, turn, draw⟩] = turn.event?.toList := by
      cases turn <;> rfl
    have now : given [⟨l, turn, draw⟩] = Moment.given ⟨l, turn, draw⟩ := List.flatMap_singleton ..
    rw [given_append, handled_append, before, taken, now]
    rcases given_moment next draw with all | ⟨none, failed⟩
    · rw [all]
      exact ⟨List.prefix_rfl, fun _ => rfl⟩
    · rw [none, List.append_nil]
      exact ⟨List.prefix_append .., fun sound => absurd sound failed⟩
  · rintro past l l' ⟨order, same⟩ aside
    refine ⟨order, fun sound => same ?_⟩
    rw [Sound, ← aside.status]
    exact sound

/-! ## The end of the channel -/

/-- Nothing is sent once nobody is left who could send. -/
def sendsOpenly (l : Loop τ ι) (move : Move τ ι) : Bool := l.hasSenders || (l.sentBy move).isEmpty

/-- Nothing waits and nothing will come. -/
structure Drained (l : Loop τ ι) : Prop where
  empty : l.queue = []
  closed : l.hasSenders = false

theorem hasSenders_move (closed : l.hasSenders = false) (move : Move τ ι) :
    (l.move move).hasSenders = false := by
  cases move with
  | turn draw =>
    simp only [Loop.move]
    split
    · next turn _ => exact (l.situated_perform draw turn).hasSenders.trans closed
    · exact closed
  | post event =>
    simp only [Loop.move, post]
    split <;> exact closed
  | disturb act =>
    simp only [Loop.move, disturb]
    split <;> exact closed
  | wait instant =>
    simp only [Loop.move, sleep]
    split <;> exact closed
  | closeChannel => rfl
  | _ => exact closed

theorem Drained.move (h : Drained l) {move : Move τ ι} (fit : l.sendsOpenly move = true) :
    l.sentBy move = [] ∧ Drained (l.move move) := by
  have silent : l.sentBy move = [] := by simpa [sendsOpenly, h.closed] using fit
  have queue := l.queue_move move
  rw [h.empty, silent, List.append_nil] at queue
  exact ⟨silent, (List.append_eq_nil_iff.mp queue).2, hasSenders_move h.closed move⟩

theorem Drained.after (h : Drained l) {moves : List (Move τ ι)}
    (fit : Throughout (fun l move => l.sendsOpenly move = true) l moves) :
    l.sent moves = [] ∧ Drained (l.after moves) := by
  induction moves generalizing l with
  | nil => exact ⟨rfl, h⟩
  | cons move moves ih =>
    obtain ⟨now, later⟩ := fit
    obtain ⟨silent, drained⟩ := h.move now
    obtain ⟨rest, ended⟩ := ih drained later
    exact ⟨by rw [sent, silent, rest, List.append_nil], ended⟩

theorem drained_of_deaf (listening : l.listening = true) {moves : List (Move τ ι)}
    (fit : Throughout (fun l move => l.sendsOpenly move = true) l moves)
    (deaf : (l.after moves).listening = false) : Drained (l.after moves) := by
  refine history_throughout (P := fun _ l => l.listening = false → Drained l) _ ?_ ?_ [] ?_ fit deaf
  · intro _ l turn draw drained fit next deaf
    by_cases closing : turn = .channelClosed
    · subst closing
      cases next_of_turn? next with
      | channelClosed _ _ empty closed => exact ⟨empty, closed⟩
    · rw [(l.situated_perform draw turn).listening closing] at deaf
      rw [← move_turn next]
      exact ((drained deaf).move fit).2
  · intro _ l move drained fit none deaf
    exact ((drained ((aside_move none).listening.symm.trans deaf)).move fit).2
  · exact fun deaf => nomatch listening.symm.trans deaf

/-- The end of the channel is seen once. -/
theorem length_times_channelClosed (listening : l.listening = true) (moves : List (Move τ ι)) :
    (times .channelClosed (l.moments moves)).length ≤ 1 := by
  have kept := history_after (l := l)
    (P := fun past l => (times .channelClosed past).length = if l.listening then 0 else 1)
    ?_ ?_ [] ?_ moves
  · rw [List.nil_append] at kept
    rw [kept]
    split <;> omega
  · intro past l turn draw count next
    rw [times_append, times_singleton, List.length_append, count]
    by_cases closing : turn = .channelClosed
    · subst closing
      cases next_of_turn? next with
      | channelClosed _ listening => simp [listening, perform]
    · simp [closing, (l.situated_perform draw turn).listening closing]
  · intro past l l' count aside
    rw [aside.listening]
    exact count
  · simp [listening, times]

/-- Only a reconnect changes the timer of a loop that listens no more. -/
theorem reconnectAt_of_deaf (running : l.status = .running) (deaf : l.listening = false)
    (moves : List (Move τ ι)) (none : times .reconnect (l.moments moves) = []) :
    (l.after moves).reconnectAt = l.reconnectAt := by
  have kept := history_after (l := l)
    (P := fun past l' => l'.status ≠ .fresh ∧ l'.listening = false ∧
      (times .reconnect past = [] → l'.reconnectAt = l.reconnectAt))
    ?_ ?_ [] ⟨by rw [running]; exact nofun, deaf, fun _ => rfl⟩ moves
  · exact kept.2.2 none
  · rintro past l turn draw ⟨begun, deaf, timer⟩ next
    refine ⟨status_perform_ne_fresh next draw, ?_⟩
    rw [times_append, times_singleton]
    cases next_of_turn? next with
    | begin fresh => exact absurd fresh begun
    | event _ listening => cases deaf.symm.trans listening
    | channelClosed _ listening => cases deaf.symm.trans listening
    | stop => exact ⟨deaf, fun none => timer (List.append_eq_nil_iff.mp none).1⟩
    | tick => exact ⟨deaf, fun none => timer (List.append_eq_nil_iff.mp none).1⟩
    | reconnect => exact ⟨((l.situated_perform draw .reconnect).listening nofun).trans deaf, by simp⟩
  · rintro past l l' ⟨begun, deaf, timer⟩ aside
    rw [aside.status, aside.listening, aside.reconnectAt]
    exact ⟨begun, deaf, timer⟩

/-! ## What is published -/

/-- The turn ends with a publication. -/
def Moment.announces (m : Moment τ ι) : Bool := !m.given.isEmpty || m.turn = .stop

def Moment.publications (m : Moment τ ι) : List ConnectionState :=
  m.effects.filterMap Effect.published?

/-- What a moment makes of the client, and what it tells of it. -/
structure Announced (m : Moment τ ι) : Prop where
  client : m.next.client = m.loop.client.after (m.loop.calls m.draw m.turn)
  connection : m.turn ≠ .stop →
    m.next.client.session.connection = m.loop.client.session.connection.hearAll m.given
  publications : m.publications =
    if m.announces then [m.next.client.session.connection] else []
  last : m.announces = true →
    m.effects.getLast? = some (.publish m.next.client.session.connection)
  published : m.next.published =
    if m.announces then m.next.client.session.connection else m.loop.published

theorem publications_client (c : Client τ ι) (call : Call τ ι) :
    (c.perform call).2.filterMap Effect.published? = [] := by
  refine c.filterMap_perform_eq_nil ?_
  intro effect allowed
  cases effect with
  | publish => cases allowed
  | _ => rfl

omit [Transport τ] [Sampler ι] in
theorem publications_notes (notices : List Notice) :
    (notices.map Effect.note).filterMap Effect.published? = [] :=
  filterMap_map_eq_nil (fun _ => rfl) notices

omit [Transport τ] [Sampler ι] in
theorem published_schedule (draw : Binary64) (l : Loop τ ι) :
    (l.schedule draw).1.published = l.published := by
  have result := l.scheduling draw
  generalize l.schedule draw = scheduled at *
  cases result <;> rfl

omit [Transport τ] [Sampler ι] in
/-- The loop says nothing of the state of its client while it reacts to an answer. -/
theorem silent_react (draw : Binary64) (why : TransportError → Notice) (l : Loop τ ι)
    (answer : Answer) : (l.react draw why answer).2.filterMap Effect.published? = [] ∧
      (l.react draw why answer).1.published = l.published := by
  cases answer with
  | accepted => exact ⟨rfl, rfl⟩
  | refused error =>
    obtain ⟨notices, noted⟩ := (l.scheduled draw).notices
    refine ⟨?_, published_schedule draw l⟩
    simp only [react, noted]
    exact publications_notes (why error :: notices)

omit [Transport τ] [Sampler ι] in
/-- What the loop does about an event it does without an announcement. -/
theorem silent_heed (draw : Binary64) (l : Loop τ ι) (event : Event) :
    (l.heed draw event).2.filterMap Effect.published? = [] ∧
      (l.heed draw event).1.published = l.published := by
  cases event with
  | disconnected =>
    obtain ⟨notices, noted⟩ := (l.scheduled draw).notices
    refine ⟨?_, published_schedule draw l⟩
    rw [heed, noted]
    exact publications_notes notices
  | _ => exact ⟨rfl, rfl⟩

theorem Moment.silent {m : Moment τ ι} (quiet : m.announces = false) :
    m.publications = [] ∧ m.next.published = m.loop.published := by
  obtain ⟨l, turn, draw⟩ := m
  simp only [publications, effects, next]
  cases turn with
  | begin =>
    have silent := l.begun.silent_react draw .firstConnectRefused l.client.start.1
    have started := publications_client l.client .start
    simp only [perform, begin_eq]
    split
    · exact ⟨by rw [List.filterMap_append, silent.1, List.append_nil]; exact started, silent.2⟩
    · exact ⟨by rw [List.filterMap_append, silent.1, List.append_nil]; exact started, silent.2⟩
  | stop => simp [announces] at quiet
  | tick => exact ⟨publications_client l.client .tick, rfl⟩
  | event event =>
    have ended : ({ l with queue := l.queue.tail }.heed draw event).1.status ≠ .running := by
      intro running
      simp [announces, given, calls, running, Call.event?] at quiet
    rw [perform, handle_eq]
    simp only [ended, ne_eq, not_false_eq_true, if_true]
    exact silent_heed draw _ event
  | channelClosed => exact ⟨rfl, rfl⟩
  | reconnect =>
    have silent := l.retried.silent_react draw .reconnectRefused l.client.reconnect.1
    have asked := publications_client l.client .reconnect
    simp only [perform, reconnect_eq]
    exact ⟨by rw [List.filterMap_append, silent.1, List.append_nil]; exact asked, silent.2⟩

/-- A moment with an event, and a stop, ends with one announcement. -/
theorem Moment.spoken {m : Moment τ ι} (loud : m.announces = true) :
    m.next.published = m.next.client.session.connection ∧
    ∃ effects, m.effects = effects ++ [.publish m.next.client.session.connection] ∧
      effects.filterMap Effect.published? = [] := by
  obtain ⟨l, turn, draw⟩ := m
  simp only [effects, next]
  cases turn with
  | stop => exact ⟨rfl, _, rfl, publications_client l.client .teardown⟩
  | event event =>
    have running : ({ l with queue := l.queue.tail }.heed draw event).1.status = .running := by
      by_contra ended
      simp [announces, given, calls, ended] at loud
    rw [perform, handle_eq]
    simp only [running, ne_eq, not_true_eq_false, if_false]
    refine ⟨trivial, _, rfl, ?_⟩
    rw [List.filterMap_append, (silent_heed draw _ event).1, List.nil_append]
    exact publications_client _ (.handle event)
  | _ => simp [announces, given, calls, Call.event?] at loud

theorem announced (m : Moment τ ι) : Announced m := by
  have client : m.next.client = m.loop.client.after (m.loop.calls m.draw m.turn) :=
    (m.loop.drives_perform m.draw m.turn).client
  have connection (other : m.turn ≠ .stop) :
      m.next.client.session.connection = m.loop.client.session.connection.hearAll m.given := by
    rw [client, Client.connection_after (m.loop.teardown_not_mem_calls m.draw m.turn other)]
    rfl
  cases announces : m.announces with
  | false =>
    obtain ⟨publications, published⟩ := Moment.silent announces
    exact ⟨client, connection, by rw [announces, publications]; rfl,
      fun loud => (nomatch announces.symm.trans loud), by rw [announces, published]; rfl⟩
  | true =>
    obtain ⟨published, effects, done, silent⟩ := Moment.spoken announces
    refine ⟨client, connection, ?_, ?_, by rw [announces, published]; rfl⟩
    · rw [announces, Moment.publications, done, List.filterMap_append, silent]
      rfl
    · intro _
      rw [done, List.getLast?_concat]

theorem published_after (known : l.published = l.client.session.connection)
    (moves : List (Move τ ι)) :
    (l.after moves).published = (l.after moves).client.session.connection := by
  refine invariant_after (P := fun l => l.published = l.client.session.connection) ?_ ?_ known moves
  · intro l turn draw known next
    have told := announced ⟨l, turn, draw⟩
    have published := told.published
    split at published
    · exact published
    · next quiet =>
      have other : turn ≠ .stop := by
        rintro rfl
        simp [Moment.announces] at quiet
      have none : Moment.given ⟨l, turn, draw⟩ = [] := by
        simp only [Moment.announces, Bool.or_eq_true, not_or] at quiet
        simpa using quiet.1
      have kept := told.connection other
      rw [none] at kept
      exact published.trans (known.trans kept.symm)
  · intro l l' known aside
    rw [aside.published, aside.session]
    exact known

/-! ## Delivery -/

/-- What becomes of a loop that has seen the end of its channel in the moment `m`. -/
structure Closing (first : Loop τ ι) (moves : List (Move τ ι)) (before : List (Moment τ ι))
    (m : Moment τ ι) (after : List (Moment τ ι)) : Prop where
  /-- All that is ever sent was handled by then. -/
  all : given before = first.sent moves
  still : given after = []
  timer : m.next.reconnectAt = m.loop.reconnectAt
  /-- A reconnect that was to come stays so until it is made, -/
  pending : times .reconnect after = [] → (first.after moves).reconnectAt = m.loop.reconnectAt
  /-- and when its time has come it is made. -/
  made : ∀ instant, m.loop.reconnectAt = some instant → Idle (first.after moves) →
    ripeAt instant ≤ (first.after moves).now → times .reconnect after ≠ []

/-- What the client is given, and what is said of it. -/
structure Delivers (first : Loop τ ι) (moves : List (Move τ ι)) : Prop where
  /-- Events come in the order in which they were sent. -/
  order : given (first.moments moves) <+: first.sent moves
  /-- While the loop has not failed, those that have not come still wait. -/
  complete : Sound (first.after moves) →
    given (first.moments moves) ++ (first.after moves).queue = first.sent moves
  /-- When the loop waits for time to pass all have come. -/
  all : Idle (first.after moves) → given (first.moments moves) = first.sent moves
  once : (times .channelClosed (first.moments moves)).length ≤ 1
  closing : ∀ before m after, first.moments moves = before ++ m :: after →
    m.turn = .channelClosed → Closing first moves before m after
  /-- Whether the channel is open or not, the loop ticks. -/
  ticks : (∀ move ∈ moves, move.isTimely = true) → Idle (first.after moves) →
    times .tick (first.moments moves) = beats first.period.nanos ((first.after moves).now + 1)
  announced : ∀ m ∈ first.moments moves, Announced m
  published : (first.after moves).published = (first.after moves).client.session.connection

/-- After its last event a loop sees the end of its channel, and nothing else changes. -/
theorem closing_of_channelClosed {moves : List (Move τ ι)}
    (fit : Throughout (fun l move => l.sendsOpenly move = true) l moves) (fresh : l.queue = [])
    {before after : List (Moment τ ι)} {m : Moment τ ι}
    (whole : l.moments moves = before ++ m :: after) (closes : m.turn = .channelClosed) :
    Closing l moves before m after := by
  obtain ⟨earlier, later, cut⟩ := exists_cut whole
  have next := cut.turn
  rw [closes] at next
  have seen : m.next = { m.loop with listening := false } := by
    rw [Moment.next, closes]
    rfl
  cases next_of_turn? next with
  | channelClosed unhurried _ empty closed =>
    have running : m.next.status = .running := by
      rw [seen]
      exact unhurried.running
    have deaf : m.next.listening = false := by rw [seen]
    have timer : m.next.reconnectAt = m.loop.reconnectAt := by rw [seen]
    have pending (none : times .reconnect after = []) :
        (l.after moves).reconnectAt = m.loop.reconnectAt := by
      rw [← cut.after] at none
      rw [← cut.final, reconnectAt_of_deaf running deaf later none, timer]
    refine ⟨?_, ?_, timer, pending, ?_⟩
    · have openly := fit
      rw [cut.whole] at openly
      have past := (l.given_after earlier).2 (by rw [cut.loop]; exact sound_of_isAlive (isAlive_of_turn? next))
      have order := l.handled_append_queue earlier
      have drained : Drained (l.after earlier) := by
        rw [cut.loop]
        exact ⟨empty, closed⟩
      obtain ⟨rest, -⟩ := drained.after openly.drop
      rw [cut.loop, empty, fresh, List.append_nil, List.nil_append] at order
      rw [← cut.before, past, order, cut.whole, sent_append, rest, List.append_nil]
    · have heard := (m.next.given_after later).1
      rw [handled_of_deaf deaf, cut.after] at heard
      exact List.prefix_nil.mp heard
    · intro instant armed idle reached none
      have unripe := idle.unripe instant ((pending none).trans armed)
      exact Nat.not_le.mpr unripe reached

/-- The client of a loop is given the events that are sent, in their order and once each. All have
come when the loop waits for time to pass and when it sees the end of its channel, which it sees once
and which stops neither its timer nor its ticks. The loop publishes one state behind each event and
one at its end, and what is published is at all times what its client knows of the link. -/
theorem events_delivered (config : LoopConfig) {client : Client τ ι}
    (down : client.session.connection = .disconnected) {moves : List (Move τ ι)}
    (openly : Throughout (fun l move => l.sendsOpenly move = true) (Loop.new config client) moves) :
    Delivers (Loop.new config client) moves := by
  have order := (Loop.new config client).handled_append_queue moves
  obtain ⟨some, all⟩ := (Loop.new config client).given_after moves
  have queue : (Loop.new config client).queue = [] := rfl
  rw [queue, List.nil_append] at order
  refine ⟨?_, ?_, ?_, length_times_channelClosed rfl moves, ?_, ?_, fun m _ => announced m, ?_⟩
  · rw [← order]
    exact some.trans (List.prefix_append _ _)
  · intro sound
    rw [all sound]
    exact order
  · intro idle
    have sound : Sound ((Loop.new config client).after moves) :=
      sound_of_isAlive (isAlive_of_running idle.running)
    have empty : ((Loop.new config client).after moves).queue = [] := by
      rcases idle.quiet with deaf | ⟨empty, -⟩
      · exact (drained_of_deaf rfl openly deaf).empty
      · exact empty
    rw [empty, List.append_nil] at order
    rw [all sound]
    exact order
  · intro before m after whole closes
    exact closing_of_channelClosed openly queue whole closes
  · intro timely idle
    exact (paced_after config client timely).eq_beats idle.toUnhurried
  · exact published_after down.symm moves

/-- A link comes up, a frame and the loss of the link are sent, and the sender goes away. Half a second
after the reconnect nothing is left to do. -/
def lostAtTheEnd : List (Move Memory KeyScript) :=
  [.turn .one, .turn .one, .post .connected, .turn .one, .post (.frame zeroAssign),
    .post .disconnected, .closeChannel, .turn .one, .turn .one, .turn .one, .wait 1500000000,
    .turn .one, .turn .one, .wait 1500000000]

/-- All three events have come, and the reconnect was made after the end of the channel. -/
theorem events_delivered_lostAtTheEnd :
    let first := Loop.new twoAttempts unreported
    let past := first.moments lostAtTheEnd
    given past = [.connected, .frame zeroAssign, .disconnected] ∧
      past.flatMap Moment.publications = [.connected, .connected, .disconnected] ∧
      times .channelClosed past = [0] ∧ times .reconnect past = [1000000000] ∧
      times .tick past = beats 1000000000 1500000001 := by
  intro first past
  have openly : Throughout (fun l move => l.sendsOpenly move = true) first lostAtTheEnd := by
    decide +kernel
  have delivers : Delivers first lostAtTheEnd := events_delivered twoAttempts rfl openly
  have running : (first.after lostAtTheEnd).status = .running := by decide +kernel
  have idle : Idle (first.after lostAtTheEnd) := (turn?_eq_none_iff running).mp (by decide +kernel)
  have timely : ∀ move ∈ lostAtTheEnd, move.isTimely = true := by
    simp [lostAtTheEnd, Move.isTimely]
  refine ⟨?_, by decide +kernel, by decide +kernel, by decide +kernel, ?_⟩
  · rw [delivers.all idle]
    decide +kernel
  · have now : (first.after lostAtTheEnd).now = 1500000000 := by decide +kernel
    have period : first.period.nanos = 1000000000 := by decide +kernel
    rw [delivers.ticks timely idle, now, period]

end Loop

end GameClient
