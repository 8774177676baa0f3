import GameClient.Proofs.Repertoire
import GameClient.Proofs.Requests
import GameClient.Proofs.Runs

/-! # Moments of a loop

A loop takes its turns in its own order: `turn?` says which one is next. Between two turns the world
around it posts events, closes the channel, asks for a stop, acts on the transport and the input, and
lets time pass. A list of moves says what happens one after the other; a turn that finds nothing to
do changes nothing. So the moves need no conditions, and what holds after all of them holds of every
run.

A moment is a turn together with the loop that takes it. The moments of a run tell what the loop did
and when. `Aside` says what may change between them, so an invariant has to be checked for turns and
for `Aside` only. -/

namespace GameClient

namespace Loop

variable {τ ι : Type}

inductive Move (τ ι : Type) where
  /-- The loop takes its next turn, with `draw` as the jitter factor. -/
  | turn (draw : Binary64)
  | post (event : Event)
  | closeChannel
  | requestStop
  /-- Someone else acts on the transport, which may report events. -/
  | disturb (act : τ → List Event × τ)
  | press (input : ι)
  /-- The loop sleeps until the instant or until its next timer, unless it has something to do. -/
  | wait (instant : Nat)
  /-- The clock shows any instant, and ticks may have been missed. -/
  | clock (now nextTick : Nat)

/-- A turn, and the loop that takes it. -/
structure Moment (τ ι : Type) where
  loop : Loop τ ι
  turn : Turn
  draw : Binary64

def Turn.event? : Turn → Option Event
  | event heard => some heard
  | _ => none

/-! ## The order of turns -/

section Order

variable {l : Loop τ ι}

/-- Nothing waits in the channel that the loop would still read, and the channel is open or its end
has been seen. -/
def Quiet (l : Loop τ ι) : Prop := l.listening = false ∨ l.queue = [] ∧ l.hasSenders = true

/-- The loop runs and is asked for nothing more urgent than an event. -/
structure Unhurried (l : Loop τ ι) : Prop where
  running : l.status = .running
  unasked : l.stopRequested = false
  early : l.now < ripeAt l.nextTick

/-- Why a turn is the next one. -/
inductive Next (l : Loop τ ι) : Turn → Prop
  | begin : l.status = .fresh → Next l .begin
  | stop : l.status = .running → l.stopRequested = true → Next l .stop
  | tick : l.status = .running → l.stopRequested = false → ripeAt l.nextTick ≤ l.now → Next l .tick
  | event {event : Event} {rest : List Event} : Unhurried l → l.listening = true →
      l.queue = event :: rest → Next l (.event event)
  | channelClosed : Unhurried l → l.listening = true → l.queue = [] → l.hasSenders = false →
      Next l .channelClosed
  | reconnect {instant : Nat} : Unhurried l → Quiet l → l.reconnectAt = some instant →
      ripeAt instant ≤ l.now → Next l .reconnect

theorem channelTurn?_eq_none : l.channelTurn? = none ↔ Quiet l := by
  unfold channelTurn? Quiet
  cases l.listening <;> cases l.queue <;> cases l.hasSenders <;> simp

theorem next_of_turn? {turn : Turn} (h : l.turn? = some turn) : Next l turn := by
  unfold turn? at h
  split at h
  · cases h
  · cases h
  · next fresh =>
    cases h
    exact .begin fresh
  · next running =>
    split at h
    · next asked =>
      cases h
      exact .stop running asked
    next unasked =>
    split at h
    · next due =>
      cases h
      exact .tick running (by simpa using unasked) due
    next early =>
    have unhurried : Unhurried l := ⟨running, by simpa using unasked, by simpa using early⟩
    rcases Option.or_eq_some_iff.mp h with channel | ⟨quiet, timer⟩
    · unfold channelTurn? at channel
      split at channel
      · cases channel
      next listening =>
      split at channel
      · next waits =>
        cases channel
        exact .event unhurried (by simpa using listening) waits
      · next empty =>
        split at channel
        · cases channel
        · next closed =>
          cases channel
          exact .channelClosed unhurried (by simpa using listening) empty (by simpa using closed)
    · unfold reconnectTurn? at timer
      split at timer
      · next armed =>
        split at timer
        · next ripe =>
          cases timer
          exact .reconnect unhurried (channelTurn?_eq_none.mp quiet) armed ripe
        · cases timer
      · cases timer

/-- A running loop that has nothing to do waits for its timers or for news. -/
structure Idle (l : Loop τ ι) : Prop extends Unhurried l where
  quiet : Quiet l
  unripe : ∀ instant, l.reconnectAt = some instant → l.now < ripeAt instant

theorem turn?_eq_none_iff (running : l.status = .running) : l.turn? = none ↔ Idle l := by
  constructor
  · intro nothing
    simp only [turn?, running] at nothing
    split at nothing
    · cases nothing
    next unasked =>
    split at nothing
    · cases nothing
    next early =>
    obtain ⟨channel, timer⟩ := Option.or_eq_none_iff.mp nothing
    refine ⟨⟨running, by simpa using unasked, by simpa using early⟩,
      channelTurn?_eq_none.mp channel, ?_⟩
    intro instant armed
    simpa [reconnectTurn?, armed] using timer
  · rintro ⟨⟨-, unasked, early⟩, quiet, unripe⟩
    have none : l.reconnectTurn? = none := by
      unfold reconnectTurn?
      split
      · next instant armed => exact if_neg (Nat.not_le.mpr (unripe instant armed))
      · rfl
    simp [turn?, running, unasked, Nat.not_le.mpr early, channelTurn?_eq_none.mpr quiet, none]

theorem turn?_of_ended (ended : l.isAlive = false) : l.turn? = none := by
  unfold isAlive at ended
  unfold turn?
  split <;> simp_all

theorem isAlive_of_turn? {turn : Turn} (next : l.turn? = some turn) : l.isAlive = true := by
  cases alive : l.isAlive with
  | true => rfl
  | false =>
    rw [turn?_of_ended alive] at next
    cases next

theorem idle_of_isAlive (alive : l.isAlive = true) (nothing : l.turn? = none) : Idle l := by
  refine (turn?_eq_none_iff ?_).mp nothing
  cases status : l.status with
  | running => rfl
  | fresh =>
    rw [turn?, status] at nothing
    cases nothing
  | stopped =>
    rw [isAlive, status] at alive
    cases alive
  | failed fault =>
    rw [isAlive, status] at alive
    cases alive

theorem turn?_of_asked (running : l.status = .running) (asked : l.stopRequested = true) :
    l.turn? = some .stop := by
  simp [turn?, running, asked]

end Order

/-! ## Attempts and timers -/

section Timer

variable {l : Loop τ ι}

/-- What can come of arming the timer. -/
inductive Scheduling (draw : Binary64) (l : Loop τ ι) : Loop τ ι × List Effect → Prop
  | off : l.backoff = none → Scheduling draw l ({ l with reconnectAt := none }, [])
  | exhausted {backoff : Backoff} : l.backoff = some backoff → backoff.isExhausted = true →
      Scheduling draw l
        ({ l with reconnectAt := none }, [.note (.attemptsExhausted backoff.attempts)])
  | armed {backoff later : Backoff} {delay : Duration} : l.backoff = some backoff →
      backoff.next draw = (.wait delay, later) →
      Scheduling draw l
        ({ l with backoff := some later, reconnectAt := some (l.now + delay.nanos) },
          [.note (.reconnectScheduled later.attempts delay)])
  | failed (fault : Fault) {backoff later : Backoff} {outcome : Backoff.Outcome}
      {effects : List Effect} : l.backoff = some backoff → backoff.next draw = (outcome, later) →
      outcome ≠ .exhausted →
      (∀ delay, outcome = .wait delay → instantLimit ≤ l.now + delay.nanos) →
      (∀ count, .note (.attemptsExhausted count) ∉ effects) →
      Scheduling draw l ({ l with backoff := some later }.fail fault, effects)

theorem scheduling (draw : Binary64) (l : Loop τ ι) : Scheduling draw l (l.schedule draw) := by
  unfold schedule
  split
  · next off => exact .off off
  next backoff held =>
  split
  · next asked =>
    have refused : (backoff.next draw).1 = .exhausted := congrArg Prod.fst asked
    exact .exhausted held ((backoff.isExhausted_iff Duration.scale? draw).mpr refused)
  · next later asked => exact .failed .delayOverflow held asked nofun nofun (by simp)
  · next delay later asked =>
    dsimp only
    split
    · next beyond =>
      refine .failed .instantOverflow held asked nofun ?_ (by simp)
      rintro _ ⟨⟩
      exact beyond
    · exact .armed held asked

theorem status_schedule (draw : Binary64) (l : Loop τ ι) :
    (l.schedule draw).1.status = l.status ∨ ∃ fault, (l.schedule draw).1.status = .failed fault := by
  have result := l.scheduling draw
  generalize l.schedule draw = scheduled at *
  cases result with
  | failed fault => exact .inr ⟨fault, rfl⟩
  | _ => exact .inl rfl

/-- All is as before, but for the timer, the backoff and the status. -/
structure Kept (l l' : Loop τ ι) : Prop where
  client : l'.client = l.client
  period : l'.period = l.period
  now : l'.now = l.now
  nextTick : l'.nextTick = l.nextTick
  queue : l'.queue = l.queue
  hasSenders : l'.hasSenders = l.hasSenders
  listening : l'.listening = l.listening
  stopRequested : l'.stopRequested = l.stopRequested

theorem Kept.refl (l : Loop τ ι) : Kept l l := ⟨rfl, rfl, rfl, rfl, rfl, rfl, rfl, rfl⟩

theorem kept_schedule (draw : Binary64) (l : Loop τ ι) : Kept l (l.schedule draw).1 := by
  have result := l.scheduling draw
  generalize l.schedule draw = scheduled at *
  cases result <;> exact ⟨rfl, rfl, rfl, rfl, rfl, rfl, rfl, rfl⟩

/-- A loop that fails leaves its timer as it was. -/
theorem reconnectAt_schedule {draw : Binary64} (failed : (l.schedule draw).1.status ≠ l.status) :
    (l.schedule draw).1.reconnectAt = l.reconnectAt := by
  have result := l.scheduling draw
  generalize l.schedule draw = scheduled at *
  cases result with
  | failed => rfl
  | _ => exact absurd rfl failed

theorem kept_heed (draw : Binary64) (l : Loop τ ι) (event : Event) :
    Kept l (l.heed draw event).1 := by
  cases event with
  | connected => exact ⟨rfl, rfl, rfl, rfl, rfl, rfl, rfl, rfl⟩
  | disconnected => exact l.kept_schedule draw
  | frame bytes => exact .refl l

/-- What the loop makes of the answer to an attempt to connect. -/
def react (draw : Binary64) (why : TransportError → Notice) (l : Loop τ ι) :
    Answer → Loop τ ι × List Effect
  | .accepted => (l, [])
  | .refused error => ((l.schedule draw).1, .note (why error) :: (l.schedule draw).2)

theorem status_react (draw : Binary64) (why : TransportError → Notice) (l : Loop τ ι)
    (answer : Answer) : (l.react draw why answer).1.status = l.status ∨
      ∃ fault, (l.react draw why answer).1.status = .failed fault := by
  cases answer with
  | accepted => exact .inl rfl
  | refused error => exact l.status_schedule draw

theorem kept_react (draw : Binary64) (why : TransportError → Notice) (l : Loop τ ι)
    (answer : Answer) : Kept l (l.react draw why answer).1 := by
  cases answer with
  | accepted => exact .refl l
  | refused error => exact l.kept_schedule draw

variable [Transport τ]

/-- The loop when it has asked for its first link. -/
def begun (l : Loop τ ι) : Loop τ ι :=
  { l.adopt l.client.start.2.1 l.client.start.2.2 with status := .running, nextTick := l.now }

/-- The loop when it has asked for a new link. -/
def retried (l : Loop τ ι) : Loop τ ι :=
  { l.adopt l.client.reconnect.2.1 l.client.reconnect.2.2 with reconnectAt := none }

theorem reported_connect (c : Client τ ι) :
    c.connect.2.2.filterMap Effect.reported? = (Transport.connect c.transport).2.1 :=
  (List.filterMap_map (f := Effect.report)).trans List.filterMap_some

theorem queue_begun (l : Loop τ ι) :
    l.begun.queue = l.queue ++ (Transport.connect l.client.transport).2.1 :=
  congrArg (l.queue ++ ·) (reported_connect { l.client with tornDown := false })

theorem queue_retried (l : Loop τ ι) :
    l.retried.queue = l.queue ++ (Transport.connect l.client.transport).2.1 :=
  congrArg (l.queue ++ ·) (reported_connect l.client)

theorem begin_eq (draw : Binary64) (l : Loop τ ι) :
    l.begin draw =
      let (m, more) := l.begun.react draw .firstConnectRefused l.client.start.1
      if m.status = .running ∧ m.period.nanos = 0 then
        (m.fail .zeroPeriod, l.client.start.2.2 ++ more)
      else (m, l.client.start.2.2 ++ more) := by
  unfold Loop.begin begun
  generalize l.client.start = started
  obtain ⟨answer, client, effects⟩ := started
  cases answer <;> rfl

theorem reconnect_eq (draw : Binary64) (l : Loop τ ι) :
    l.reconnect draw =
      let (m, more) := l.retried.react draw .reconnectRefused l.client.reconnect.1
      (m, l.client.reconnect.2.2 ++ more) := by
  unfold Loop.reconnect retried
  generalize l.client.reconnect = asked
  obtain ⟨answer, client, effects⟩ := asked
  cases answer with
  | accepted => simp [react]
  | refused error => rfl

/-- All is as before, but for the client and what is published. -/
structure Heard (l l' : Loop τ ι) : Prop where
  period : l'.period = l.period
  backoff : l'.backoff = l.backoff
  status : l'.status = l.status
  now : l'.now = l.now
  nextTick : l'.nextTick = l.nextTick
  reconnectAt : l'.reconnectAt = l.reconnectAt
  queue : l'.queue = l.queue
  hasSenders : l'.hasSenders = l.hasSenders
  listening : l'.listening = l.listening
  stopRequested : l'.stopRequested = l.stopRequested

/-- The loop heeds an event before its client hears of it. -/
theorem heard (draw : Binary64) (l : Loop τ ι) (event : Event) :
    Heard ({ l with queue := l.queue.tail }.heed draw event).1 (l.handle draw event).1 := by
  rw [handle_eq]
  dsimp only
  split <;> exact ⟨rfl, rfl, rfl, rfl, rfl, rfl, rfl, rfl, rfl, rfl⟩

theorem status_handle (draw : Binary64) (l : Loop τ ι) (event : Event) :
    (l.handle draw event).1.status = l.status ∨
      ∃ fault, (l.handle draw event).1.status = .failed fault := by
  rw [(l.heard draw event).status]
  cases event with
  | connected => exact .inl rfl
  | disconnected => exact status_schedule draw _
  | frame bytes => exact .inl rfl

variable [Sampler ι]

/-- All turns but a stop leave the loop running, unless it fails. -/
theorem status_perform {turn : Turn} (next : l.turn? = some turn) (draw : Binary64) :
    (turn = .stop ∧ (l.perform draw turn).1.status = .stopped) ∨
    (turn ≠ .stop ∧ (l.perform draw turn).1.status = .running) ∨
    ∃ fault, (l.perform draw turn).1.status = .failed fault := by
  cases next_of_turn? next with
  | begin _ =>
    refine .inr ?_
    simp only [perform, begin_eq]
    split
    · exact .inr ⟨.zeroPeriod, rfl⟩
    · rcases l.begun.status_react draw .firstConnectRefused l.client.start.1 with same | failed
      · exact .inl ⟨nofun, same⟩
      · exact .inr failed
  | stop _ _ => exact .inl ⟨rfl, rfl⟩
  | tick running _ _ => exact .inr (.inl ⟨nofun, running⟩)
  | event unhurried _ _ =>
    rcases l.status_handle draw _ with same | failed
    · exact .inr (.inl ⟨nofun, same.trans unhurried.running⟩)
    · exact .inr (.inr failed)
  | channelClosed unhurried _ _ _ => exact .inr (.inl ⟨nofun, unhurried.running⟩)
  | reconnect unhurried _ _ _ =>
    refine .inr ?_
    simp only [perform, reconnect_eq]
    rcases l.retried.status_react draw .reconnectRefused l.client.reconnect.1 with same | failed
    · exact .inl ⟨nofun, same.trans unhurried.running⟩
    · exact .inr failed

theorem running_perform {turn : Turn} (next : l.turn? = some turn) (draw : Binary64)
    (alive : (l.perform draw turn).1.isAlive = true) :
    (l.perform draw turn).1.status = .running := by
  rcases status_perform next draw with ⟨-, stopped⟩ | ⟨-, running⟩ | ⟨fault, failed⟩
  · rw [isAlive, stopped] at alive
    cases alive
  · exact running
  · rw [isAlive, failed] at alive
    cases alive

theorem status_perform_ne_fresh {turn : Turn} (next : l.turn? = some turn) (draw : Binary64) :
    (l.perform draw turn).1.status ≠ .fresh := by
  intro fresh
  rcases status_perform next draw with ⟨-, ended⟩ | ⟨-, ended⟩ | ⟨fault, ended⟩
  all_goals cases fresh.symm.trans ended

/-- When the tick after the turn is due. -/
def tickAfter (l : Loop τ ι) : Turn → Nat
  | .begin => l.now
  | .tick => l.nextTick + l.period.nanos
  | _ => l.nextTick

/-- What a turn makes of the clock and of what is asked of the loop. -/
structure Situated (l : Loop τ ι) (turn : Turn) (l' : Loop τ ι) : Prop where
  period : l'.period = l.period
  now : l'.now = l.now
  nextTick : l'.nextTick = l.tickAfter turn
  hasSenders : l'.hasSenders = l.hasSenders
  listening : turn ≠ .channelClosed → l'.listening = l.listening
  stopRequested : l'.stopRequested = l.stopRequested

theorem situated_perform (draw : Binary64) (l : Loop τ ι) (turn : Turn) :
    Situated l turn (l.perform draw turn).1 := by
  cases turn with
  | begin =>
    have kept := l.begun.kept_react draw .firstConnectRefused l.client.start.1
    simp only [perform, begin_eq]
    split <;> exact ⟨kept.period, kept.now, kept.nextTick, kept.hasSenders,
      fun _ => kept.listening, kept.stopRequested⟩
  | stop => exact ⟨rfl, rfl, rfl, rfl, fun _ => rfl, rfl⟩
  | tick => exact ⟨rfl, rfl, rfl, rfl, fun _ => rfl, rfl⟩
  | event event =>
    have kept := kept_heed draw { l with queue := l.queue.tail } event
    have heard := l.heard draw event
    exact ⟨heard.period.trans kept.period, heard.now.trans kept.now,
      heard.nextTick.trans kept.nextTick, heard.hasSenders.trans kept.hasSenders,
      fun _ => heard.listening.trans kept.listening, heard.stopRequested.trans kept.stopRequested⟩
  | channelClosed => exact ⟨rfl, rfl, rfl, rfl, fun other => absurd rfl other, rfl⟩
  | reconnect =>
    have kept := l.retried.kept_react draw .reconnectRefused l.client.reconnect.1
    rw [perform, reconnect_eq]
    exact ⟨kept.period, kept.now, kept.nextTick, kept.hasSenders, fun _ => kept.listening,
      kept.stopRequested⟩

end Timer

/-! ## What happens around a loop -/

/-- Sleeps, but not past a timer. -/
def sleep (l : Loop τ ι) (instant : Nat) : Loop τ ι :=
  match l.turn?, l.nextWake? with
  | some _, _ => l
  | none, some wake => { l with now := max l.now (min instant wake) }
  | none, none => { l with now := max l.now instant }

/-- The loop has only been acted upon from outside: its transport and its input may be in any
state, time may have passed, and events may wait, unless the loop has ended. -/
structure Aside (l l' : Loop τ ι) : Prop where
  session : l'.client.session = l.client.session
  actors : l'.client.actors = l.client.actors
  tornDown : l'.client.tornDown = l.client.tornDown
  period : l'.period = l.period
  backoff : l'.backoff = l.backoff
  status : l'.status = l.status
  reconnectAt : l'.reconnectAt = l.reconnectAt
  listening : l'.listening = l.listening
  published : l'.published = l.published
  asked : l.stopRequested = true → l'.stopRequested = true

theorem Aside.refl (l : Loop τ ι) : Aside l l :=
  ⟨rfl, rfl, rfl, rfl, rfl, rfl, rfl, rfl, rfl, id⟩

theorem aside_post (l : Loop τ ι) (event : Event) : Aside l (l.post event).2 := by
  unfold post
  split
  · exact ⟨rfl, rfl, rfl, rfl, rfl, rfl, rfl, rfl, rfl, id⟩
  · exact .refl l

theorem aside_disturb (l : Loop τ ι) (act : τ → List Event × τ) : Aside l (l.disturb act) := by
  unfold disturb
  dsimp only
  split <;> exact ⟨rfl, rfl, rfl, rfl, rfl, rfl, rfl, rfl, rfl, id⟩

theorem aside_sleep (l : Loop τ ι) (instant : Nat) : Aside l (l.sleep instant) := by
  unfold sleep
  split <;> exact ⟨rfl, rfl, rfl, rfl, rfl, rfl, rfl, rfl, rfl, id⟩

/-! ## Moves -/

variable [Transport τ] [Sampler ι]

def Moment.effects (m : Moment τ ι) : List Effect := (m.loop.perform m.draw m.turn).2

def Moment.next (m : Moment τ ι) : Loop τ ι := (m.loop.perform m.draw m.turn).1

/-- The moment of a move, if the loop takes a turn in it. -/
def moment? (l : Loop τ ι) : Move τ ι → Option (Moment τ ι)
  | .turn draw => l.turn?.map fun turn => ⟨l, turn, draw⟩
  | _ => none

def move (l : Loop τ ι) : Move τ ι → Loop τ ι
  | .turn draw => match l.turn? with
    | some turn => (l.perform draw turn).1
    | none => l
  | .post event => (l.post event).2
  | .closeChannel => l.closeChannel
  | .requestStop => l.requestStop
  | .disturb act => l.disturb act
  | .press input => { l with client := { l.client with input } }
  | .wait instant => l.sleep instant
  | .clock now nextTick => { l with now, nextTick }

def after : Loop τ ι → List (Move τ ι) → Loop τ ι
  | l, [] => l
  | l, move :: moves => (l.move move).after moves

/-- The turns that the loop takes in the course of the moves. -/
def moments : Loop τ ι → List (Move τ ι) → List (Moment τ ι)
  | _, [] => []
  | l, move :: moves => (l.moment? move).toList ++ (l.move move).moments moves

/-- All that the loop does in the course of the moves. -/
def doings (l : Loop τ ι) (moves : List (Move τ ι)) : List Effect :=
  (l.moments moves).flatMap Moment.effects

variable {l : Loop τ ι}

theorem after_append (l : Loop τ ι) (moves more : List (Move τ ι)) :
    l.after (moves ++ more) = (l.after moves).after more := by
  induction moves generalizing l with
  | nil => rfl
  | cons move moves ih => exact ih _

theorem moments_append (l : Loop τ ι) (moves more : List (Move τ ι)) :
    l.moments (moves ++ more) = l.moments moves ++ (l.after moves).moments more := by
  induction moves generalizing l with
  | nil => rfl
  | cons move moves ih =>
    rw [List.cons_append, moments, moments, ih, List.append_assoc]
    rfl

theorem move_turn {turn : Turn} (next : l.turn? = some turn) (draw : Binary64) :
    l.move (.turn draw) = (l.perform draw turn).1 := by
  simp only [move, next]

theorem move_turn_of_none {draw : Binary64} (none : l.moment? (.turn draw) = none) :
    l.move (.turn draw) = l := by
  have nothing : l.turn? = Option.none := Option.map_eq_none_iff.mp none
  simp only [move, nothing]

theorem moments_turn {turn : Turn} (next : l.turn? = some turn) (draw : Binary64)
    (moves : List (Move τ ι)) :
    l.moments (.turn draw :: moves) = ⟨l, turn, draw⟩ :: (l.perform draw turn).1.moments moves := by
  simp [moments, moment?, next, move_turn next]

theorem doings_turn {turn : Turn} (next : l.turn? = some turn) (draw : Binary64)
    (moves : List (Move τ ι)) :
    l.doings (.turn draw :: moves) =
      (l.perform draw turn).2 ++ (l.perform draw turn).1.doings moves := by
  simp [doings, moments_turn next, Moment.effects]

/-- What is no turn happens around the loop. -/
theorem aside_move {move : Move τ ι} (none : l.moment? move = none) : Aside l (l.move move) := by
  cases move with
  | turn draw =>
    rw [move_turn_of_none none]
    exact .refl l
  | post event => exact aside_post l event
  | closeChannel => exact ⟨rfl, rfl, rfl, rfl, rfl, rfl, rfl, rfl, rfl, id⟩
  | requestStop => exact ⟨rfl, rfl, rfl, rfl, rfl, rfl, rfl, rfl, rfl, fun _ => rfl⟩
  | disturb act => exact aside_disturb l act
  | press input => exact ⟨rfl, rfl, rfl, rfl, rfl, rfl, rfl, rfl, rfl, id⟩
  | wait instant => exact aside_sleep l instant
  | clock now nextTick => exact ⟨rfl, rfl, rfl, rfl, rfl, rfl, rfl, rfl, rfl, id⟩

theorem moments_of_ended (ended : l.isAlive = false) (moves : List (Move τ ι)) :
    l.moments moves = [] := by
  induction moves generalizing l with
  | nil => rfl
  | cons move moves ih =>
    have none : l.moment? move = none := by
      cases move with
      | turn draw => rw [moment?, turn?_of_ended ended, Option.map_none]
      | _ => rfl
    rw [moments, none, Option.toList_none, List.nil_append]
    refine ih ?_
    rw [isAlive, (aside_move none).status]
    exact ended

/-- One of the moments of a run, with the moves before it and behind it. -/
structure Cut (l : Loop τ ι) (moves : List (Move τ ι)) (before : List (Moment τ ι))
    (m : Moment τ ι) (after : List (Moment τ ι)) (earlier later : List (Move τ ι)) : Prop where
  whole : moves = earlier ++ .turn m.draw :: later
  before : l.moments earlier = before
  loop : l.after earlier = m.loop
  turn : m.loop.turn? = some m.turn
  after : m.next.moments later = after
  final : m.next.after later = l.after moves

/-- Each moment of a run is one in which the loop, as its past has left it, takes its next turn. -/
theorem exists_cut {moves : List (Move τ ι)} {before after : List (Moment τ ι)} {m : Moment τ ι}
    (listed : l.moments moves = before ++ m :: after) :
    ∃ earlier later, Cut l moves before m after earlier later := by
  induction moves generalizing l before with
  | nil => simp [moments] at listed
  | cons move moves ih =>
    rw [moments] at listed
    cases first : l.moment? move with
    | none =>
      rw [first, Option.toList_none, List.nil_append] at listed
      obtain ⟨earlier, later, cut⟩ := ih listed
      refine ⟨move :: earlier, later, by rw [cut.whole, List.cons_append], ?_, cut.loop, cut.turn,
        cut.after, cut.final⟩
      rw [moments, first, Option.toList_none, List.nil_append, cut.before]
    | some now =>
      rw [first, Option.toList_some, List.singleton_append] at listed
      cases move with
      | turn draw =>
        obtain ⟨turn, next, rfl⟩ := Option.map_eq_some_iff.mp first
        cases before with
        | nil =>
          obtain ⟨rfl, rest⟩ := List.cons.inj listed
          rw [move_turn next] at rest
          refine ⟨[], moves, rfl, rfl, rfl, next, rest, ?_⟩
          exact congrArg (Loop.after · moves) (move_turn next draw).symm
        | cons _ before =>
          obtain ⟨rfl, rest⟩ := List.cons.inj listed
          obtain ⟨earlier, later, cut⟩ := ih rest
          refine ⟨.turn draw :: earlier, later, by rw [cut.whole, List.cons_append], ?_, cut.loop,
            cut.turn, cut.after, cut.final⟩
          rw [moments, first, Option.toList_some, List.singleton_append, cut.before]
      | _ => cases first

/-! ## Invariants of runs -/

/-- Each move fits the loop when it is made. -/
def Throughout (fits : Loop τ ι → Move τ ι → Prop) : Loop τ ι → List (Move τ ι) → Prop
  | _, [] => True
  | l, move :: moves => fits l move ∧ Throughout fits (l.move move) moves

instance decidableThroughout (fits : Loop τ ι → Move τ ι → Prop)
    [∀ l move, Decidable (fits l move)] :
    (l : Loop τ ι) → (moves : List (Move τ ι)) → Decidable (Throughout fits l moves)
  | _, [] => inferInstanceAs (Decidable True)
  | l, move :: moves =>
    have := decidableThroughout fits (l.move move) moves
    inferInstanceAs (Decidable (fits l move ∧ Throughout fits (l.move move) moves))

theorem throughout_of_forall {fits : Loop τ ι → Move τ ι → Prop} {moves : List (Move τ ι)}
    (all : ∀ move ∈ moves, ∀ l, fits l move) (l : Loop τ ι) : Throughout fits l moves := by
  induction moves generalizing l with
  | nil => trivial
  | cons move moves ih =>
    obtain ⟨first, rest⟩ := List.forall_mem_cons.mp all
    exact ⟨first l, ih rest _⟩

theorem Throughout.drop {fits : Loop τ ι → Move τ ι → Prop} {earlier later : List (Move τ ι)}
    (fit : Throughout fits l (earlier ++ later)) : Throughout fits (l.after earlier) later := by
  induction earlier generalizing l with
  | nil => exact fit
  | cons move earlier ih => exact ih fit.2

theorem forall_of_throughout {fits : Loop τ ι → Move τ ι → Prop} {p : Move τ ι → Prop}
    (each : ∀ l move, fits l move → p move) {moves : List (Move τ ι)}
    (fit : Throughout fits l moves) : ∀ move ∈ moves, p move := by
  induction moves generalizing l with
  | nil => exact nofun
  | cons move moves ih =>
    obtain ⟨now, later⟩ := fit
    exact List.forall_mem_cons.mpr ⟨each l move now, ih later⟩

/-- What every turn keeps of the past and of the loop, and every move around it, holds after all
moves that fit. -/
theorem history_throughout (fits : Loop τ ι → Move τ ι → Prop)
    {P : List (Moment τ ι) → Loop τ ι → Prop}
    (turn : ∀ past l turn draw, P past l → fits l (.turn draw) → l.turn? = some turn →
      P (past ++ [⟨l, turn, draw⟩]) (l.perform draw turn).1)
    (aside : ∀ past l move, P past l → fits l move → l.moment? move = none → P past (l.move move))
    (past : List (Moment τ ι)) (h : P past l) {moves : List (Move τ ι)}
    (fit : Throughout fits l moves) : P (past ++ l.moments moves) (l.after moves) := by
  induction moves generalizing past l with
  | nil =>
    rw [moments, List.append_nil]
    exact h
  | cons move moves ih =>
    obtain ⟨now, later⟩ := fit
    rw [moments, ← List.append_assoc, after]
    refine ih _ ?_ later
    cases moment : l.moment? move with
    | none =>
      rw [Option.toList_none, List.append_nil]
      exact aside past l move h now moment
    | some m =>
      cases move with
      | turn draw =>
        obtain ⟨next, may, rfl⟩ := Option.map_eq_some_iff.mp moment
        rw [move_turn may]
        exact turn past l next draw h now may
      | _ => cases moment

/-- The same for all moves. -/
theorem history_after {P : List (Moment τ ι) → Loop τ ι → Prop}
    (turn : ∀ past l turn draw, P past l → l.turn? = some turn →
      P (past ++ [⟨l, turn, draw⟩]) (l.perform draw turn).1)
    (aside : ∀ past l l', P past l → Aside l l' → P past l') (past : List (Moment τ ι))
    (h : P past l) (moves : List (Move τ ι)) : P (past ++ l.moments moves) (l.after moves) := by
  refine history_throughout (fun _ _ => True) ?_ ?_ past h
    (throughout_of_forall (fun _ _ _ => trivial) l)
  · exact fun past l next draw h _ may => turn past l next draw h may
  · exact fun past l move h _ none => aside past l _ h (aside_move none)

/-- The same for a value that is computed from the past. -/
theorem fold_moments {α : Type} {f : α → Moment τ ι → α} {P : α → Loop τ ι → Prop}
    (turn : ∀ a l turn draw, P a l → l.turn? = some turn →
      P (f a ⟨l, turn, draw⟩) (l.perform draw turn).1)
    (aside : ∀ a l l', P a l → Aside l l' → P a l') {a : α} (h : P a l) (moves : List (Move τ ι)) :
    P ((l.moments moves).foldl f a) (l.after moves) := by
  refine history_after (P := fun past l => P (past.foldl f a) l) ?_ ?_ [] h moves
  · intro past l next draw h may
    rw [List.foldl_append]
    exact turn _ l next draw h may
  · exact fun past => aside _

theorem invariant_after {P : Loop τ ι → Prop}
    (turn : ∀ l turn draw, P l → l.turn? = some turn → P (l.perform draw turn).1)
    (aside : ∀ l l', P l → Aside l l' → P l') (h : P l) (moves : List (Move τ ι)) :
    P (l.after moves) :=
  history_after (P := fun _ l => P l) (fun _ l next draw => turn l next draw)
    (fun _ => aside) [] h moves

end Loop

end GameClient
