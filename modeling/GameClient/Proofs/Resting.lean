import GameClient.Proofs.Agreement
import GameClient.Proofs.Schedule
import Mathlib.Algebra.GroupWithZero.Nat

/-! # Coming to rest

A loop over a link in memory that is left alone comes to rest at once: at any instant it takes only so
many turns before it has to wait. Ticks are apart, but with delays of zero a reconnect can be due as
soon as its timer is armed, and a link that comes up renews the backoff, so no single count falls with
every turn. What falls is a sum, which is called exertion here.

The link is asked by the loop alone, so it takes every connect that comes to it or loses every one.
While it loses them, reconnects are paid for by the attempts that are left, as in an outage, and the
attempts are renewed only by news of links that already wait; these pay for them. While it takes them,
a reconnect that is refused uses up an answer of the gate, one that is not brings a link up, and only
a loss that already waits can arm the timer again. -/

namespace GameClient

namespace Loop

variable {ι : Type} {l l' m : Loop (Gated Memory) ι}

/-- The attempts between two links. -/
def allowance : Option Backoff → Nat
  | some b => b.policy.maxAttempts.toNat
  | none => 0

/-- The link loses every connect that comes to it. -/
def refuses (l : Loop (Gated Memory) ι) : Bool := l.client.transport.inner.refusesConnects

/-- What it can cost to arm the timer, beyond the attempts that are left. -/
def arming (refuses : Bool) : Nat := if refuses then 0 else 2

/-- The turns that an event can cost. -/
def toll (refuses : Bool) (attempts : Nat) : Event → Nat
  | .connected => if refuses then 3 * attempts + 1 else 1
  | .disconnected => arming refuses + 1
  | .frame _ => 1

/-- What the attempts can still cost. -/
def courage (l : Loop (Gated Memory) ι) : Nat :=
  if l.refuses then l.budget else l.client.transport.answers.length + 2 * l.pending

/-- The turns that events and attempts can cost. -/
def load (l : Loop (Gated Memory) ι) : Nat :=
  (l.queue.map (toll l.refuses (allowance l.backoff))).sum + l.courage

/-- The ticks that can be due, and what the start can cost. -/
def overdue (l : Loop (Gated Memory) ι) : Nat :=
  match l.status with
  | .fresh => 3
  | _ => l.now + 1 - l.nextTick

/-- A bound for the turns at this instant. -/
def exertion (l : Loop (Gated Memory) ι) : Nat :=
  if l.isAlive then 1 + l.overdue + (if l.listening then 1 else 0) + l.load else 0

/-! ## Events and attempts -/

theorem allowance_schedule {τ ι : Type} (draw : Binary64) (l : Loop τ ι) :
    allowance (l.schedule draw).1.backoff = allowance l.backoff := by
  have result := l.scheduling draw
  generalize l.schedule draw = scheduled at *
  cases result with
  | off => rfl
  | exhausted => rfl
  | armed held asked =>
    obtain ⟨policy, -⟩ := Backoff.counted_of_next asked nofun
    rw [held, allowance, allowance, policy]
  | failed _ held asked granted =>
    obtain ⟨policy, -⟩ := Backoff.counted_of_next asked granted
    rw [held]
    exact congrArg (fun policy : Backoff.Policy => policy.maxAttempts.toNat) policy

theorem pending_le_one {τ ι : Type} (l : Loop τ ι) : l.pending ≤ 1 := by
  unfold pending
  split <;> omega

theorem load_schedule (draw : Binary64) (l : Loop (Gated Memory) ι) :
    (l.schedule draw).1.load ≤ l.load + arming l.refuses := by
  have kept := l.kept_schedule draw
  have same : (l.schedule draw).1.refuses = l.refuses := by rw [refuses, kept.client, refuses]
  have budget := budget_schedule draw l
  have bound := (l.schedule draw).1.pending_le_one
  rw [load, load, kept.queue, same, allowance_schedule, courage, courage, same, kept.client]
  cases l.refuses with
  | true =>
    simp only [arming, if_true]
    omega
  | false =>
    simp only [arming, Bool.false_eq_true, if_false]
    omega

theorem load_eq (refuses : l'.refuses = l.refuses)
    (answers : l'.client.transport.answers = l.client.transport.answers)
    (backoff : l'.backoff = l.backoff) (reconnectAt : l'.reconnectAt = l.reconnectAt)
    (queue : l'.queue = l.queue) : l'.load = l.load := by
  simp only [load, courage, budget, pending, refuses, answers, backoff, reconnectAt, queue]

theorem load_of_waits {event : Event} {rest : List Event} (waits : l.queue = event :: rest) :
    l.load = { l with queue := rest }.load + toll l.refuses (allowance l.backoff) event := by
  have rest_load : { l with queue := rest }.load =
      (rest.map (toll l.refuses (allowance l.backoff))).sum + l.courage := rfl
  rw [rest_load, load, waits, List.map_cons, List.sum_cons]
  omega

/-- A link that came up pays for the attempts that it renews. -/
theorem load_renewed (l : Loop (Gated Memory) ι) :
    { l with backoff := l.backoff.map .reset, reconnectAt := none }.load <
      l.load + toll l.refuses (allowance l.backoff) .connected := by
  have allowed : allowance (l.backoff.map .reset) = allowance l.backoff := by
    cases l.backoff <;> rfl
  have renewed : spare (l.backoff.map .reset) = allowance l.backoff := by
    cases l.backoff <;> rfl
  have same : { l with backoff := l.backoff.map .reset, reconnectAt := none }.refuses = l.refuses :=
    rfl
  simp only [load, courage, budget, pending, same, allowed, renewed, toll]
  cases l.refuses with
  | true =>
    simp only [if_true, Option.isSome_none, Bool.false_eq_true, if_false]
    omega
  | false =>
    simp only [Bool.false_eq_true, Option.isSome_none, if_false]
    omega

/-- To heed an event costs less than what it is counted for. -/
theorem load_heed {event : Event} {rest : List Event} (waits : l.queue = event :: rest)
    (draw : Binary64) : ({ l with queue := l.queue.tail }.heed draw event).1.load < l.load := by
  have shorter : l.queue.tail = rest := by rw [waits, List.tail_cons]
  rw [shorter, load_of_waits waits]
  cases event with
  | connected => exact load_renewed { l with queue := rest }
  | disconnected =>
    have scheduled := load_schedule draw { l with queue := rest }
    have same : { l with queue := rest }.refuses = l.refuses := rfl
    rw [heed, toll, ← same]
    omega
  | frame bytes => exact Nat.lt_succ_self _

/-- A connect that comes to the link is reported at most once, by an event that costs one turn. -/
theorem sum_toll_connect (m : Memory) (attempts : Nat) :
    (m.connect.2.1.map (toll m.refusesConnects attempts)).sum ≤ 1 := by
  rw [Memory.connect, Memory.report]
  cases m.reports <;> cases m.refusesConnects <;> simp [toll, arming]

/-- What a connect can cost. One that is refused uses up an answer of the gate or an attempt, and one
that is taken is reported once. -/
theorem load_react (transport : m.client.transport = (Transport.connect l.client.transport).2.2)
    (queue : m.queue = l.queue ++ (Transport.connect l.client.transport).2.1)
    (backoff : m.backoff = l.backoff) (draw : Binary64) (why : TransportError → Notice) :
    (m.react draw why (Transport.connect l.client.transport).1).1.load + 2 * l.pending ≤
      l.load + 2 * m.pending + 1 := by
  have result := l.client.transport.connecting
  generalize Transport.connect l.client.transport = asked at *
  cases result with
  | @kept error rest answers =>
    have same : m.refuses = l.refuses := by rw [refuses, transport, refuses]
    have scheduled := load_schedule draw m
    have left : m.load + arming l.refuses + 2 * l.pending ≤ l.load + 2 * m.pending + 1 := by
      simp only [load, courage, budget, same, queue, backoff, transport, answers, List.append_nil,
        List.length_cons]
      cases l.refuses with
      | true =>
        simp only [arming, if_true]
        omega
      | false =>
        simp only [arming, Bool.false_eq_true, if_false]
        omega
    rw [same] at scheduled
    simp only [react]
    omega
  | passed =>
    have same : m.refuses = l.refuses := by
      rw [refuses, transport]
      rfl
    have told : (l.client.transport.inner.connect.2.1.map
        (toll l.refuses (allowance l.backoff))).sum ≤ 1 :=
      sum_toll_connect l.client.transport.inner _
    simp only [react, load, courage, budget, same, queue, backoff, transport, List.length_tail,
      List.map_append, List.sum_append]
    cases losing : l.refuses with
    | true =>
      rw [losing] at told
      simp only [if_true]
      omega
    | false =>
      rw [losing] at told
      simp only [Bool.false_eq_true, if_false]
      omega

/-! ## Turns -/

variable [Sampler ι]

/-- A turn in which the loop asks for nothing and stays alive costs the link and the gate nothing. -/
theorem refuses_perform (draw : Binary64) (l : Loop (Gated Memory) ι) (turn : Turn)
    (asks : turn.asks = false) (other : turn ≠ .stop) :
    (l.perform draw turn).1.refuses = l.refuses ∧
      (l.perform draw turn).1.client.transport.answers = l.client.transport.answers := by
  obtain ⟨frames, carried⟩ := transport_of_not_asks asks other draw l
  obtain ⟨sent, same⟩ := l.client.transport.exists_sendAll frames
  rw [refuses, carried, same]
  exact ⟨rfl, rfl⟩

theorem load_event {event : Event} {rest : List Event} (waits : l.queue = event :: rest)
    (draw : Binary64) : (l.perform draw (.event event)).1.load < l.load := by
  have heard := l.heard draw event
  have kept := kept_heed draw { l with queue := l.queue.tail } event
  obtain ⟨refuses, answers⟩ := l.refuses_perform draw (.event event) rfl (by simp)
  have same : (l.perform draw (.event event)).1.load =
      ({ l with queue := l.queue.tail }.heed draw event).1.load := by
    refine load_eq ?_ ?_ heard.backoff heard.reconnectAt heard.queue
    · rw [refuses, Loop.refuses, Loop.refuses, kept.client]
    · rw [answers, kept.client]
  rw [same]
  exact load_heed waits draw

theorem load_reconnect {instant : Nat} (armed : l.reconnectAt = some instant) (draw : Binary64) :
    (l.perform draw .reconnect).1.load < l.load := by
  have asked := load_react (l := l) (m := l.retried) rfl l.queue_retried rfl draw .reconnectRefused
  have before : l.pending = 1 := by rw [pending, armed, Option.isSome_some, if_pos rfl]
  have after : l.retried.pending = 0 := rfl
  have same : (l.perform draw .reconnect).1 =
      (l.retried.react draw .reconnectRefused (Transport.connect l.client.transport).1).1 := by
    rw [perform, reconnect_eq]
    rfl
  rw [same]
  omega

theorem load_begin (draw : Binary64) (l : Loop (Gated Memory) ι) :
    (l.perform draw .begin).1.load ≤ l.load + 1 := by
  have asked := load_react (l := l) (m := l.begun) rfl l.queue_begun rfl draw .firstConnectRefused
  have same : l.begun.pending = l.pending := rfl
  have answer : l.client.start.1 = (Transport.connect l.client.transport).1 := rfl
  simp only [perform, begin_eq, answer]
  split
  · change (l.begun.react draw .firstConnectRefused (Transport.connect l.client.transport).1).1.load ≤
      l.load + 1
    omega
  · dsimp only
    omega

omit [Sampler ι] in
theorem overdue_of_running (running : l.status = .running) :
    l.overdue = l.now + 1 - l.nextTick := by
  rw [overdue, running]

omit [Sampler ι] in
theorem exertion_lt (alive : l.isAlive = true)
    (less : l'.isAlive = true → l'.overdue + (if l'.listening then 1 else 0) + l'.load <
      l.overdue + (if l.listening then 1 else 0) + l.load) : l'.exertion < l.exertion := by
  rw [exertion, exertion, if_pos alive]
  split
  · next still =>
    have less := less still
    omega
  · omega

/-- Each turn brings the loop closer to its rest. -/
theorem exertion_perform (apart : l.status = .running → 0 < l.period.nanos) {turn : Turn}
    (next : l.turn? = some turn) (draw : Binary64) :
    (l.perform draw turn).1.exertion < l.exertion := by
  refine exertion_lt (isAlive_of_turn? next) fun alive => ?_
  have situated := l.situated_perform draw turn
  have going := running_perform next draw alive
  rw [overdue_of_running going, situated.now, situated.nextTick]
  cases next_of_turn? next with
  | begin fresh =>
    have started := load_begin draw l
    have listening := situated.listening (by simp)
    rw [overdue, fresh, listening]
    simp only [tickAfter]
    omega
  | stop => cases going
  | tick running _ due =>
    have apart := apart running
    have reached := le_ripeAt l.nextTick
    obtain ⟨refuses, answers⟩ := l.refuses_perform draw .tick rfl (by simp)
    rw [overdue_of_running running, load_eq refuses answers rfl rfl rfl, situated.listening (by simp)]
    simp only [tickAfter]
    omega
  | event unhurried _ waits =>
    have heeded := load_event waits draw
    rw [overdue_of_running unhurried.running, situated.listening (by simp)]
    simp only [tickAfter]
    omega
  | channelClosed unhurried listening =>
    have same : (l.perform draw .channelClosed).1.load = l.load := rfl
    have deaf : (l.perform draw .channelClosed).1.listening = false := rfl
    rw [overdue_of_running unhurried.running, same, deaf, listening]
    simp only [tickAfter, if_true, Bool.false_eq_true, if_false]
    omega
  | reconnect unhurried _ armed =>
    have made := load_reconnect armed draw
    rw [overdue_of_running unhurried.running, situated.listening (by simp)]
    simp only [tickAfter]
    omega

/-! ## Runs -/

/-- The loop is left alone at one instant, with these jitter factors for its next turns. -/
def alone (draws : List Binary64) : List (Move (Gated Memory) ι) := draws.map .turn

theorem still_alone (nothing : l.turn? = none) (draws : List Binary64) :
    l.after (alone draws) = l ∧ l.moments (alone draws) = [] := by
  induction draws with
  | nil => exact ⟨rfl, rfl⟩
  | cons draw draws ih =>
    have none : l.moment? (.turn draw) = none := by rw [moment?, nothing, Option.map_none]
    have same := move_turn_of_none none
    obtain ⟨after, moments⟩ := ih
    constructor
    · rw [alone, List.map_cons, Loop.after, same]
      exact after
    · rw [alone, List.map_cons, Loop.moments, same, none, Option.toList_none, List.nil_append]
      exact moments

/-- The turns at one instant are paid for by exertion, and they end only when there is nothing left to
do. -/
theorem exertion_alone (apart : l.status = .running → 0 < l.period.nanos)
    (draws : List Binary64) :
    (l.after (alone draws)).now = l.now ∧
      (l.moments (alone draws)).length + (l.after (alone draws)).exertion ≤ l.exertion ∧
      ((l.after (alone draws)).turn? = none ∨
        (l.moments (alone draws)).length = draws.length) := by
  induction draws generalizing l with
  | nil => exact ⟨rfl, (Nat.zero_add _).le, .inr rfl⟩
  | cons draw draws ih =>
    cases next : l.turn? with
    | some turn =>
      obtain ⟨now, bound, rest⟩ := ih (apart_perform apart next draw)
      have less := exertion_perform apart next draw
      have after : l.after (alone (draw :: draws)) =
          (l.perform draw turn).1.after (alone draws) := by
        rw [← move_turn next]
        rfl
      have moments : l.moments (alone (draw :: draws)) =
          ⟨l, turn, draw⟩ :: (l.perform draw turn).1.moments (alone draws) :=
        moments_turn next draw (alone draws)
      rw [after, moments, List.length_cons, List.length_cons]
      refine ⟨now.trans (l.situated_perform draw turn).now, by omega, ?_⟩
      exact rest.imp_right (congrArg Nat.succ)
    | none =>
      obtain ⟨after, moments⟩ := still_alone next (draw :: draws)
      rw [after, moments]
      exact ⟨rfl, (Nat.zero_add _).le, .inl next⟩

/-- Left alone, a loop over a link in memory takes no more turns at one instant than its exertion
tells. Given so many it has ended, or it waits for time to pass. -/
theorem rests_at_every_instant (config : LoopConfig) (client : Client (Gated Memory) ι)
    (moves : List (Move (Gated Memory) ι)) (draws : List Binary64) :
    let l := (Loop.new config client).after moves
    let rested := l.after (alone draws)
    rested.now = l.now ∧ (l.moments (alone draws)).length ≤ l.exertion ∧
      (l.exertion ≤ draws.length →
        rested.turn? = none ∧ (rested.isAlive = true → Idle rested)) := by
  intro l rested
  have apart : l.status = .running → 0 < l.period.nanos := apart_after config client moves
  obtain ⟨now, bound, rest⟩ := exertion_alone apart draws
  refine ⟨now, (Nat.le_add_right _ _).trans bound, fun enough => ?_⟩
  have nothing : rested.turn? = none := by
    rcases rest with nothing | all
    · exact nothing
    -- All turns were taken, so nothing of the exertion is left.
    · have ended : rested.isAlive = false := by
        by_contra alive
        have left : 0 < rested.exertion := by
          rw [exertion, if_pos (by simpa using alive)]
          omega
        change (l.moments (alone draws)).length + rested.exertion ≤ l.exertion at bound
        omega
      exact turn?_of_ended ended
  exact ⟨nothing, fun alive => idle_of_isAlive alive nothing⟩

/-- Two attempts without a delay. -/
def impatient : LoopConfig where
  tickRate := 1
  reconnect := some { twice with initialDelay := .ofSecs 0 }

/-- The first two connects are refused and the third is reported as lost, all of it in the first
instant. Then the attempts are used up and the loop waits. -/
theorem rests_at_every_instant_impatient :
    let l : Loop (Gated Memory) KeyScript := .new impatient unreachable
    let rested := l.after (alone (List.replicate 11 .one))
    l.exertion = 11 ∧ (l.moments (alone (List.replicate 11 .one))).map Moment.turn =
      [.begin, .tick, .reconnect, .reconnect, .event .disconnected] ∧
    rested.now = 0 ∧ Idle rested := by
  obtain ⟨now, -, rest⟩ :=
    rests_at_every_instant impatient unreachable [] (List.replicate 11 .one)
  have enough : (Loop.new impatient unreachable).exertion = 11 := by decide +kernel
  obtain ⟨-, idle⟩ := rest enough.le
  exact ⟨enough, by decide +kernel, now, idle (by decide +kernel)⟩

end Loop

end GameClient
