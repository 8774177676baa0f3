import GameClient.Player.Script
import GameClient.Proofs.Outage
import GameClient.Transport.Memory

/-! # The schedule of an outage

In an outage a loop comes to rest at every instant: each turn uses up a tick, an event or an attempt.
At rest it has made exactly the reconnects of the timetable that are due, and all its ticks. When the
timetable is over it has made as many reconnects as its policy allows, and it makes no more. -/

namespace GameClient

namespace Loop

variable {τ ι : Type} {policy : Backoff.Policy} {plan : List Nat} {past : List (Moment τ ι)}
  {l : Loop τ ι}

/-! ## Coming to rest -/

/-- The loop sleeps, but not past `limit`, and takes a turn; so many times. -/
def rounds (draw : Binary64) (limit : Nat) : Nat → List (Move τ ι)
  | 0 => []
  | n + 1 => .wait limit :: .turn draw :: rounds draw limit n

/-- The attempts that are left. -/
def spare : Option Backoff → Nat
  | some b => b.policy.maxAttempts.toNat - b.attempts
  | none => 0

/-- What the attempts can still cost: each that is left costs three turns at most, and one whose
timer is armed two. -/
def budget (l : Loop τ ι) : Nat := 3 * spare l.backoff + 2 * l.pending

/-- A bound for the turns until `limit`. -/
def effort (limit : Nat) (l : Loop τ ι) : Nat :=
  (limit + 1 - l.nextTick) + l.queue.length + l.budget

theorem spare_of_next {b later : Backoff} {draw : Binary64} {outcome : Backoff.Outcome}
    (asked : b.next draw = (outcome, later)) (granted : outcome ≠ .exhausted) :
    spare (some later) + 1 = spare (some b) := by
  obtain ⟨follows, attempts, bound⟩ := Backoff.counted_of_next asked granted
  rw [spare, spare, follows, attempts]
  omega

theorem budget_schedule (draw : Binary64) (l : Loop τ ι) :
    (l.schedule draw).1.budget ≤ l.budget := by
  have result := l.scheduling draw
  generalize l.schedule draw = scheduled at *
  cases result with
  | off => exact Nat.add_le_add_left (Nat.zero_le _) _
  | exhausted => exact Nat.add_le_add_left (Nat.zero_le _) _
  | @armed b later delay held asked =>
    have left := spare_of_next asked nofun
    calc 3 * spare (some later) + 2 * 1 ≤ 3 * spare (some b) + 2 * l.pending := by omega
      _ = l.budget := by rw [budget, held]
  | @failed fault b later _ _ held asked granted =>
    have left := spare_of_next asked granted
    calc 3 * spare (some later) + 2 * l.pending ≤ 3 * spare (some b) + 2 * l.pending := by omega
      _ = l.budget := by rw [budget, held]

theorem now_sleep {limit : Nat} (running : l.status = .running) (within : l.now ≤ limit)
    (asleep : (l.sleep limit).turn? = none) : (l.sleep limit).now = limit := by
  cases next : l.turn? with
  | some turn =>
    have same : l.sleep limit = l := by simp only [sleep, next]
    rw [same, next] at asleep
    cases asleep
  | none =>
    have slept : l.sleep limit = { l with now := max l.now (min limit l.alarm) } := by
      simp only [sleep, next, nextWake?_of_running running]
    rw [slept] at asleep ⊢
    -- It slept until its alarm or until `limit`, and at its alarm it would have had something to do.
    have idle : max l.now (min limit l.alarm) < l.alarm :=
      ((turn?_eq_none_iff (l := { l with now := max l.now (min limit l.alarm) }) running).mp
        asleep).now_lt_alarm
    show max l.now (min limit l.alarm) = limit
    omega

theorem now_sleep_le {limit : Nat} (within : l.now ≤ limit) : (l.sleep limit).now ≤ limit := by
  unfold sleep
  split
  · exact within
  · exact Nat.max_le.mpr ⟨within, Nat.min_le_left _ _⟩
  · exact Nat.max_le.mpr ⟨within, Nat.le_refl _⟩

theorem effort_sleep (limit : Nat) (l : Loop τ ι) :
    (l.sleep limit).effort limit = l.effort limit := by
  unfold sleep
  split <;> rfl

variable [Transport τ]

theorem effort_reconnect {limit : Nat} (armed : l.reconnectAt.isSome = true)
    (failing : fails (Transport.connect l.client.transport) = true) (draw : Binary64) :
    effort limit (l.reconnect draw).1 < effort limit l := by
  have paid : l.retried.budget + 2 = l.budget := by
    simp only [budget, pending, armed, if_true]
    rfl
  have queue := congrArg List.length l.queue_retried
  rw [List.length_append] at queue
  have answer : l.client.reconnect.1 = (Transport.connect l.client.transport).1 := rfl
  have tick : l.retried.nextTick = l.nextTick := rfl
  rw [reconnect_eq, answer]
  dsimp only
  unfold fails at failing
  split at failing
  · next error _ refused =>
    have kept := l.retried.kept_schedule draw
    have bound := budget_schedule draw l.retried
    rw [refused] at queue ⊢
    simp only [effort, react, kept.queue, kept.nextTick, queue, tick, List.length_nil]
    omega
  · next taken =>
    rw [taken] at queue ⊢
    simp only [effort, react, queue, tick, List.length_singleton]
    omega
  · cases failing

theorem effort_handle {limit : Nat} {event : Event} {more : List Event}
    (waits : l.queue = event :: more) (other : event ≠ .connected) (draw : Binary64) :
    effort limit (l.handle draw event).1 < effort limit l := by
  have heard := l.heard draw event
  have kept := kept_heed draw { l with queue := l.queue.tail } event
  have tick : (l.handle draw event).1.nextTick = l.nextTick := heard.nextTick.trans kept.nextTick
  have queue : (l.handle draw event).1.queue = l.queue.tail := heard.queue.trans kept.queue
  have shorter : l.queue.tail.length + 1 = l.queue.length := by rw [waits]; rfl
  have bound : ({ l with queue := l.queue.tail }.heed draw event).1.budget ≤ l.budget := by
    cases event with
    | connected => exact absurd rfl other
    | disconnected => exact budget_schedule draw { l with queue := l.queue.tail }
    | frame bytes => exact Nat.le_refl _
  have same : (l.handle draw event).1.budget =
      ({ l with queue := l.queue.tail }.heed draw event).1.budget := by
    simp only [budget, pending, heard.backoff, heard.reconnectAt]
  rw [effort, effort, tick, queue, same]
  omega

variable [Sampler ι]

/-- In an outage every turn brings the loop closer to having nothing to do. -/
theorem effort_perform {made : Nat} {rest : List Nat} {limit : Nat}
    (phase : Phase policy made l rest) (exposed : Exposed l) (punctual : Punctual l)
    (within : l.now ≤ limit) {turn : Turn} (next : l.turn? = some turn) {draw : Binary64}
    (fit : l.bears (.turn draw) = true) :
    effort limit (l.perform draw turn).1 < effort limit l := by
  cases next_of_turn? next with
  | begin fresh =>
    rcases phase.status with running | ⟨fault, failed⟩
    · cases fresh.symm.trans running
    · cases fresh.symm.trans failed
  | stop _ asked => cases exposed.unasked.symm.trans asked
  | tick running _ due =>
    have apart := punctual.apart running
    have reached := le_ripeAt l.nextTick
    have same : (l.perform draw .tick).1.budget = l.budget := rfl
    have queue : (l.perform draw .tick).1.queue = l.queue := rfl
    simp only [effort, (l.situated_perform draw .tick).nextTick, tickAfter, same, queue]
    omega
  | @event event _ unhurried _ waits =>
    refine effort_handle waits ?_ draw
    rintro rfl
    exact phase.not_connected unhurried.running waits
  | channelClosed _ _ _ closed => cases exposed.hasSenders.symm.trans closed
  | reconnect unhurried _ armed ripe =>
    have failing : fails (Transport.connect l.client.transport) = true := by
      simpa [bears, next] using fit
    exact effort_reconnect (Option.isSome_of_eq_some armed) failing draw

/-- The loop comes to rest at any instant, unless it fails. -/
theorem Planned.exists_rounds (steady : policy.jitters = false) (h : Planned policy plan past l)
    (draw : Binary64) {limit : Nat} (within : l.now ≤ limit)
    (outage : ∀ n, Throughout (fun l move => l.bears move = true) l (rounds draw limit n)) :
    ∃ n, Idle (l.after (rounds draw limit n)) ∧ (l.after (rounds draw limit n)).now = limit ∨
      ∃ fault, (l.after (rounds draw limit n)).status = .failed fault := by
  -- By induction on the turns that the loop can still take until `limit`.
  induction cost : l.effort limit using Nat.strong_induction_on generalizing past l with
  | _ cost ih =>
    obtain ⟨rest, -, phase⟩ := h.split
    rcases phase.status with running | failed
    · have slept : Planned policy plan past (l.sleep limit) :=
        h.move (.refl (l.bears (.wait limit))) rfl
      cases next : (l.sleep limit).turn? with
      | none =>
        have still : l.after (rounds draw limit 1) = l.sleep limit := by
          simp only [rounds, Loop.after, Loop.move, next]
        have going : (l.sleep limit).status = .running := (aside_sleep l limit).status.trans running
        refine ⟨1, .inl ?_⟩
        rw [still]
        exact ⟨(turn?_eq_none_iff going).mp next, now_sleep running within next⟩
      | some turn =>
        have fit : (l.sleep limit).bears (.turn draw) = true := (outage 1).2.1
        have reached := now_sleep_le within
        obtain ⟨rest, -, phase⟩ := slept.split
        have closer := effort_perform phase slept.exposed slept.punctual reached next fit
        rw [effort_sleep, cost] at closer
        have later (n : Nat) := (outage (n + 1)).2.2
        simp only [Loop.move, next] at later
        have now := ((l.sleep limit).situated_perform draw turn).now
        obtain ⟨n, ended⟩ :=
          ih _ closer (slept.perform steady next fit) (now ▸ reached) later rfl
        have goes : l.after (rounds draw limit (n + 1)) =
            ((l.sleep limit).perform draw turn).1.after (rounds draw limit n) := by
          simp only [rounds, Loop.after, Loop.move, next]
        exact ⟨n + 1, goes ▸ ended⟩
    · exact ⟨0, .inr failed⟩

/-! ## The schedule -/

/-- The backoff is fresh, and the next turn arms its timer: the loop starts with a connect that is
refused, or it handles the loss of its link. Nothing else is known of links. -/
structure Strikes (policy : Backoff.Policy) (l : Loop τ ι) : Prop where
  fresh : l.backoff = some (.new policy)
  exposed : Exposed l
  apart : 0 < l.period.nanos
  starts : l.status = .fresh ∧ linkNews l.queue = [] ∧
      (Transport.connect l.client.transport).2.1 = [] ∧
      (∃ error, (Transport.connect l.client.transport).1 = .refused error) ∨
    l.turn? = some (.event .disconnected) ∧ linkNews l.queue = [.disconnected]

/-- The outage begins with its first timer armed, or at its end. -/
theorem Strikes.phase (steady : policy.jitters = false) (h : Strikes policy l) (draw : Binary64) :
    Phase policy 0 (l.move (.turn draw)) (timetable l.now (Backoff.new policy).delays) := by
  rcases h.starts with ⟨fresh, quiet, none, error, refused⟩ | ⟨next, lost⟩
  · have next : l.turn? = some .begin := by rw [turn?, fresh]
    have silent : linkNews l.begun.queue = [] := by
      rw [queue_begun, none, List.append_nil]
      exact quiet
    have scheduled : Phase policy 0 (l.begun.schedule draw).1
        (timetable l.now (Backoff.new policy).delays) :=
      Phase.schedule (l := l.begun) steady rfl h.fresh rfl rfl (Nat.zero_le _) silent draw
    have apart : (l.begun.schedule draw).1.period.nanos ≠ 0 := by
      rw [(l.begun.kept_schedule draw).period]
      exact Nat.ne_of_gt h.apart
    have answer : l.client.start.1 = .refused error := refused
    rw [move_turn next, perform, begin_eq, answer]
    simp only [react, apart, and_false, if_false]
    exact scheduled
  · rw [move_turn next]
    cases next_of_turn? next with
    | event unhurried _ waits =>
      have heard := l.heard draw .disconnected
      have quiet : linkNews l.queue.tail = [] := by
        simpa [waits, linkNews, isFrame] using lost
      have scheduled := Phase.schedule (l := { l with queue := l.queue.tail }) steady
        unhurried.running h.fresh rfl rfl (Nat.zero_le _) quiet draw
      exact scheduled.same heard.status heard.backoff heard.reconnectAt heard.now
        (congrArg linkNews heard.queue)

theorem Strikes.planned (steady : policy.jitters = false) (h : Strikes policy l)
    (draw : Binary64) (punctual : Punctual (l.move (.turn draw))) :
    Planned policy (timetable l.now (Backoff.new policy).delays) [] (l.move (.turn draw)) := by
  refine ⟨⟨_, rfl, h.phase steady draw⟩, nofun, ?_, punctual⟩
  rcases h.starts with ⟨fresh, -⟩ | ⟨next, -⟩
  · have next : l.turn? = some .begin := by rw [turn?, fresh]
    rw [move_turn next]
    exact h.exposed.perform next draw
  · rw [move_turn next]
    exact h.exposed.perform next draw

/-- What becomes of an outage: `struck` is the loop when the outage has begun, and `moves` are what
happens then. -/
structure OnSchedule (policy : Backoff.Policy) (plan : List Nat) (struck : Loop τ ι)
    (moves : List (Move τ ι)) : Prop where
  /-- Reconnects are made in the order of the plan. -/
  order : times .reconnect (struck.moments moves) <+: plan
  bound : plan.length ≤ policy.maxAttempts.toNat
  /-- At rest all reconnects that are due were made, and at the end all that the policy allows. -/
  made : Idle (struck.after moves) →
    times .reconnect (struck.moments moves) = plan.filter (· ≤ (struck.after moves).now) ∧
    ((∀ instant ∈ plan, instant ≤ (struck.after moves).now) →
      times .reconnect (struck.moments moves) = plan ∧
      (times .reconnect (struck.moments moves)).length = policy.maxAttempts.toNat)
  /-- The ticks are on time, -/
  ticks : times .tick (struck.moments moves) =
    (List.range (times .tick (struck.moments moves)).length).map fun i =>
      ripeAt (struck.nextTick + i * struck.period.nanos)
  /-- and at rest the next one is not due. -/
  next : Idle (struck.after moves) → (struck.after moves).now <
    ripeAt (struck.nextTick + (times .tick (struck.moments moves)).length * struck.period.nanos)
  /-- The loop fails only over a delay or an instant that is out of range. -/
  running : plan.length = policy.maxAttempts.toNat → (∀ instant ∈ plan, instant < instantLimit) →
    (struck.after moves).status = .running
  /-- If the outage lasts the loop comes to rest at any instant, unless it fails. -/
  rest : ∀ draw limit, (struck.after moves).now ≤ limit →
    (∀ n, Throughout (fun l move => l.bears move = true) (struck.after moves) (rounds draw limit n)) →
    ∃ n, let later := (struck.after moves).after (rounds draw limit n)
      Idle later ∧ later.now = limit ∨ ∃ fault, later.status = .failed fault

/-- An outage that strikes a loop in any of its runs goes by the timetable that its policy gives, from
the instant at which it strikes. -/
theorem outage_schedule (config : LoopConfig) (client : Client τ ι)
    (steady : policy.jitters = false) {before : List (Move τ ι)}
    (timely : ∀ move ∈ before, move.isTimely = true)
    (strikes : Strikes policy ((Loop.new config client).after before)) (draw : Binary64)
    {moves : List (Move τ ι)}
    (outage : Throughout (fun l move => l.bears move = true)
      (((Loop.new config client).after before).move (.turn draw)) moves) :
    OnSchedule policy
      (timetable ((Loop.new config client).after before).now (Backoff.new policy).delays)
      (((Loop.new config client).after before).move (.turn draw)) moves := by
  have punctual : Punctual ((Loop.new config client).after (before ++ [.turn draw])) := by
    refine punctual_after config client ?_
    intro move listed
    rcases List.mem_append.mp listed with earlier | last
    · exact timely move earlier
    · rw [List.mem_singleton.mp last]
      rfl
  rw [after_append] at punctual
  generalize (Loop.new config client).after before = l at *
  change Punctual (l.move (.turn draw)) at punctual
  have started := strikes.planned steady draw punctual
  generalize l.move (.turn draw) = struck at *
  have planned := started.after steady outage
  have begun : struck.status ≠ .fresh := by
    obtain ⟨rest, -, phase⟩ := started.split
    rcases phase.status with running | ⟨fault, failed⟩
    · rw [running]
      exact nofun
    · rw [failed]
      exact nofun
  have rhythm : Rhythm struck.nextTick struck.period.nanos [] struck :=
    ⟨begun, rfl, rfl, by simp [times], punctual⟩
  have timely : ∀ move ∈ moves, move.isTimely = true :=
    forall_of_throughout (p := fun move => move.isTimely = true)
      (fun _ _ fit => isTimely_of_bears fit) outage
  have ticked := rhythm.after timely
  rw [List.nil_append] at planned ticked
  obtain ⟨rest, whole, -⟩ := planned.split
  refine ⟨⟨rest, whole⟩, ?_, planned.idle, ticked.ticks, ?_, planned.running, ?_⟩
  · rw [length_timetable]
    exact Backoff.length_delays_le (.new policy)
  · intro idle
    rw [← ticked.next]
    exact idle.early
  · intro draw limit within lasts
    exact planned.exists_rounds steady draw within lasts

/-- Two attempts without jitter. -/
def twice : Backoff.Policy := { maxAttempts := 2, jitter := .zero }

/-- No server is there: two connects are refused, and those after them are reported as lost. -/
def unreachable : Client (Gated Memory) KeyScript :=
  .new { answers := [.refused .noRuntime, .refused .closed],
         inner := { reports := true, refusesConnects := true } } {}

/-- The first connect is refused; four seconds later both attempts were made, the first of which was
refused and the second reported as lost, and the loop goes on with its ticks. -/
theorem outage_schedule_of_unreachable :
    let l : Loop (Gated Memory) KeyScript := .new { tickRate := 1, reconnect := some twice } unreachable
    let struck := l.move (.turn .one)
    let moves := rounds .one 4000000000 8
    Strikes twice l ∧ Throughout (fun l move => l.bears move = true) struck moves ∧
      times .reconnect (struck.moments moves) = [1000000000, 3000000000] ∧
      times .tick (struck.moments moves) = [0, 1000000000, 2000000000, 3000000000, 4000000000] := by
  intro l struck moves
  have strikes : Strikes twice l := by
    refine ⟨rfl, ⟨rfl, rfl, rfl⟩, by decide +kernel, .inl ⟨rfl, rfl, rfl, .noRuntime, rfl⟩⟩
  have outage : Throughout (fun l move => l.bears move = true) struck moves := by decide +kernel
  have early : ∀ move ∈ ([] : List (Move (Gated Memory) KeyScript)), move.isTimely = true := nofun
  have schedule : OnSchedule twice (timetable l.now (Backoff.new twice).delays) struck moves :=
    outage_schedule _ unreachable rfl early strikes .one outage
  have plan : timetable l.now (Backoff.new twice).delays = [1000000000, 3000000000] := by
    decide +kernel
  rw [plan] at schedule
  have running : (struck.after moves).status = .running := by decide +kernel
  have idle : Idle (struck.after moves) := (turn?_eq_none_iff running).mp (by decide +kernel)
  refine ⟨strikes, outage, ((schedule.made idle).2 ?_).1, ?_⟩
  · decide +kernel
  · rw [schedule.ticks]
    decide +kernel

end Loop

end GameClient
