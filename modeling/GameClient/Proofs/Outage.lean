import GameClient.Proofs.Attempts
import GameClient.Proofs.Timing

/-! # Outages

From the moment in which a link is lost, with a fresh backoff, until an attempt succeeds, nothing is
heard of links but that attempts fail. A transport says so in two ways: it refuses at once, or it
takes the request and reports that the link is lost. Either way the next timer is armed once, at the
instant of the attempt. So the reconnects follow a timetable that is known beforehand. -/

namespace GameClient

namespace Backoff

/-- The delays that so many requests return, up to the first that returns none. -/
def upcoming : Nat → Backoff → List Duration
  | 0, _ => []
  | requests + 1, b =>
    match b.next .one with
    | (.wait delay, later) => delay :: upcoming requests later
    | _ => []

/-- The delays until no attempt is left, without jitter. -/
def delays (b : Backoff) : List Duration :=
  upcoming (b.policy.maxAttempts.toNat - b.attempts) b

variable {b later : Backoff} {delay : Duration}

theorem next_of_steady (steady : b.policy.jitters = false) (draw : Binary64) :
    b.next draw = b.next .one := by
  simp [next, nextWith, steady]

theorem delays_of_wait (asked : b.next .one = (.wait delay, later)) :
    b.delays = delay :: later.delays := by
  obtain ⟨follows, attempts, bound⟩ := counted_of_next asked nofun
  have left : b.policy.maxAttempts.toNat - b.attempts =
      (later.policy.maxAttempts.toNat - later.attempts) + 1 := by
    rw [follows]
    omega
  rw [delays, left, upcoming, asked]
  rfl

theorem delays_of_not_wait (other : ∀ delay, (b.next .one).1 ≠ .wait delay) : b.delays = [] := by
  unfold delays
  cases b.policy.maxAttempts.toNat - b.attempts with
  | zero => rfl
  | succ requests =>
    unfold upcoming
    split
    · next delay later asked => exact absurd (congrArg Prod.fst asked) (other delay)
    · rfl

theorem delays_of_exhausted (used : b.isExhausted = true) : b.delays = [] := by
  rw [delays, Nat.sub_eq_zero_of_le (of_decide_eq_true used)]
  rfl

theorem length_delays_le (b : Backoff) :
    b.delays.length ≤ b.policy.maxAttempts.toNat - b.attempts := by
  unfold delays
  generalize b.policy.maxAttempts.toNat - b.attempts = requests
  induction requests generalizing b with
  | zero => exact Nat.le_refl _
  | succ requests ih =>
    unfold upcoming
    split
    · next delay later _ => exact Nat.succ_le_succ (ih later)
    · exact Nat.zero_le _

end Backoff

namespace Loop

variable {τ ι : Type}

/-! ## Timetables -/

/-- The instants of timers that are armed one after the other, each when the one before it fires. -/
def timetable : Nat → List Duration → List Nat
  | _, [] => []
  | start, delay :: delays =>
    ripeAt (start + delay.nanos) :: timetable (ripeAt (start + delay.nanos)) delays

theorem length_timetable (start : Nat) (delays : List Duration) :
    (timetable start delays).length = delays.length := by
  induction delays generalizing start with
  | nil => rfl
  | cons delay delays ih => exact congrArg (· + 1) (ih _)

theorem le_of_mem_timetable {start instant : Nat} {delays : List Duration}
    (listed : instant ∈ timetable start delays) : start ≤ instant := by
  induction delays generalizing start with
  | nil => cases listed
  | cons delay delays ih =>
    have first : start ≤ ripeAt (start + delay.nanos) :=
      (Nat.le_add_right _ _).trans (le_ripeAt _)
    rcases List.mem_cons.mp listed with rfl | later
    · exact first
    · exact first.trans (ih later)

/-! ## Outages -/

/-- The connect failed: it was refused, or it was taken and the link is reported as lost. -/
def fails : Answer × List Event × τ → Bool
  | (.refused _, [], _) => true
  | (.accepted, [.disconnected], _) => true
  | _ => false

def isFrame : Event → Bool
  | .frame _ => true
  | _ => false

/-- The news of links that wait. -/
def linkNews (events : List Event) : List Event := events.filter fun event => !isFrame event

/-- The move can happen in an outage: every reconnect fails, and nothing else is heard of links. -/
def bears [Transport τ] (l : Loop τ ι) : Move τ ι → Bool
  | .turn _ => l.turn? ≠ some .reconnect || fails (Transport.connect l.client.transport)
  | .post event => isFrame event
  | .disturb act => (act l.client.transport).1.all isFrame
  | .press _ | .wait _ => true
  | .closeChannel | .requestStop | .clock _ _ => false

/-- The loop listens to an open channel and is not asked to stop. -/
structure Exposed (l : Loop τ ι) : Prop where
  hasSenders : l.hasSenders = true
  listening : l.listening = true
  unasked : l.stopRequested = false

/-- How far an outage has come: how many reconnects were made, and the instants of those to come. -/
inductive Phase (policy : Backoff.Policy) (made : Nat) (l : Loop τ ι) : List Nat → Prop
  | armed {b : Backoff} {instant : Nat} : l.status = .running → l.backoff = some b →
      b.policy = policy → b.attempts = made + 1 → made + 1 ≤ policy.maxAttempts.toNat →
      l.reconnectAt = some instant → l.now ≤ ripeAt instant → linkNews l.queue = [] →
      Phase policy made l (ripeAt instant :: timetable (ripeAt instant) b.delays)
  /-- The attempt failed, and the loop has yet to hear of it. -/
  | refused {b : Backoff} : l.status = .running → l.backoff = some b → b.policy = policy →
      b.attempts = made → made ≤ policy.maxAttempts.toNat → l.reconnectAt = none →
      linkNews l.queue = [.disconnected] → Phase policy made l (timetable l.now b.delays)
  | spent : l.status = .running → made = policy.maxAttempts.toNat → l.reconnectAt = none →
      linkNews l.queue = [] → Phase policy made l []
  /-- A delay or an instant is out of range. -/
  | failed {fault : Fault} {rest : List Nat} : l.status = .failed fault →
      (made + rest.length < policy.maxAttempts.toNat ∨ ∃ instant ∈ rest, instantLimit ≤ instant) →
      Phase policy made l rest

section Phase

variable {policy : Backoff.Policy} {made : Nat} {l l' : Loop τ ι} {rest : List Nat}

theorem Phase.schedule (steady : policy.jitters = false) {b : Backoff}
    (running : l.status = .running) (held : l.backoff = some b) (follows : b.policy = policy)
    (attempts : b.attempts = made) (bound : made ≤ policy.maxAttempts.toNat)
    (quiet : linkNews l.queue = []) (draw : Binary64) :
    Phase policy made (l.schedule draw).1 (timetable l.now b.delays) := by
  have steadily := Backoff.next_of_steady (follows ▸ steady) draw
  have result := l.scheduling draw
  generalize l.schedule draw = scheduled at *
  cases result with
  | off absent => cases held.symm.trans absent
  | exhausted held' used =>
    cases held.symm.trans held'
    have all : policy.maxAttempts.toNat ≤ made := by
      rw [← follows, ← attempts]
      exact of_decide_eq_true used
    rw [Backoff.delays_of_exhausted used]
    exact .spent running (Nat.le_antisymm bound all) rfl quiet
  | @armed b' later delay held' asked =>
    cases held.symm.trans held'
    obtain ⟨follows', attempts', bound'⟩ := Backoff.counted_of_next asked nofun
    rw [attempts] at attempts'
    rw [attempts', follows] at bound'
    have early : l.now ≤ ripeAt (l.now + delay.nanos) :=
      Nat.le_trans (Nat.le_add_right _ _) (le_ripeAt _)
    rw [Backoff.delays_of_wait (steadily ▸ asked), timetable]
    exact .armed running rfl (follows'.trans follows) attempts' bound' rfl early quiet
  | @failed fault b' later outcome _ held' asked granted beyond =>
    cases held.symm.trans held'
    obtain ⟨-, attempts', bound'⟩ := Backoff.counted_of_next asked granted
    rw [attempts', attempts, follows] at bound'
    rw [steadily] at asked
    refine .failed rfl ?_
    cases outcome with
    | exhausted => exact absurd rfl granted
    | overflow =>
      rw [Backoff.delays_of_not_wait (by simp [asked])]
      exact .inl bound'
    | wait delay =>
      rw [Backoff.delays_of_wait asked, timetable]
      have late : instantLimit ≤ ripeAt (l.now + delay.nanos) :=
        Nat.le_trans (beyond delay rfl) (le_ripeAt (l.now + delay.nanos))
      exact .inr ⟨ripeAt (l.now + delay.nanos), List.mem_cons_self, late⟩

theorem Phase.status (h : Phase policy made l rest) :
    l.status = .running ∨ ∃ fault, l.status = .failed fault := by
  cases h with
  | armed running => exact .inl running
  | refused running => exact .inl running
  | spent running => exact .inl running
  | failed failed => exact .inr ⟨_, failed⟩

/-- What does not touch the timer and brings no news of links keeps the phase. -/
theorem Phase.same (h : Phase policy made l rest) (status : l'.status = l.status)
    (backoff : l'.backoff = l.backoff) (timer : l'.reconnectAt = l.reconnectAt)
    (now : l'.now = l.now) (news : linkNews l'.queue = linkNews l.queue) :
    Phase policy made l' rest := by
  cases h with
  | armed running held follows attempts bound armed early quiet =>
    exact .armed (status.trans running) (backoff.trans held) follows attempts bound
      (timer.trans armed) (now ▸ early) (news.trans quiet)
  | refused running held follows attempts bound unarmed lost =>
    rw [← now]
    exact .refused (status.trans running) (backoff.trans held) follows attempts bound
      (timer.trans unarmed) (news.trans lost)
  | spent running all unarmed quiet =>
    exact .spent (status.trans running) all (timer.trans unarmed) (news.trans quiet)
  | failed failed why => exact .failed (status.trans failed) why

theorem turn?_of_waiting (running : l.status = .running) (listening : l.listening = true)
    (waits : l.queue ≠ []) : l.turn?.isSome = true := by
  cases next : l.turn? with
  | some turn => rfl
  | none =>
    rcases ((turn?_eq_none_iff running).mp next).quiet with deaf | ⟨empty, -⟩
    · cases listening.symm.trans deaf
    · exact absurd empty waits

theorem ne_nil_of_linkNews {events : List Event} {event : Event} {more : List Event}
    (news : linkNews events = event :: more) : events ≠ [] := by
  rintro rfl
  cases news

theorem Phase.waited (h : Phase policy made l rest) (listening : l.listening = true)
    (aside : Aside l l') (waited : Waited l l') (news : linkNews l'.queue = linkNews l.queue) :
    Phase policy made l' rest := by
  cases h with
  | armed running held follows attempts bound armed early quiet =>
    have onTime := waited.onTime running
    have alarm := alarm_le_timer armed
    exact .armed (aside.status.trans running) (aside.backoff.trans held) follows attempts bound
      (aside.reconnectAt.trans armed) (by omega) (news.trans quiet)
  | refused running held follows attempts bound unarmed lost =>
    have awake := turn?_of_waiting running listening (ne_nil_of_linkNews lost)
    rw [← waited.busy awake]
    exact .refused (aside.status.trans running) (aside.backoff.trans held) follows attempts bound
      (aside.reconnectAt.trans unarmed) (news.trans lost)
  | spent running all unarmed quiet =>
    exact .spent (aside.status.trans running) all (aside.reconnectAt.trans unarmed)
      (news.trans quiet)
  | failed failed why => exact .failed (aside.status.trans failed) why

theorem linkNews_append (events more : List Event) :
    linkNews (events ++ more) = linkNews events ++ linkNews more := List.filter_append ..

theorem Phase.not_connected (h : Phase policy made l rest) (running : l.status = .running)
    {more : List Event} (waits : l.queue = .connected :: more) : False := by
  have news : linkNews l.queue = .connected :: linkNews more := by simp [waits, linkNews, isFrame]
  cases h with
  | armed _ _ _ _ _ _ _ quiet => cases quiet.symm.trans news
  | refused _ _ _ _ _ _ lost => cases lost.symm.trans news
  | spent _ _ _ quiet => cases quiet.symm.trans news
  | failed failed => cases running.symm.trans failed

/-- The loop hears of a failure, or it handles a frame. -/
theorem Phase.heed (steady : policy.jitters = false) (h : Phase policy made l rest) {event : Event}
    {more : List Event} (waits : l.queue = event :: more) (running : l.status = .running)
    (draw : Binary64) :
    Phase policy made ({ l with queue := l.queue.tail }.heed draw event).1 rest := by
  have tail : linkNews l.queue.tail = linkNews more := by rw [waits, List.tail_cons]
  cases event with
  | frame bytes =>
    have news : linkNews l.queue = linkNews more := by simp [waits, linkNews, isFrame]
    exact h.same rfl rfl rfl rfl (tail.trans news.symm)
  | connected => exact (h.not_connected running waits).elim
  | disconnected =>
    have news : linkNews l.queue = .disconnected :: linkNews more := by
      simp [waits, linkNews, isFrame]
    cases h with
    | armed _ _ _ _ _ _ _ quiet => cases quiet.symm.trans news
    | refused _ held follows attempts bound _ lost =>
      have quiet : linkNews l.queue.tail = [] := tail.trans (List.cons.inj (news.symm.trans lost)).2
      exact Phase.schedule (l := { l with queue := l.queue.tail }) steady running held follows
        attempts bound quiet draw
    | spent _ _ _ quiet => cases quiet.symm.trans news
    | failed failed => cases running.symm.trans failed

variable [Transport τ]

theorem isTimely_of_bears {move : Move τ ι} (fit : l.bears move = true) :
    move.isTimely = true := by
  cases move with
  | clock => cases fit
  | _ => rfl

/-- The timer fires and the attempt fails, in either way. -/
theorem Phase.reconnect (steady : policy.jitters = false) (h : Phase policy made l rest)
    (running : l.status = .running) {instant : Nat} (armed : l.reconnectAt = some instant)
    (ripe : ripeAt instant ≤ l.now) (failing : fails (Transport.connect l.client.transport) = true)
    (draw : Binary64) :
    ∃ later, rest = l.now :: later ∧ Phase policy (made + 1) (l.reconnect draw).1 later := by
  cases h with
  | failed failed => cases running.symm.trans failed
  | refused _ _ _ _ _ unarmed => cases armed.symm.trans unarmed
  | spent _ _ unarmed => cases armed.symm.trans unarmed
  | @armed b _ _ held follows attempts bound armed' early quiet =>
    cases armed.symm.trans armed'
    have now : ripeAt instant = l.now := Nat.le_antisymm ripe early
    rw [now]
    refine ⟨_, rfl, ?_⟩
    have news : linkNews l.retried.queue =
        linkNews (Transport.connect l.client.transport).2.1 := by
      rw [queue_retried, linkNews_append, quiet, List.nil_append]
    have answer : l.client.reconnect.1 = (Transport.connect l.client.transport).1 := rfl
    rw [reconnect_eq, answer]
    dsimp only
    unfold fails at failing
    split at failing
    · next error _ refused =>
      rw [refused] at news ⊢
      exact Phase.schedule (l := l.retried) steady running held follows attempts bound news draw
    · next taken =>
      rw [taken] at news ⊢
      exact .refused running held follows attempts bound rfl news
    · cases failing

variable [Sampler ι]

/-- One turn of an outage: either it is a reconnect, at the instant that comes next, or the instants
to come stay. -/
theorem Phase.perform (steady : policy.jitters = false) (h : Phase policy made l rest)
    (exposed : Exposed l) {turn : Turn} (next : l.turn? = some turn) {draw : Binary64}
    (fit : l.bears (.turn draw) = true) :
    (turn ≠ .reconnect ∧ Phase policy made (l.perform draw turn).1 rest) ∨
    (turn = .reconnect ∧ ∃ later, rest = l.now :: later ∧
      Phase policy (made + 1) (l.perform draw turn).1 later) := by
  cases next_of_turn? next with
  | begin fresh =>
    rcases h.status with running | ⟨fault, failed⟩
    · cases fresh.symm.trans running
    · cases fresh.symm.trans failed
  | stop _ asked => cases exposed.unasked.symm.trans asked
  | tick => exact .inl ⟨nofun, h.same rfl rfl rfl rfl rfl⟩
  | @event event _ unhurried _ waits =>
    refine .inl ⟨nofun, ?_⟩
    have heard := l.heard draw event
    exact (h.heed steady waits unhurried.running draw).same heard.status heard.backoff
      heard.reconnectAt heard.now (congrArg linkNews heard.queue)
  | channelClosed _ _ _ closed => cases exposed.hasSenders.symm.trans closed
  | reconnect unhurried _ armed ripe =>
    have failing : fails (Transport.connect l.client.transport) = true := by
      simpa [bears, next] using fit
    exact .inr ⟨rfl, h.reconnect steady unhurried.running armed ripe failing draw⟩

theorem Exposed.perform (h : Exposed l) {turn : Turn} (next : l.turn? = some turn)
    (draw : Binary64) : Exposed (l.perform draw turn).1 := by
  have situated := l.situated_perform draw turn
  have open' : turn ≠ .channelClosed := by
    rintro rfl
    cases next_of_turn? next with
    | channelClosed _ _ _ closed => cases h.hasSenders.symm.trans closed
  exact ⟨situated.hasSenders.trans h.hasSenders,
    (situated.listening open').trans h.listening,
    situated.stopRequested.trans h.unasked⟩

/-- What is sent in an outage, but for the reports of its reconnects, are frames. -/
theorem Exposed.move (h : Exposed l) {move : Move τ ι} (fit : l.bears move = true)
    (none : l.moment? move = none) :
    Exposed (l.move move) ∧ linkNews (l.move move).queue = linkNews l.queue := by
  cases move with
  | turn draw =>
    rw [move_turn_of_none none]
    exact ⟨h, rfl⟩
  | post event =>
    have silent : linkNews [event] = [] := by
      simpa [linkNews, bears] using fit
    simp only [Loop.move, post]
    split
    · refine ⟨⟨h.hasSenders, h.listening, h.unasked⟩, ?_⟩
      rw [linkNews_append, silent, List.append_nil]
    · exact ⟨h, rfl⟩
  | disturb act =>
    have silent : linkNews (act l.client.transport).1 = [] := by
      simpa [linkNews, bears, List.filter_eq_nil_iff] using fit
    simp only [Loop.move, disturb]
    split
    · refine ⟨⟨h.hasSenders, h.listening, h.unasked⟩, ?_⟩
      rw [linkNews_append, silent, List.append_nil]
    · exact ⟨⟨h.hasSenders, h.listening, h.unasked⟩, rfl⟩
  | press input => exact ⟨⟨h.hasSenders, h.listening, h.unasked⟩, rfl⟩
  | wait instant =>
    simp only [Loop.move, sleep]
    split
    · exact ⟨h, rfl⟩
    · exact ⟨⟨h.hasSenders, h.listening, h.unasked⟩, rfl⟩
    · exact ⟨⟨h.hasSenders, h.listening, h.unasked⟩, rfl⟩
  | closeChannel => cases fit
  | requestStop => cases fit
  | clock => cases fit

end Phase

/-! ## Runs -/

variable {policy : Backoff.Policy} {plan : List Nat} {past : List (Moment τ ι)} {l : Loop τ ι}

/-- The reconnects that were made and those to come are the plan. -/
structure Planned (policy : Backoff.Policy) (plan : List Nat) (past : List (Moment τ ι))
    (l : Loop τ ι) : Prop where
  split : ∃ rest, times .reconnect past ++ rest = plan ∧
    Phase policy (times .reconnect past).length l rest
  reached : ∀ instant ∈ times .reconnect past, instant ≤ l.now
  exposed : Exposed l
  punctual : Punctual l

/-- A loop that has nothing to do has made the reconnects that are due, and no others. -/
theorem Planned.idle (h : Planned policy plan past l) (idle : Idle l) :
    times .reconnect past = plan.filter (· ≤ l.now) ∧
    ((∀ instant ∈ plan, instant ≤ l.now) →
      times .reconnect past = plan ∧
      (times .reconnect past).length = policy.maxAttempts.toNat) := by
  obtain ⟨rest, rfl, phase⟩ := h.split
  have ahead : (∀ instant ∈ rest, l.now < instant) ∧
      (rest = [] → (times .reconnect past).length = policy.maxAttempts.toNat) := by
    cases phase with
    | armed _ _ _ _ _ armed =>
      refine ⟨?_, nofun⟩
      intro instant listed
      rcases List.mem_cons.mp listed with rfl | later
      · exact idle.unripe _ armed
      · exact (idle.unripe _ armed).trans_le (le_of_mem_timetable later)
    | refused running _ _ _ _ _ lost =>
      have awake := turn?_of_waiting running h.exposed.listening (ne_nil_of_linkNews lost)
      rw [(turn?_eq_none_iff running).mpr idle] at awake
      cases awake
    | spent _ all => exact ⟨nofun, fun _ => all⟩
    | failed failed => cases idle.running.symm.trans failed
  have due : (times .reconnect past).filter (· ≤ l.now) = times .reconnect past :=
    List.filter_eq_self.mpr fun instant made => decide_eq_true (h.reached instant made)
  have undue : rest.filter (· ≤ l.now) = [] := by
    rw [List.filter_eq_nil_iff]
    intro instant listed
    simpa using ahead.1 instant listed
  refine ⟨by rw [List.filter_append, due, undue, List.append_nil], ?_⟩
  intro passed
  have none : rest = [] := by
    cases rest with
    | nil => rfl
    | cons instant rest =>
      have reached := passed instant (List.mem_append_right _ List.mem_cons_self)
      exact absurd (ahead.1 instant List.mem_cons_self) (Nat.not_lt.mpr reached)
  rw [none, List.append_nil]
  exact ⟨rfl, ahead.2 none⟩

/-- The loop fails only over a delay or an instant that is out of range. -/
theorem Planned.running (h : Planned policy plan past l)
    (enough : plan.length = policy.maxAttempts.toNat)
    (near : ∀ instant ∈ plan, instant < instantLimit) : l.status = .running := by
  obtain ⟨rest, rfl, phase⟩ := h.split
  cases phase with
  | armed running => exact running
  | refused running => exact running
  | spent running => exact running
  | failed _ why =>
    rcases why with short | ⟨instant, listed, far⟩
    · rw [← enough, List.length_append] at short
      exact absurd short (Nat.lt_irrefl _)
    · exact absurd far (Nat.not_le.mpr (near instant (List.mem_append_right _ listed)))

variable [Transport τ] [Sampler ι]

theorem Planned.perform (steady : policy.jitters = false) (h : Planned policy plan past l)
    {turn : Turn} (next : l.turn? = some turn) {draw : Binary64}
    (fit : l.bears (.turn draw) = true) :
    Planned policy plan (past ++ [⟨l, turn, draw⟩]) (l.perform draw turn).1 := by
  have grown := times_append .reconnect past [⟨l, turn, draw⟩]
  rw [times_singleton] at grown
  have now := (l.situated_perform draw turn).now
  obtain ⟨rest, whole, before⟩ := h.split
  rcases before.perform steady h.exposed next fit with ⟨other, phase⟩ | ⟨rfl, later, rfl, phase⟩
  · rw [if_neg other, List.append_nil] at grown
    refine ⟨⟨rest, ?_, ?_⟩, ?_, h.exposed.perform next draw, h.punctual.perform next draw⟩
    · rw [grown, whole]
    · rw [grown]
      exact phase
    · rw [grown, now]
      exact h.reached
  · rw [if_pos rfl] at grown
    refine ⟨⟨later, ?_, ?_⟩, ?_, h.exposed.perform next draw, h.punctual.perform next draw⟩
    · rw [grown, List.append_assoc]
      exact whole
    · rw [grown, List.length_append]
      exact phase
    · rw [grown, now]
      intro instant listed
      rcases List.mem_append.mp listed with earlier | this
      · exact h.reached instant earlier
      · exact (List.mem_singleton.mp this).le

theorem Planned.move (h : Planned policy plan past l) {move : Move τ ι}
    (fit : l.bears move = true) (none : l.moment? move = none) :
    Planned policy plan past (l.move move) := by
  have aside := aside_move none
  have waited := waited_move (isTimely_of_bears fit) none
  obtain ⟨exposed, news⟩ := h.exposed.move fit none
  obtain ⟨rest, whole, phase⟩ := h.split
  refine ⟨⟨rest, whole, phase.waited h.exposed.listening aside waited news⟩, ?_, exposed,
    h.punctual.waited aside waited⟩
  intro instant made
  exact (h.reached instant made).trans waited.later

theorem Planned.after (steady : policy.jitters = false) (h : Planned policy plan past l)
    {moves : List (Move τ ι)} (outage : Throughout (fun l move => l.bears move = true) l moves) :
    Planned policy plan (past ++ l.moments moves) (l.after moves) :=
  history_throughout (fun l move => l.bears move = true)
    (fun _ _ _ _ h fit next => h.perform steady next fit) (fun _ _ _ h fit none => h.move fit none)
    past h outage

end Loop

end GameClient
