import GameClient.Proofs.Moments
import Mathlib.Order.Bounds.Basic

/-! # Timers

A timer fires at the first whole millisecond that is not before its instant. A loop sleeps only when
it has nothing to do, and not past a timer, so in a run without jumps of the clock no timer is late:
the ticks come at their instants, one period apart, and none is left out. -/

namespace GameClient

namespace Loop

variable {τ ι : Type}

/-! ## Instants -/

theorem isLeast_ripeAt (instant : Nat) :
    IsLeast {t | Duration.nanosPerMilli ∣ t ∧ instant ≤ t} (ripeAt instant) := by
  refine ⟨⟨Nat.dvd_mul_left _ _, ?_⟩, ?_⟩
  · simp only [ripeAt, Duration.nanosPerMilli]
    omega
  · rintro later ⟨⟨millis, rfl⟩, reached⟩
    simp only [ripeAt, Duration.nanosPerMilli] at reached ⊢
    omega

theorem le_ripeAt (instant : Nat) : instant ≤ ripeAt instant := (isLeast_ripeAt instant).1.2

theorem ripeAt_mono {first second : Nat} (h : first ≤ second) : ripeAt first ≤ ripeAt second :=
  (isLeast_ripeAt first).2 ⟨(isLeast_ripeAt second).1.1, h.trans (le_ripeAt second)⟩

/-! ## Runs without jumps of the clock -/

/-- The clock goes on by sleeping only. -/
def Move.isTimely : Move τ ι → Bool
  | clock _ _ => false
  | _ => true

/-- The instants of the moments in which the loop takes this turn. -/
def times (turn : Turn) (past : List (Moment τ ι)) : List Nat :=
  (past.filter fun m => m.turn = turn).map fun m => m.loop.now

theorem times_append (turn : Turn) (past more : List (Moment τ ι)) :
    times turn (past ++ more) = times turn past ++ times turn more := by
  rw [times, List.filter_append, List.map_append]
  rfl

theorem times_singleton (turn : Turn) (m : Moment τ ι) :
    times turn [m] = if m.turn = turn then [m.loop.now] else [] := by
  unfold times
  split <;> simp_all

/-- When the first timer of a running loop fires. -/
def alarm (l : Loop τ ι) : Nat :=
  match l.reconnectAt with
  | some instant => min (ripeAt l.nextTick) (ripeAt instant)
  | none => ripeAt l.nextTick

section Alarm

variable {l : Loop τ ι}

theorem nextWake?_of_running (running : l.status = .running) : l.nextWake? = some l.alarm := by
  rw [nextWake?, running, alarm]
  cases l.reconnectAt <;> rfl

theorem running_of_nextWake? {instant : Nat} (wakes : l.nextWake? = some instant) :
    l.status = .running := by
  unfold nextWake? at wakes
  split at wakes
  · assumption
  · assumption
  · cases wakes

theorem alarm_le_tick (l : Loop τ ι) : l.alarm ≤ ripeAt l.nextTick := by
  unfold alarm
  split
  · exact Nat.min_le_left _ _
  · exact Nat.le_refl _

theorem alarm_le_timer {instant : Nat} (armed : l.reconnectAt = some instant) :
    l.alarm ≤ ripeAt instant := by
  rw [alarm, armed]
  exact Nat.min_le_right _ _

theorem Idle.now_lt_alarm (idle : Idle l) : l.now < l.alarm := by
  unfold alarm
  split
  · next instant armed => exact Nat.lt_min.mpr ⟨idle.early, idle.unripe instant armed⟩
  · exact idle.early

/-- Time may have passed, but a loop that runs is not late for its first timer. -/
structure Waited (l l' : Loop τ ι) : Prop where
  nextTick : l'.nextTick = l.nextTick
  later : l.now ≤ l'.now
  onTime : l.status = .running → l'.now ≤ max l.now l.alarm
  busy : l.turn?.isSome = true → l'.now = l.now

theorem waited_of_eq {l l' : Loop τ ι} (nextTick : l'.nextTick = l.nextTick)
    (now : l'.now = l.now) : Waited l l' :=
  ⟨nextTick, now.ge, fun _ => now.le.trans (Nat.le_max_left _ _), fun _ => now⟩

theorem waited_sleep (l : Loop τ ι) (instant : Nat) : Waited l (l.sleep instant) := by
  cases next : l.turn? with
  | some turn =>
    have same : l.sleep instant = l := by simp only [sleep, next]
    rw [same]
    exact waited_of_eq rfl rfl
  | none =>
    have idle : l.turn?.isSome = true → (l.sleep instant).now = l.now := by
      rw [next]
      exact nofun
    refine ⟨?_, ?_, ?_, idle⟩
    · unfold sleep
      split <;> rfl
    · unfold sleep
      split
      · exact Nat.le_refl _
      · exact Nat.le_max_left _ _
      · exact Nat.le_max_left _ _
    · intro running
      simp only [sleep, next, nextWake?_of_running running]
      omega

end Alarm

variable [Transport τ] [Sampler ι] {l : Loop τ ι}

theorem waited_move {move : Move τ ι} (timely : move.isTimely = true)
    (none : l.moment? move = none) : Waited l (l.move move) := by
  cases move with
  | turn draw =>
    rw [move_turn_of_none none]
    exact waited_of_eq rfl rfl
  | post event =>
    simp only [Loop.move, post]
    split <;> exact waited_of_eq rfl rfl
  | closeChannel => exact waited_of_eq rfl rfl
  | requestStop => exact waited_of_eq rfl rfl
  | disturb act =>
    simp only [Loop.move, disturb]
    split <;> exact waited_of_eq rfl rfl
  | press input => exact waited_of_eq rfl rfl
  | wait instant => exact waited_sleep l instant
  | clock now nextTick => cases timely

/-- The moves by which the loop runs until `limit`. -/
def advancing (draw : Binary64) (limit : Nat) : (steps : Nat) → Loop τ ι → List (Move τ ι)
  | 0, _ => []
  | steps + 1, l =>
    match l.turn? with
    | some turn => .turn draw :: advancing draw limit steps (l.perform draw turn).1
    | none =>
      match l.nextWake? with
      | some instant =>
        .wait limit :: if instant < limit then advancing draw limit steps (l.sleep limit) else []
      | none => [.wait limit]

theorem isTimely_of_mem_advancing {draw : Binary64} {limit steps : Nat} :
    ∀ move ∈ advancing draw limit steps l, move.isTimely = true := by
  induction steps generalizing l with
  | zero => exact nofun
  | succ steps ih =>
    unfold advancing
    split
    · exact List.forall_mem_cons.mpr ⟨rfl, ih⟩
    · split
      · refine List.forall_mem_cons.mpr ⟨rfl, ?_⟩
        split
        · exact ih
        · exact nofun
      · exact List.forall_mem_cons.mpr ⟨rfl, nofun⟩

/-- The loop with its clock makes these moves. -/
theorem advance_eq (draw : Binary64) {limit : Nat} (steps : Nat) (within : l.now ≤ limit)
    (past : Array Effect) : advance draw limit steps (l, past) =
      (l.after (advancing draw limit steps l), past ++ l.doings (advancing draw limit steps l)) := by
  induction steps generalizing past l with
  | zero => exact congrArg (l, ·) Array.appendList_nil.symm
  | succ steps ih =>
    unfold advance advancing
    dsimp only
    cases next : l.turn? with
    | some turn =>
      have joined : past ++ (l.perform draw turn).2 ++
            (l.perform draw turn).1.doings (advancing draw limit steps (l.perform draw turn).1) =
          past ++ l.doings (.turn draw :: advancing draw limit steps (l.perform draw turn).1) := by
        rw [doings_turn next]
        exact Array.ext' (by simp)
      dsimp only
      rw [ih ((l.situated_perform draw turn).now ▸ within), joined, after, move_turn next]
    | none =>
      cases wakes : l.nextWake? with
      | some instant =>
        have running := running_of_nextWake? wakes
        have ahead : l.now < instant := by
          rw [nextWake?_of_running running] at wakes
          cases wakes
          exact ((turn?_eq_none_iff running).mp next).now_lt_alarm
        have slept : l.sleep limit = { l with now := min limit instant } := by
          simp only [sleep, next, wakes, Nat.max_eq_right (Nat.le_min.mpr ⟨within, ahead.le⟩)]
        dsimp only
        split
        · next before =>
          rw [Nat.min_eq_right before.le] at slept
          rw [← slept]
          exact ih (slept ▸ before.le) past
        · next beyond =>
          rw [Nat.min_eq_left (Nat.not_lt.mp beyond)] at slept
          rw [← slept]
          exact congrArg (l.sleep limit, ·) Array.appendList_nil.symm
      | none =>
        have slept : l.sleep limit = { l with now := limit } := by
          simp only [sleep, next, wakes, Nat.max_eq_right within]
        dsimp only
        rw [← slept]
        exact congrArg (l.sleep limit, ·) Array.appendList_nil.symm

/-- A loop that runs has ticks that are apart, and the next one is not overdue. -/
structure Punctual (l : Loop τ ι) : Prop where
  early : l.status = .running → l.now ≤ ripeAt l.nextTick
  apart : l.status = .running → 0 < l.period.nanos

omit [Sampler ι] in
/-- A loop whose ticks are not apart fails at its start. -/
theorem apart_begin {draw : Binary64} (running : (l.begin draw).1.status = .running) :
    0 < (l.begin draw).1.period.nanos := by
  simp only [begin_eq] at running ⊢
  split at running
  · cases running
  · next sound =>
    rw [if_neg sound]
    exact Nat.pos_of_ne_zero fun none => sound ⟨running, none⟩

theorem apart_perform (apart : l.status = .running → 0 < l.period.nanos) {turn : Turn}
    (next : l.turn? = some turn) (draw : Binary64)
    (still : (l.perform draw turn).1.status = .running) :
    0 < (l.perform draw turn).1.period.nanos := by
  have period := (l.situated_perform draw turn).period
  cases next_of_turn? next with
  | begin => exact apart_begin still
  | stop => cases still
  | tick running => exact period ▸ apart running
  | event unhurried => exact period ▸ apart unhurried.running
  | channelClosed unhurried => exact period ▸ apart unhurried.running
  | reconnect unhurried => exact period ▸ apart unhurried.running

/-- The ticks of a loop that runs are apart, whatever its clock shows. -/
theorem apart_after (config : LoopConfig) (client : Client τ ι) (moves : List (Move τ ι)) :
    ((Loop.new config client).after moves).status = .running →
      0 < ((Loop.new config client).after moves).period.nanos := by
  have new : (Loop.new config client).status = .running →
      0 < (Loop.new config client).period.nanos := nofun
  refine invariant_after (P := fun l => l.status = .running → 0 < l.period.nanos) ?_ ?_ new moves
  · exact fun l turn draw apart next => apart_perform apart next draw
  · intro l l' apart aside running
    rw [aside.period]
    exact apart (aside.status.symm.trans running)

theorem Punctual.perform (h : Punctual l) {turn : Turn} (next : l.turn? = some turn)
    (draw : Binary64) : Punctual (l.perform draw turn).1 := by
  refine ⟨?_, apart_perform h.apart next draw⟩
  intro _
  have situated := l.situated_perform draw turn
  rw [situated.now, situated.nextTick]
  cases next_of_turn? next with
  | begin => exact le_ripeAt l.now
  | stop running => exact h.early running
  | tick running => exact (h.early running).trans (ripeAt_mono (Nat.le_add_right _ _))
  | event unhurried => exact h.early unhurried.running
  | channelClosed unhurried => exact h.early unhurried.running
  | reconnect unhurried => exact h.early unhurried.running

omit [Transport τ] [Sampler ι] in
theorem Punctual.waited {l' : Loop τ ι} (h : Punctual l) (aside : Aside l l')
    (waited : Waited l l') : Punctual l' := by
  constructor
  · intro running
    rw [aside.status] at running
    have early := h.early running
    have alarm := l.alarm_le_tick
    have onTime := waited.onTime running
    rw [waited.nextTick]
    omega
  · intro running
    rw [aside.period]
    exact h.apart (aside.status.symm.trans running)

/-- A loop is punctual in all its runs without jumps of the clock. -/
theorem punctual_after (config : LoopConfig) (client : Client τ ι) {moves : List (Move τ ι)}
    (timely : ∀ move ∈ moves, move.isTimely = true) :
    Punctual ((Loop.new config client).after moves) := by
  have new : Punctual (Loop.new config client) := ⟨nofun, nofun⟩
  refine history_throughout (fun _ move => move.isTimely = true) (P := fun _ l => Punctual l)
    ?_ ?_ [] new (throughout_of_forall (fun move listed _ => timely move listed) _)
  · exact fun _ l turn draw h _ next => h.perform next draw
  · exact fun _ l move h timely none => h.waited (aside_move none) (waited_move timely none)

/-- The loop has ticked on time since its next tick was due at `start`. -/
structure Rhythm (start interval : Nat) (past : List (Moment τ ι)) (l : Loop τ ι) : Prop where
  begun : l.status ≠ .fresh
  period : l.period.nanos = interval
  ticks : times .tick past =
    (List.range (times .tick past).length).map fun i => ripeAt (start + i * interval)
  next : l.nextTick = start + (times .tick past).length * interval
  punctual : Punctual l

theorem Rhythm.perform {start interval : Nat} {past : List (Moment τ ι)}
    (h : Rhythm start interval past l) {turn : Turn} (next : l.turn? = some turn)
    (draw : Binary64) :
    Rhythm start interval (past ++ [⟨l, turn, draw⟩]) (l.perform draw turn).1 := by
  have grown := times_append .tick past [⟨l, turn, draw⟩]
  rw [times_singleton] at grown
  have situated := l.situated_perform draw turn
  refine ⟨?_, situated.period ▸ h.period, ?_, ?_, h.punctual.perform next draw⟩
  · exact status_perform_ne_fresh next draw
  · rw [grown]
    cases next_of_turn? next with
    | tick running _ due =>
      have now : l.now = ripeAt (start + (times .tick past).length * interval) := by
        rw [← h.next]
        exact Nat.le_antisymm (h.punctual.early running) due
      rw [if_pos rfl, List.length_append, List.length_singleton, List.range_succ, List.map_append,
        ← h.ticks, now]
      rfl
    | begin fresh => exact absurd fresh h.begun
    | _ => simpa using h.ticks
  · rw [grown, situated.nextTick]
    cases next_of_turn? next with
    | tick =>
      rw [if_pos rfl, List.length_append, List.length_singleton, Nat.succ_mul, ← Nat.add_assoc,
        ← h.next, ← h.period]
      rfl
    | begin fresh => exact absurd fresh h.begun
    | _ => simpa [tickAfter] using h.next

theorem Rhythm.move {start interval : Nat} {past : List (Moment τ ι)}
    (h : Rhythm start interval past l) {move : Move τ ι} (timely : move.isTimely = true)
    (none : l.moment? move = none) : Rhythm start interval past (l.move move) := by
  have aside := aside_move none
  have waited := waited_move timely none
  exact ⟨aside.status ▸ h.begun, aside.period ▸ h.period, h.ticks, waited.nextTick ▸ h.next,
    h.punctual.waited aside waited⟩

/-- The ticks come on time, one period apart, and none that is due is left out. -/
theorem Rhythm.after {start interval : Nat} {past : List (Moment τ ι)}
    (h : Rhythm start interval past l) {moves : List (Move τ ι)}
    (timely : ∀ move ∈ moves, move.isTimely = true) :
    Rhythm start interval (past ++ l.moments moves) (l.after moves) :=
  history_throughout (fun _ move => move.isTimely = true)
    (fun _ _ _ draw h _ next => h.perform next draw) (fun _ _ _ h timely none => h.move timely none)
    past h (throughout_of_forall (fun move listed _ => timely move listed) l)

end Loop

end GameClient
