import GameClient.Player.Script
import GameClient.Proofs.Scaling
import GameClient.Proofs.Stopping
import GameClient.Proofs.Timing
import GameClient.Settings
import Mathlib.Data.List.Induction

/-! # Tick rates

A period is the reciprocal of a rate in doubles, rounded to whole nanoseconds. It is a second at
most, and a higher rate never has a longer one. Of a rate above two ticks per nanosecond nothing is
left by the rounding, and a timer without a period makes the loop fail in its first turn, when the
link has already been asked for. Nothing keeps such a rate out of the settings. -/

namespace GameClient

open Binary64 Effect

namespace Duration

theorem ofSeconds?_eq {x : Binary64} (plus : x.isNegative = false) (short : x.magnitude < limit) :
    ofSeconds? x = some ⟨divNearest (x.size * nanosPerSecond) grains⟩ := by
  have fits := (isSome_ofSeconds?_iff x).mpr ⟨.inl plus, short⟩
  have read := x.reads
  unfold ofSeconds? at fits ⊢
  generalize x.value = value at read fits
  cases read with
  | @finite significand exponent _ least size =>
    have unit : 0 < 2 ^ (-exponent).toNat := Nat.two_pow_pos _
    have scaled : significand * 2 ^ exponent.toNat * nanosPerSecond * grains =
        x.size * nanosPerSecond * 2 ^ (-exponent).toNat := by
      rw [Nat.mul_right_comm _ nanosPerSecond, mul_grains least size, Nat.mul_right_comm]
    have rounded : divNearest (significand * 2 ^ exponent.toNat * nanosPerSecond)
        (2 ^ (-exponent).toNat) = divNearest (x.size * nanosPerSecond) grains := by
      rw [← divNearest_mul_mul _ _ grains_pos, scaled, Nat.mul_comm (2 ^ (-exponent).toNat),
        divNearest_mul_mul _ _ unit]
    dsimp only at fits ⊢
    split at fits
    · cases fits
    next kept =>
    split at fits
    · cases fits
    next inside =>
    rw [if_neg kept, if_neg inside, rounded]
  | infinite => cases fits
  | nan => cases fits

end Duration

/-! ## Periods -/

/-- The nanoseconds between two ticks, of so many in a second. -/
@[irreducible] def interval (rate : Nat) : Nat :=
  divNearest (sizeAt (nearest 1 rate) * Duration.nanosPerSecond) grains

theorem interval_antitone {rate rate' : Nat} (pos : 0 < rate) (h : rate ≤ rate') :
    interval rate' ≤ interval rate := by
  have pos' : 0 < rate' := Nat.lt_of_lt_of_le pos h
  have slower : nearest 1 rate' ≤ nearest 1 rate :=
    nearest_le_nearest pos' pos (Nat.mul_le_mul_left 1 h)
  have sizes : sizeAt (nearest 1 rate') * Duration.nanosPerSecond ≤
      sizeAt (nearest 1 rate) * Duration.nanosPerSecond :=
    Nat.mul_le_mul_right _ (sizeAt_strictMono.monotone slower)
  unfold interval
  exact divNearest_le_divNearest_left grains sizes

theorem interval_one : interval 1 = Duration.nanosPerSecond := by decide +kernel

/-- The double that is nearest to half a nanosecond is above it, so this rate still has a period. -/
theorem interval_highest : interval 2000000000 = 1 := by decide +kernel

theorem interval_beyond : interval 2000000001 = 0 := by decide +kernel

/-- A reciprocal is one at most, so it is a number of seconds that has a duration. -/
theorem magnitude_reciprocal {rate : Nat} (pos : 0 < rate) :
    (ofRatio false 1 rate).magnitude = nearest 1 rate ∧ nearest 1 rate < Duration.limit := by
  have bound : nearest 1 rate ≤ nearest 1 1 :=
    nearest_le_nearest pos Nat.one_pos (Nat.mul_le_mul_left 1 pos)
  have least : nearest 1 1 < Duration.limit := by decide +kernel
  have top : Duration.limit ≤ infinityMagnitude := by decide
  have short := Nat.lt_of_le_of_lt bound least
  refine ⟨?_, short⟩
  rw [magnitude_ofRatio, Nat.min_eq_right]
  exact Nat.le_trans (Nat.le_of_lt short) top

namespace LoopConfig

def rate (config : LoopConfig) : Nat := max config.tickRate.toNat 1

theorem rate_pos (config : LoopConfig) : 0 < config.rate := Nat.le_max_right _ 1

theorem tickPeriod_eq (config : LoopConfig) : config.tickPeriod = ⟨interval config.rate⟩ := by
  obtain ⟨magnitude, short⟩ := magnitude_reciprocal config.rate_pos
  have period := Duration.ofSeconds?_eq (isNegative_ofRatio false 1 config.rate) (magnitude ▸ short)
  rw [size, magnitude] at period
  have defined : config.tickPeriod = (Duration.ofSeconds? (ofRatio false 1 config.rate)).getD ⟨0⟩ :=
    rfl
  rw [defined, period, Option.getD_some]
  unfold interval
  rfl

theorem tickPeriod_antitone {config config' : LoopConfig}
    (h : config.tickRate ≤ config'.tickRate) : config'.tickPeriod ≤ config.tickPeriod := by
  have order : config.tickRate.toNat ≤ config'.tickRate.toNat := UInt32.le_iff_toNat_le.mp h
  have rates : config.rate ≤ config'.rate := by
    rw [rate, rate]
    omega
  rw [tickPeriod_eq, tickPeriod_eq]
  exact Duration.le_def.mpr (interval_antitone config.rate_pos rates)

theorem tickPeriod_le (config : LoopConfig) : config.tickPeriod ≤ .ofSecs 1 := by
  have slowest := interval_antitone Nat.one_pos config.rate_pos
  rw [interval_one] at slowest
  rw [tickPeriod_eq]
  exact Duration.le_def.mpr slowest

/-- Up to two ticks per nanosecond have a period. -/
theorem tickPeriod_pos_iff (config : LoopConfig) :
    0 < config.tickPeriod.nanos ↔ config.tickRate ≤ 2000000000 := by
  have order : config.tickRate ≤ 2000000000 ↔ config.tickRate.toNat ≤ 2000000000 :=
    UInt32.le_iff_toNat_le
  have rate : config.rate = max config.tickRate.toNat 1 := rfl
  have nanos : config.tickPeriod.nanos = interval config.rate := congrArg _ config.tickPeriod_eq
  rw [nanos, order]
  constructor
  · intro apart
    by_contra beyond
    have none : interval config.rate ≤ interval 2000000001 :=
      interval_antitone (by decide) (by omega)
    rw [interval_beyond] at none
    omega
  · intro slow
    have least : interval 2000000000 ≤ interval config.rate :=
      interval_antitone config.rate_pos (by omega)
    rw [interval_highest] at least
    omega

end LoopConfig

namespace Loop

variable {τ ι : Type} {config : LoopConfig} {l l' : Loop τ ι}

/-! ## Faults -/

/-- What gives reason for a fault. -/
inductive Reason (config : LoopConfig) : Fault → Prop
  | zeroPeriod : config.tickPeriod.nanos = 0 → Reason config .zeroPeriod
  | delayOverflow : config.reconnect.isSome = true → Reason config .delayOverflow
  | instantOverflow : config.reconnect.isSome = true → Reason config .instantOverflow

/-- The loop has the period and the backoff of its configuration, and fails for a reason only. -/
structure Configured (config : LoopConfig) (l : Loop τ ι) : Prop where
  period : l.period = config.tickPeriod
  backoff : l.backoff.isSome = config.reconnect.isSome
  fault : ∀ fault, l.status = .failed fault → Reason config fault

theorem configured_new (config : LoopConfig) (client : Client τ ι) :
    Configured config (Loop.new config client) :=
  ⟨rfl, Option.isSome_map, nofun⟩

namespace Configured

theorem of_status (h : Configured config l) (period : l'.period = l.period)
    (backoff : l'.backoff.isSome = l.backoff.isSome)
    (sound : ∀ fault, l'.status = .failed fault → Reason config fault) : Configured config l' :=
  ⟨period.trans h.period, backoff.trans h.backoff, sound⟩

theorem same (h : Configured config l) (period : l'.period = l.period)
    (backoff : l'.backoff.isSome = l.backoff.isSome) (status : l'.status = l.status) :
    Configured config l' :=
  h.of_status period backoff fun fault failed => h.fault fault (status.symm.trans failed)

theorem schedule (h : Configured config l) (draw : Binary64) :
    Configured config (l.schedule draw).1 := by
  unfold Loop.schedule
  split
  · exact h.same rfl rfl rfl
  next backoff held =>
  have timed : config.reconnect.isSome = true := by
    rw [← h.backoff, held]
    rfl
  have kept (later : Backoff) : (some later).isSome = l.backoff.isSome := by
    rw [held]
    rfl
  split
  · exact h.same rfl rfl rfl
  · next later _ =>
    refine h.of_status rfl (kept later) ?_
    rintro _ ⟨⟩
    exact .delayOverflow timed
  · next delay later _ =>
    dsimp only
    split
    · refine h.of_status rfl (kept later) ?_
      rintro _ ⟨⟩
      exact .instantOverflow timed
    · exact h.same rfl (kept later) rfl

theorem react (h : Configured config l) (draw : Binary64) (why : TransportError → Notice)
    (answer : Answer) : Configured config (l.react draw why answer).1 := by
  cases answer with
  | accepted => exact h
  | refused error => exact h.schedule draw

theorem heed (h : Configured config l) (draw : Binary64) (event : Event) :
    Configured config (l.heed draw event).1 := by
  cases event with
  | connected => exact h.same rfl Option.isSome_map rfl
  | disconnected => exact h.schedule draw
  | frame bytes => exact h

theorem aside (h : Configured config l) (aside : Aside l l') : Configured config l' :=
  h.same aside.period (congrArg Option.isSome aside.backoff) aside.status

variable [Transport τ] [Sampler ι]

theorem perform (h : Configured config l) (draw : Binary64) (turn : Turn) :
    Configured config (l.perform draw turn).1 := by
  cases turn with
  | begin =>
    have begun : Configured config l.begun := h.of_status rfl rfl (by rintro _ ⟨⟩)
    have reacted := begun.react draw .firstConnectRefused l.client.start.1
    simp only [Loop.perform, begin_eq]
    split
    · next none =>
      refine reacted.of_status rfl rfl ?_
      rintro _ ⟨⟩
      exact .zeroPeriod (reacted.period ▸ none.2)
    · exact reacted
  | stop => exact h.of_status rfl rfl (by rintro _ ⟨⟩)
  | tick => exact h.same rfl rfl rfl
  | event event =>
    have tail : Configured config { l with queue := l.queue.tail } := h.same rfl rfl rfl
    have heard := l.heard draw event
    exact (tail.heed draw event).same heard.period (congrArg Option.isSome heard.backoff)
      heard.status
  | channelClosed => exact h.same rfl rfl rfl
  | reconnect =>
    have retried : Configured config l.retried := h.same rfl rfl rfl
    rw [Loop.perform, reconnect_eq]
    exact retried.react draw .reconnectRefused l.client.reconnect.1

theorem after (h : Configured config l) (moves : List (Move τ ι)) :
    Configured config (l.after moves) :=
  invariant_after (fun _ turn draw h _ => h.perform draw turn) (fun _ _ h => h.aside) h moves

end Configured

variable [Transport τ] [Sampler ι]

/-! ## Loops that end with a teardown -/

/-- A loop that has stopped has torn its client down and has nothing left. -/
theorem settled_after (config : LoopConfig) (client : Client τ ι) (moves : List (Move τ ι))
    (stopped : ((Loop.new config client).after moves).status = .stopped) :
    Settled ((Loop.new config client).after moves) ∧
      ((Loop.new config client).after moves).client.tornDown = true := by
  -- From the end: the last move is the stop, or the loop had stopped before it.
  induction moves using List.reverseRecOn with
  | nil => cases stopped
  | append_singleton moves move ih =>
    have standing := standing_after config client moves
    rw [after_append] at stopped ⊢
    generalize (Loop.new config client).after moves = l at *
    cases moment : l.moment? move with
    | none =>
      have aside := aside_move moment
      obtain ⟨settled, torn⟩ := ih (aside.status.symm.trans stopped)
      exact ⟨(settled.after [move]).2, aside.tornDown.trans torn⟩
    | some m =>
      cases move with
      | turn draw =>
        obtain ⟨turn, next, -⟩ := Option.map_eq_some_iff.mp moment
        rw [after, after, move_turn next] at stopped ⊢
        rcases status_perform next draw with ⟨rfl, -⟩ | ⟨-, running⟩ | ⟨fault, failed⟩
        · cases next_of_turn? next with
          | stop running =>
            have torn := l.client.tornDown_perform_eq .teardown
            exact ⟨settled_stop (standing running), torn⟩
        · cases running.symm.trans stopped
        · cases failed.symm.trans stopped
      | _ => cases moment

/-- A loop that was asked to stop, two turns later: it has torn its client down, or it has failed
for a reason. -/
theorem ended_of_asked (config : LoopConfig) (client : Client τ ι) (moves : List (Move τ ι))
    (asked : ((Loop.new config client).after moves).stopRequested = true) (draw draw' : Binary64) :
    let l := ((Loop.new config client).after moves).after [.turn draw, .turn draw']
    (Settled l ∧ l.client.tornDown = true) ∨
      ∃ fault, l.status = .failed fault ∧ Reason config fault := by
  intro l
  have whole : l = (Loop.new config client).after (moves ++ [.turn draw, .turn draw']) :=
    (after_append ..).symm
  have ended : l.isAlive = false := isAlive_of_asked asked draw draw'
  cases status : l.status with
  | fresh => simp [isAlive, status] at ended
  | running => simp [isAlive, status] at ended
  | stopped =>
    rw [whole] at status ⊢
    exact .inl (settled_after config client _ status)
  | failed fault =>
    have configured : Configured config l := whole ▸ (configured_new config client).after _
    exact .inr ⟨fault, rfl, configured.fault fault status⟩

/-! ## Loops without a period -/

/-- The loop asks for its first link and fails, so it takes no stop and says no farewell. -/
structure Stillborn (l : Loop τ ι) (moves : List (Move τ ι)) : Prop where
  asks : ∀ draw, connects (l.perform draw .begin).2 = [(Transport.connect l.client.transport).1]
  first : ∀ m ∈ l.moments moves, m.turn = .begin
  ended : (l.after moves).status = .fresh ∨ ∃ fault, (l.after moves).status = .failed fault
  silent : farewells (l.doings moves) = []

theorem connects_begin (draw : Binary64) (l : Loop τ ι) :
    connects (l.perform draw .begin).2 = [(Transport.connect l.client.transport).1] := by
  have inward (effect : Effect) (inward : effect.isOutward = false) : effect.connected? = none := by
    cases effect with
    | note => rfl
    | publish => rfl
    | _ => cases inward
  have reported : connects ((Transport.connect l.client.transport).2.1.map .report) = [] :=
    filterMap_map_eq_nil (fun _ => rfl) _
  have started : l.client.effects [.start] = .note .clientStarting ::
      .connect (Transport.connect l.client.transport).1 ::
      (Transport.connect l.client.transport).2.1.map .report := List.append_nil _
  rw [connects, filterMap_perform inward, calls, started, ← connects, connects_cons, connects_cons,
    reported]
  rfl

theorem stillborn_of_zeroPeriod (config : LoopConfig) (client : Client τ ι)
    (none : config.tickPeriod.nanos = 0) (moves : List (Move τ ι)) :
    Stillborn (Loop.new config client) moves := by
  have kept := history_after (l := Loop.new config client)
    (P := fun past l => (∀ m ∈ past, m.turn = .begin) ∧ l.period = config.tickPeriod ∧
      (l.status = .fresh ∨ ∃ fault, l.status = .failed fault))
    ?_ ?_ [] ⟨List.forall_mem_nil _, rfl, .inl rfl⟩ moves
  · obtain ⟨first, -, ended⟩ := kept
    refine ⟨fun draw => connects_begin draw _, first, ended, ?_⟩
    rw [farewells, doings, List.filterMap_flatMap, List.flatMap_eq_nil_iff]
    intro m listed
    exact farewells_perform (by simp [first m listed]) m.draw
  · rintro past l turn draw ⟨first, period, ended⟩ next
    obtain rfl : turn = .begin := by
      rcases ended with fresh | ⟨fault, failed⟩
      · rw [turn?, fresh] at next
        exact (Option.some.inj next).symm
      · rw [turn?, failed] at next
        cases next
    have period := (l.situated_perform draw .begin).period.trans period
    refine ⟨List.forall_mem_append.mpr ⟨first, by simp⟩, period, ?_⟩
    rcases status_perform next draw with ⟨stops, -⟩ | ⟨-, running⟩ | failed
    · cases stops
    · have apart : 0 < (l.perform draw .begin).1.period.nanos := apart_begin running
      rw [period, none] at apart
      cases apart
    · exact .inr failed
  · rintro past l l' ⟨first, period, ended⟩ aside
    rw [aside.period, aside.status]
    exact ⟨first, period, ended⟩

end Loop

open Loop

/-- The loop has failed over its backoff, for want of a delay that is a duration or leads to an
instant. -/
def Loop.LacksDelay {τ ι : Type} (config : LoopConfig) (l : Loop τ ι) : Prop :=
  config.reconnect.isSome = true ∧
    (l.status = .failed .delayOverflow ∨ l.status = .failed .instantOverflow)

namespace LoopConfig

/-- Ticks are apart, so loops get under way with any client, and once they are asked to stop they
end with a teardown. The lack of a reconnect delay is the only other end. -/
structure Sustained (config : LoopConfig) : Prop where
  apart : 0 < config.tickPeriod.nanos
  begins : ∀ {τ ι : Type} [Transport τ] [Sampler ι] (client : Client τ ι) (draw : Binary64),
    let l := ((Loop.new config client).perform draw .begin).1
    l.status = .running ∨ LacksDelay config l
  ends : ∀ {τ ι : Type} [Transport τ] [Sampler ι] (client : Client τ ι) (moves : List (Move τ ι)),
    ((Loop.new config client).after moves).stopRequested = true → ∀ draw draw',
      let l := ((Loop.new config client).after moves).after [.turn draw, .turn draw']
      Settled l ∧ l.client.tornDown = true ∨ LacksDelay config l

theorem lacksDelay_of_reason {config : LoopConfig} (apart : 0 < config.tickPeriod.nanos)
    {τ ι : Type} {l : Loop τ ι} {fault : Fault} (failed : l.status = .failed fault)
    (reason : Reason config fault) : LacksDelay config l := by
  cases reason with
  | zeroPeriod none => exact absurd none (Nat.ne_of_gt apart)
  | delayOverflow timed => exact ⟨timed, .inl failed⟩
  | instantOverflow timed => exact ⟨timed, .inr failed⟩

theorem sustained_of_apart {config : LoopConfig} (apart : 0 < config.tickPeriod.nanos) :
    config.Sustained where
  apart := apart
  begins client draw := by
    have next : (Loop.new config client).turn? = some .begin := rfl
    have configured := (configured_new config client).perform draw .begin
    rcases status_perform next draw with ⟨stops, -⟩ | ⟨-, running⟩ | ⟨fault, failed⟩
    · cases stops
    · exact .inl running
    · exact .inr (lacksDelay_of_reason apart failed (configured.fault fault failed))
  ends client moves asked draw draw' := by
    rcases ended_of_asked config client moves asked draw draw' with settled | failed
    · exact .inl settled
    · obtain ⟨fault, failed, reason⟩ := failed
      exact .inr (lacksDelay_of_reason apart failed reason)

end LoopConfig

namespace Settings

/-- Of the rates that a file or a command line can carry, exactly those of up to two ticks per
nanosecond sustain a loop. With any other one a loop fails in its first turn, and no stop tears its
client down. -/
theorem sustained_iff (s : Settings) (o : Overrides) :
    let config := (s.override o).loopConfig
    config.tickPeriod ≤ .ofSecs 1 ∧
    (∀ config' : LoopConfig, config.tickRate ≤ config'.tickRate →
      config'.tickPeriod ≤ config.tickPeriod) ∧
    (config.Sustained ↔ o.tickRate.getD s.network.tickRate ≤ 2000000000) ∧
    (¬ config.Sustained → config.tickPeriod = ⟨0⟩ ∧
      ∀ {τ ι : Type} [Transport τ] [Sampler ι] (client : Client τ ι) (moves : List (Move τ ι)),
        Stillborn (Loop.new config client) moves) := by
  intro config
  have carried : config.tickRate = o.tickRate.getD s.network.tickRate := rfl
  have sustained : config.Sustained ↔ 0 < config.tickPeriod.nanos :=
    ⟨fun sound => sound.apart, LoopConfig.sustained_of_apart⟩
  refine ⟨config.tickPeriod_le, fun config' => LoopConfig.tickPeriod_antitone, ?_, ?_⟩
  · rw [sustained, ← carried]
    exact config.tickPeriod_pos_iff
  · intro unsustained
    have none : config.tickPeriod.nanos = 0 := Nat.eq_zero_of_not_pos (mt sustained.mpr unsustained)
    refine ⟨congrArg Duration.mk none, fun client => ?_⟩
    exact stillborn_of_zeroPeriod config client none

/-- One tick per second too many. -/
def tooFast : LoopConfig := (({} : Settings).override { tickRate := some 2000000001 }).loopConfig

/-- The link is up when the loop fails, and the stop leaves it so. -/
theorem not_sustained_of_tooFast :
    ¬ tooFast.Sustained ∧
      let l := (Loop.new tooFast (.new (τ := Memory) {} ({} : KeyScript))).after
        [.turn .one, .requestStop, .turn .one, .turn .one]
      l.status = .failed .zeroPeriod ∧ l.client.tornDown = false ∧
        l.client.transport.isUp = true := by
  refine ⟨fun sustained => ?_, by decide +kernel⟩
  have apart := tooFast.tickPeriod_pos_iff.mp sustained.apart
  exact absurd apart (by decide)

end Settings

end GameClient
