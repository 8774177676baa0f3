import GameClient.Player.Script
import GameClient.Proofs.Factors
import GameClient.Proofs.Moments
import GameClient.Proofs.Requests
import GameClient.Proofs.Scaling
import GameClient.Settings
import GameClient.Transport.Memory

/-! # Backoffs that overflow

The growth is multiplied in before the cap is applied, so the product may be no duration although
the cap is one. Jitter does no harm, for it never more than doubles a delay. So a policy that can be
set overflows exactly if its course does, and a multiplier is harmless in all settings exactly if it
is NaN or below a thousand. -/

namespace GameClient

open Binary64

namespace Backoff

/-! ## Courses without end -/

namespace Policy

variable {p : Policy} {draw : Binary64}

/-- Whatever is asked, no product overflows. -/
def OverflowFree (p : Policy) : Prop :=
  ∀ requests, (∀ draw, .next draw ∈ requests → p.MayDraw draw) →
    .overflow ∉ (new p).outcomes Duration.scale? requests

theorem isSome_base_of_le {scale? : Duration → Binary64 → Option Duration} {count bound : Nat}
    (h : count ≤ bound) (reached : (p.base scale? bound).isSome = true) :
    (p.base scale? count).isSome = true := by
  induction bound with
  | zero =>
    obtain rfl := Nat.le_zero.mp h
    exact reached
  | succ bound ih =>
    rcases Nat.le_succ_iff.mp h with below | rfl
    · refine ih below ?_
      cases step : p.base scale? bound with
      | none =>
        rw [base, step] at reached
        cases reached
      | some delay => rfl
    · exact reached

/-- Both delays can be set in whole milliseconds. -/
structure Settable (p : Policy) : Prop where
  initialDelay : p.initialDelay ≤ Duration.longest
  maxDelay : p.maxDelay ≤ Duration.longest

theorem Settable.base_le (h : p.Settable) {scale? : Duration → Binary64 → Option Duration}
    {count : Nat} {delay : Duration} (reached : p.base scale? count = some delay) :
    delay ≤ Duration.longest := by
  cases count with
  | zero =>
    cases reached
    exact h.initialDelay
  | succ count =>
    obtain ⟨before, -, grown⟩ := Option.bind_eq_some_iff.mp reached
    obtain ⟨product, -, rfl⟩ := Option.map_eq_some_iff.mp grown
    exact Nat.le_trans (Duration.min_le_right product p.maxDelay) h.maxDelay

theorem MayDraw.isSome_scale? (h : p.MayDraw draw) {delay : Duration}
    (short : delay ≤ Duration.longest) : (delay.scale? draw).isSome = true := by
  obtain ⟨nonneg, bound⟩ := h.bounds
  exact Duration.isSome_scale?_of_lt short nonneg (Nat.lt_of_le_of_lt bound (by decide))

end Policy

namespace OnCourse

variable {p : Policy} {b : Backoff} {draw : Binary64}

theorem next_ne_overflow (h : OnCourse Duration.scale? p b) (settable : p.Settable)
    (endless : (p.base Duration.scale? p.maxAttempts.toNat).isSome = true)
    (may : p.MayDraw draw) : (b.next draw).1 ≠ .overflow := by
  intro lost
  have result := asking Duration.scale? b draw
  rw [Backoff.next] at lost
  generalize b.nextWith Duration.scale? draw = asked at *
  cases result with
  | exhausted => cases lost
  | wait => cases lost
  | overflow room why =>
    rcases why with ⟨-, jittered⟩ | grown
    · have drawn := may.isSome_scale? (settable.base_le h.delay)
      rw [jittered] at drawn
      cases drawn
    · have next : b.attempts + 1 ≤ p.maxAttempts.toNat := h.policy ▸ room
      have further := Policy.isSome_base_of_le next endless
      rw [Policy.base, h.delay, ← h.policy] at further
      simp [grown] at further

theorem sound (h : OnCourse Duration.scale? p b) (settable : p.Settable)
    (endless : (p.base Duration.scale? p.maxAttempts.toNat).isSome = true)
    {requests : List Request} (may : ∀ draw, .next draw ∈ requests → p.MayDraw draw) :
    .overflow ∉ b.outcomes Duration.scale? requests := by
  induction requests generalizing b with
  | nil => exact nofun
  | cons request requests ih =>
    have rest : ∀ draw, .next draw ∈ requests → p.MayDraw draw :=
      fun draw asked => may draw (List.mem_cons_of_mem _ asked)
    cases request with
    | next draw =>
      have sound := h.next_ne_overflow settable endless (may draw List.mem_cons_self)
      exact List.not_mem_cons_of_ne_of_not_mem sound.symm (ih (h.next sound) rest)
    | reset => exact ih h.reset rest

end OnCourse

namespace Policy

variable {p : Policy}

/-- A policy that can be set overflows exactly if its course does. -/
theorem overflowFree_iff (settable : p.Settable) :
    p.OverflowFree ↔ (p.base Duration.scale? p.maxAttempts.toNat).isSome = true := by
  constructor
  · intro free
    -- All attempts in a row walk down the whole course.
    let requests : List Request := .replicate p.maxAttempts.toNat (.next one)
    have may : ∀ draw, .next draw ∈ requests → p.MayDraw draw := by
      intro draw asked
      cases List.eq_of_mem_replicate asked
      exact p.mayDraw_one
    have course := (onCourse_new Duration.scale? p).after (free requests may)
    have attempts := (serves_new Duration.scale? p requests).attempts
    rw [asked_replicate, Nat.min_self] at attempts
    rw [← attempts, course.delay]
    rfl
  · intro endless requests may
    exact (onCourse_new _ p).sound settable endless may

/-- A growth below a thousand never leads out of the durations. -/
theorem Settable.isSome_base (settable : p.Settable)
    (below : p.growth.magnitude < thousand.magnitude) (count : Nat) :
    (p.base Duration.scale? count).isSome = true := by
  induction count with
  | zero => rfl
  | succ count ih =>
    obtain ⟨delay, reached⟩ := Option.isSome_iff_exists.mp ih
    have product := Duration.isSome_scale?_of_lt (settable.base_le reached) p.isNonneg_growth below
    rw [base, reached, Option.bind_some, Option.isSome_map]
    exact product

theorem growth_lt_thousand (small : p.multiplier.isNaN = true ∨ p.multiplier.lt thousand = true) :
    p.growth.magnitude < thousand.magnitude := by
  cases above : one.lt p.multiplier with
  | true =>
    obtain ⟨-, number, positive⟩ := lt_iff.mp above
    rcases small with nan | below
    · rw [nan] at number
      cases number
    · have nonneg := p.isNonneg_growth
      rw [growth_of_lt above] at nonneg ⊢
      have less := (lt_iff.mp below).2.2
      have unit : thousand.rank = thousand.magnitude := by decide
      rw [nonneg.rank_eq, unit] at less
      exact Int.ofNat_lt.mp less
  | false =>
    rw [growth_of_not_lt above]
    decide

/-- From a thousand on the longest delay has no successor. -/
theorem scale?_longest_growth (number : p.multiplier.isNaN = false)
    (large : p.multiplier.lt thousand = false) : Duration.longest.scale? p.growth = none := by
  have reach := rank_le_of_not_lt number (by decide) large
  have unit : one.rank < thousand.rank := by decide
  have above : one.lt p.multiplier = true :=
    lt_iff.mpr ⟨by decide, number, Int.lt_of_lt_of_le unit reach⟩
  have nonneg := p.isNonneg_growth
  rw [growth_of_lt above] at nonneg ⊢
  have whole : thousand.rank = thousand.magnitude := by decide
  rw [nonneg.rank_eq, whole] at reach
  have large := Int.ofNat_le.mp reach
  have positive : 0 < thousand.magnitude := by decide
  have plus := nonneg.resolve_right (Nat.lt_of_lt_of_le positive large).ne'
  exact Duration.scale?_longest plus large

end Policy

end Backoff

namespace Loop

variable {τ ι : Type}

/-- On course no backoff overflows with this jitter factor. -/
def Bears (p : Backoff.Policy) (draw : Binary64) : Prop :=
  ∀ b : Backoff, b.OnCourse Duration.scale? p → (b.next draw).1 ≠ .overflow

/-- A loop whose backoff is on course and has not overflowed. -/
structure Steady (p : Backoff.Policy) (l : Loop τ ι) : Prop where
  backoff : ∀ b, l.backoff = some b → b.OnCourse Duration.scale? p
  status : l.status ≠ .failed .delayOverflow

namespace Steady

variable {p : Backoff.Policy} {l l' : Loop τ ι} {draw : Binary64}

theorem of_status (h : Steady p l) (status : Status) (backoff : l'.backoff = l.backoff)
    (now : l'.status = status) (other : status ≠ .failed .delayOverflow) : Steady p l' :=
  ⟨backoff ▸ h.backoff, now ▸ other⟩

theorem of_eq (h : Steady p l) (backoff : l'.backoff = l.backoff) (status : l'.status = l.status) :
    Steady p l' := h.of_status _ backoff status h.status

theorem schedule (h : Steady p l) (sound : Bears p draw) : Steady p (l.schedule draw).1 := by
  unfold Loop.schedule
  split
  · exact h.of_eq rfl rfl
  next b held =>
  have course := h.backoff b held
  have granted := sound b course
  have later : Backoff.OnCourse Duration.scale? p (b.next draw).2 := course.next granted
  split
  · exact h.of_eq rfl rfl
  · next lost => exact absurd (congrArg Prod.fst lost) granted
  · next delay after asked =>
    have renewed : ∀ b', some after = some b' → b'.OnCourse Duration.scale? p := by
      rintro b' ⟨⟩
      rwa [asked] at later
    dsimp only
    split
    · exact ⟨renewed, nofun⟩
    · exact ⟨renewed, h.status⟩

theorem react (h : Steady p l) (sound : Bears p draw) (why : TransportError → Notice)
    (answer : Answer) : Steady p (l.react draw why answer).1 := by
  cases answer with
  | accepted => exact h
  | refused error => exact h.schedule sound

variable [Transport τ] [Sampler ι]

theorem perform (h : Steady p l) (sound : Bears p draw) (turn : Turn) :
    Steady p (l.perform draw turn).1 := by
  cases turn with
  | begin =>
    have begun : Steady p l.begun := h.of_status .running rfl rfl (by decide)
    have reacted := begun.react sound .firstConnectRefused l.client.start.1
    simp only [Loop.perform, begin_eq]
    split
    · exact reacted.of_status (.failed .zeroPeriod) rfl rfl (by decide)
    · exact reacted
  | stop => exact h.of_status .stopped rfl rfl (by decide)
  | tick => exact h.of_eq rfl rfl
  | event event =>
    have heard := l.heard draw event
    refine of_eq ?_ heard.backoff heard.status
    have tail : Steady p { l with queue := l.queue.tail } := h.of_eq rfl rfl
    cases event with
    | connected =>
      refine ⟨?_, h.status⟩
      intro b renewed
      obtain ⟨before, held, rfl⟩ := Option.map_eq_some_iff.mp renewed
      exact (h.backoff before held).reset
    | disconnected => exact tail.schedule sound
    | frame bytes => exact tail
  | channelClosed => exact h.of_eq rfl rfl
  | reconnect =>
    rw [Loop.perform, reconnect_eq]
    exact react (l := l.retried) (h.of_eq rfl rfl) sound _ _

theorem after (h : Steady p l) {moves : List (Move τ ι)}
    (sound : ∀ draw, .turn draw ∈ moves → Bears p draw) : Steady p (l.after moves) := by
  let fits (_ : Loop τ ι) (move : Move τ ι) : Prop := ∀ draw, move = .turn draw → Bears p draw
  have fit : Throughout fits l moves := by
    refine throughout_of_forall (fun move made _ draw taken => sound draw ?_) l
    rwa [← taken]
  refine history_throughout fits (P := fun _ l => Steady p l) ?_ ?_ [] h fit
  · exact fun _ l turn draw h sound _ => h.perform (sound draw rfl) turn
  · intro _ l move h _ none
    have aside := aside_move none
    exact h.of_eq aside.backoff aside.status

end Steady

theorem steady_new (config : LoopConfig) (client : Client τ ι) {p : Backoff.Policy}
    (h : ∀ policy, config.reconnect = some policy → policy = p) :
    Steady p (.new config client) := by
  refine ⟨fun b held => ?_, nofun⟩
  obtain ⟨policy, configured, rfl⟩ := Option.map_eq_some_iff.mp held
  obtain rfl := h policy configured
  exact Backoff.onCourse_new _ policy

end Loop

namespace Settings

theorem Reconnect.settable (r : Reconnect) : r.policy.Settable where
  initialDelay := Nat.mul_le_mul_right _ (Nat.le_pred_of_lt r.initialDelayMs.toNat_lt)
  maxDelay := Nat.mul_le_mul_right _ (Nat.le_pred_of_lt r.maxDelayMs.toNat_lt)

/-- A multiplier is harmless, whatever else is set, exactly if it is NaN or below a thousand. -/
theorem harmless_iff (m : Binary64) :
    (∀ r : Reconnect, r.multiplier = m → r.policy.OverflowFree) ↔
      m.isNaN = true ∨ m.lt thousand = true := by
  constructor
  · intro harmless
    by_contra large
    obtain ⟨number, large⟩ := not_or.mp large
    let r : Reconnect := { initialDelayMs := 0xFFFFFFFFFFFFFFFF, multiplier := m, maxAttempts := 1 }
    have endless := (Backoff.Policy.overflowFree_iff r.settable).mp (harmless r rfl)
    have none : Duration.longest.scale? r.policy.growth = none :=
      Backoff.Policy.scale?_longest_growth (Bool.eq_false_iff.mpr number)
        (Bool.eq_false_iff.mpr large)
    have ended : r.policy.base Duration.scale? r.policy.maxAttempts.toNat = Option.none :=
      Option.map_eq_none_iff.mpr none
    rw [ended] at endless
    cases endless
  · rintro small r rfl
    rw [Backoff.Policy.overflowFree_iff r.settable]
    exact r.settable.isSome_base (Backoff.Policy.growth_lt_thousand small) _

/-- The policy of some settings is free of overflow exactly if its course is, and all settings with
this multiplier are exactly if it is NaN or below a thousand. A loop with a policy that is free of
overflow never fails for want of a delay. -/
theorem overflowFree_exactly {τ ι : Type} [Transport τ] [Sampler ι] (s : Settings)
    (client : Client τ ι) (moves : List (Loop.Move τ ι)) :
    (s.reconnect.policy.OverflowFree ↔
      (s.reconnect.policy.base Duration.scale? s.reconnect.maxAttempts.toNat).isSome = true) ∧
    ((∀ r : Reconnect, r.multiplier = s.reconnect.multiplier → r.policy.OverflowFree) ↔
      s.reconnect.multiplier.isNaN = true ∨ s.reconnect.multiplier.lt thousand = true) ∧
    (s.reconnect.policy.OverflowFree →
      (∀ draw, .turn draw ∈ moves → s.reconnect.policy.MayDraw draw) →
      ((Loop.new s.loopConfig client).after moves).status ≠ .failed .delayOverflow) := by
  have settable := s.reconnect.settable
  refine ⟨Backoff.Policy.overflowFree_iff settable, harmless_iff _, ?_⟩
  intro free may
  have endless := (Backoff.Policy.overflowFree_iff settable).mp free
  have fresh : Loop.Steady s.reconnect.policy (.new s.loopConfig client) := by
    apply Loop.steady_new
    intro policy configured
    unfold loopConfig at configured
    split at configured
    · exact (Option.some.inj configured).symm
    · cases configured
  have sound : ∀ draw, .turn draw ∈ moves → Loop.Bears s.reconnect.policy draw :=
    fun draw turn b course => course.next_ne_overflow settable endless (may draw turn)
  exact (fresh.after sound).status

/-- A multiplier of `10 ^ 20`, with defaults for the rest. -/
def steep : Reconnect := { multiplier := ⟨0x4415AF1D78B58C40⟩ }

/-- The first delay is one second and its successor is none, although the cap is half a minute. A
loop that loses its link ends without a teardown. -/
theorem not_overflowFree_of_steep :
    ¬ steep.policy.OverflowFree ∧
      let s : Settings := { reconnect := steep }
      let l := (Loop.new s.loopConfig (.new (τ := Memory) {} ({} : KeyScript))).after
        [.turn .one, .turn .one, .post .disconnected, .turn .one]
      l.status = .failed .delayOverflow ∧ l.client.tornDown = false := by
  refine ⟨fun free => ?_, by decide +kernel⟩
  have possible : ∀ draw, .next draw ∈ [Backoff.Request.next one] → steep.policy.MayDraw draw := by
    intro draw asked
    cases List.mem_singleton.mp asked
    exact steep.policy.mayDraw_one
  exact free [.next one] possible (by decide +kernel)

end Settings

end GameClient
