import GameClient.Player.Script
import GameClient.Proofs.Requests
import GameClient.Proofs.Runs
import GameClient.Transport.Memory

/-! # The budget of a backoff

Each reconnect is paid for with an attempt of the backoff, at the time when its timer is armed. A
timer that is armed is one attempt that is paid for and not yet made. So since the link last came up
there were no more reconnects than attempts, and there are never more attempts than the policy
allows. Without a policy there is no reconnect at all. -/

namespace GameClient

/-- A backoff that is not exhausted counts one more attempt, which is within its bound. -/
theorem Backoff.counted_of_next {b later : Backoff} {draw : Binary64} {outcome : Outcome}
    (h : b.next draw = (outcome, later)) (granted : outcome ≠ .exhausted) :
    later.policy = b.policy ∧ later.attempts = b.attempts + 1 ∧
      later.attempts ≤ b.policy.maxAttempts.toNat := by
  have result := asking Duration.scale? b draw
  rw [next] at h
  rw [h] at result
  cases result with
  | exhausted => exact absurd rfl granted
  | overflow room => exact ⟨rfl, rfl, room⟩
  | wait room => exact ⟨rfl, rfl, room⟩

namespace Call

variable {τ ι : Type}

/-- The number of reconnects, once the call is made. A link that comes up starts a new count. -/
def tally (reconnects : Nat) : Call τ ι → Nat
  | reconnect => reconnects + 1
  | handle .connected => 0
  | _ => reconnects

/-- The reconnects since the client last heard that a link came up, or since the first call. -/
def reconnects (calls : List (Call τ ι)) : Nat := calls.foldl tally 0

end Call

/-- The reconnects that were made, and the one that is to come if the timer is armed, are attempts
of the backoff, and these are within its bound. Without a backoff the timer is never armed. -/
inductive Covers : Option Backoff.Policy → Nat → Option Backoff → Option Nat → Prop
  | none (reconnects : Nat) : Covers none reconnects none none
  | some {reconnects : Nat} {backoff : Backoff} {timer : Option Nat} :
      reconnects + (if timer.isSome then 1 else 0) ≤ backoff.attempts →
      backoff.attempts ≤ backoff.policy.maxAttempts.toNat →
      Covers (some backoff.policy) reconnects (some backoff) timer

namespace Covers

variable {policy? : Option Backoff.Policy} {reconnects : Nat} {backoff? : Option Backoff}
  {timer : Option Nat}

theorem disarm (h : Covers policy? reconnects backoff? timer) :
    Covers policy? reconnects backoff? .none := by
  cases h with
  | none => exact .none reconnects
  | some paid bound => exact .some (Nat.le_trans (Nat.le_add_right ..) paid) bound

theorem next {backoff later : Backoff} {draw : Binary64} {outcome : Backoff.Outcome}
    (h : Covers policy? reconnects (.some backoff) timer)
    (asked : backoff.next draw = (outcome, later)) (granted : outcome ≠ .exhausted)
    (timer' : Option Nat) : Covers policy? reconnects (.some later) timer' := by
  obtain ⟨policy, attempts, bound⟩ := Backoff.counted_of_next asked granted
  cases h with
  | some paid _ =>
    rw [← policy] at bound ⊢
    refine .some ?_ bound
    rw [attempts]
    split <;> omega

theorem reconnect (h : Covers policy? reconnects backoff? timer) (armed : timer.isSome = true) :
    Covers policy? (reconnects + 1) backoff? .none := by
  cases h with
  | none => cases armed
  | some paid bound =>
    rw [if_pos armed] at paid
    exact .some paid bound

theorem timer_eq_none (h : Covers .none reconnects backoff? timer) : timer = .none := by
  cases h with
  | none => rfl

theorem exists_backoff {policy : Backoff.Policy}
    (h : Covers (.some policy) reconnects backoff? timer) :
    ∃ backoff, backoff? = .some backoff ∧ backoff.policy = policy ∧
      reconnects + (if timer.isSome then 1 else 0) ≤ backoff.attempts ∧
      backoff.attempts ≤ policy.maxAttempts.toNat := by
  cases h with
  | @some _ backoff _ paid bound => exact ⟨backoff, rfl, rfl, paid, bound⟩

/-- A link that came up renews the backoff, and nothing is to be covered. -/
theorem reset (h : Covers policy? reconnects backoff? timer) :
    Covers policy? 0 (backoff?.map .reset) .none := by
  cases h with
  | none => exact .none 0
  | @some _ backoff =>
    have renewed : Covers (.some backoff.reset.policy) 0 (.some backoff.reset) .none :=
      .some (Nat.le_refl 0) (Nat.zero_le _)
    exact renewed

end Covers

namespace Loop

variable {τ ι : Type}

/-- The backoff of the loop covers so many reconnects and the one that its timer is armed for. -/
def Within (policy? : Option Backoff.Policy) (reconnects : Nat) (l : Loop τ ι) : Prop :=
  Covers policy? reconnects l.backoff l.reconnectAt

variable {policy? : Option Backoff.Policy} {reconnects : Nat} {l : Loop τ ι}

theorem Within.schedule (h : Within policy? reconnects l) (draw : Binary64) :
    Within policy? reconnects (l.schedule draw).1 := by
  unfold Loop.schedule
  split
  · exact h.disarm
  · next backoff held =>
    unfold Within at h
    rw [held] at h
    split
    · next asked =>
      unfold Within
      dsimp only
      rw [held]
      exact h.disarm
    · next later asked => exact h.next asked nofun _
    · next delay later asked =>
      dsimp only
      split
      · exact h.next asked nofun _
      · exact h.next asked nofun _

theorem within_new (config : LoopConfig) (client : Client τ ι) :
    Within config.reconnect 0 (.new config client) := by
  unfold Within Loop.new
  cases config.reconnect with
  | none => exact .none 0
  | some policy =>
    have fresh : Covers (some (Backoff.new policy).policy) 0 (some (.new policy)) none :=
      .some (Nat.le_refl 0) (Nat.zero_le _)
    exact fresh

/-! ## Turns -/

/-- Only a link that comes up starts a new count. -/
theorem tally_calls_event (draw : Binary64) (l : Loop τ ι) (event : Event)
    (h : event ≠ .connected) :
    (l.calls draw (.event event)).foldl Call.tally reconnects = reconnects := by
  rw [Loop.calls]
  split
  · cases event with
    | connected => exact absurd rfl h
    | disconnected => rfl
    | frame bytes => rfl
  · rfl

variable [Transport τ]

theorem Within.begin (h : Within policy? reconnects l) (draw : Binary64) :
    Within policy? reconnects (l.begin draw).1 := by
  have started : Within policy? reconnects
      { l.adopt l.client.start.2.1 l.client.start.2.2 with status := .running, nextTick := l.now } :=
    h
  unfold Loop.begin
  dsimp only
  split
  · split
    · exact started
    · exact started
  · split
    · exact started.schedule draw
    · exact started.schedule draw

theorem Within.reconnect (h : Within policy? reconnects l) (armed : l.reconnectAt.isSome = true)
    (draw : Binary64) : Within policy? (reconnects + 1) (l.reconnect draw).1 := by
  have made : Within policy? (reconnects + 1)
      { l.adopt l.client.reconnect.2.1 l.client.reconnect.2.2 with reconnectAt := none } :=
    Covers.reconnect h armed
  unfold Loop.reconnect
  dsimp only
  split
  · exact made
  · exact made.schedule draw

/-- That the client handles an event changes neither the backoff nor the timer. -/
theorem Within.of_heed {draw : Binary64} {event : Event}
    (h : Within policy? reconnects ({ l with queue := l.queue.tail }.heed draw event).1) :
    Within policy? reconnects (l.handle draw event).1 := by
  rw [handle_eq]
  dsimp only
  split
  · exact h
  · exact h

theorem Within.handle (h : Within policy? reconnects l) (running : l.status = .running)
    (draw : Binary64) (event : Event) :
    Within policy? ((l.calls draw (.event event)).foldl Call.tally reconnects)
      (l.handle draw event).1 := by
  cases event with
  | connected =>
    have heard : l.calls draw (.event .connected) = [.handle .connected] := if_pos running
    rw [heard]
    exact .of_heed h.reset
  | disconnected =>
    have scheduled := Within.schedule (l := { l with queue := l.queue.tail }) h draw
    rw [tally_calls_event draw l .disconnected nofun]
    exact .of_heed scheduled
  | frame bytes =>
    rw [tally_calls_event draw l (.frame bytes) nofun]
    exact .of_heed h

variable [Sampler ι]

theorem Within.perform (h : Within policy? reconnects l) {turn : Turn} (may : l.MayTake turn)
    (draw : Binary64) :
    Within policy? ((l.calls draw turn).foldl Call.tally reconnects) (l.perform draw turn).1 := by
  cases turn with
  | begin => exact h.begin draw
  | stop => exact h
  | tick => exact h
  | event event => exact h.handle may.1 draw event
  | channelClosed => exact h
  | reconnect => exact h.reconnect may.2 draw

theorem Within.step {l' : Loop τ ι} {calls : List (Call τ ι)} {effects : List Effect}
    (h : Within policy? reconnects l) (step : Step l calls effects l') :
    Within policy? (calls.foldl Call.tally reconnects) l' := by
  cases step with
  | turn draw may => exact h.perform may draw
  | post event =>
    unfold Loop.post
    split
    · exact h
    · exact h
  | closeChannel => exact h
  | requestStop => exact h
  | disturb act =>
    unfold Loop.disturb
    dsimp only
    split
    · exact h
    · exact h
  | press input => exact h
  | clock now => exact h

/-! ## Runs -/

theorem Run.within {config : LoopConfig} {client : Client τ ι} {calls : List (Call τ ι)}
    {past : List Effect} (run : Run (.new config client) calls past l) :
    Within config.reconnect (Call.reconnects calls) l := by
  induction run with
  | nil => exact within_new config client
  | snoc _ step ih =>
    rw [Call.reconnects, List.foldl_append]
    exact ih.step step

theorem Step.armed_of_reconnect {l' : Loop τ ι} {calls : List (Call τ ι)} {effects : List Effect}
    (step : Step l calls effects l') (h : .reconnect ∈ calls) : l.reconnectAt.isSome = true := by
  cases step with
  | @turn turn draw may =>
    cases turn with
    | reconnect => exact may.2
    | event event =>
      rw [Loop.calls] at h
      split at h
      · cases List.mem_singleton.mp h
      · cases h
    | begin => cases List.mem_singleton.mp h
    | stop => cases List.mem_singleton.mp h
    | tick => cases List.mem_singleton.mp h
    | channelClosed => cases h
  | post event => cases h
  | closeChannel => cases h
  | requestStop => cases h
  | disturb act => cases List.mem_singleton.mp h
  | press input => cases List.mem_singleton.mp h
  | clock now => cases h

theorem Run.not_mem_reconnect {config : LoopConfig} {client : Client τ ι}
    {calls : List (Call τ ι)} {past : List Effect} (run : Run (.new config client) calls past l)
    (h : config.reconnect = none) : .reconnect ∉ calls := by
  induction run with
  | nil => exact List.not_mem_nil
  | snoc run step ih =>
    intro made
    rcases List.mem_append.mp made with before | now
    · exact ih before
    · have armed := step.armed_of_reconnect now
      have within := run.within
      rw [h] at within
      rw [Covers.timer_eq_none within] at armed
      cases armed

/-- A run drives its client by its calls. Of the reconnects since the link last came up, and the one
for which the timer is armed, each is an attempt of the backoff, and the attempts are within the
bound of the policy. Without a policy no reconnect is ever made. -/
theorem reconnects_within_budget {config : LoopConfig} {client : Client τ ι}
    {calls : List (Call τ ι)} {past : List Effect} (run : Run (.new config client) calls past l) :
    Drives (.new config client) calls past l ∧
    (∀ policy, config.reconnect = some policy → ∃ backoff, l.backoff = some backoff ∧
      backoff.policy = policy ∧
      Call.reconnects calls + (if l.reconnectAt.isSome then 1 else 0) ≤ backoff.attempts ∧
      backoff.attempts ≤ policy.maxAttempts.toNat) ∧
    (config.reconnect = none → .reconnect ∉ calls) := by
  refine ⟨run.drives, ?_, run.not_mem_reconnect⟩
  intro policy configured
  have within := run.within
  rw [configured] at within
  exact Covers.exists_backoff within

/-- A tick in each second, and two attempts without jitter. -/
def twoAttempts : LoopConfig where
  tickRate := 1
  reconnect := some { maxAttempts := 2, jitter := .zero }

/-- A client that is refused at its first connect and finds no server later on. -/
def outage : Client (Gated Memory) KeyScript :=
  .new { answers := [.refused .noRuntime], inner := { reports := true, refusesConnects := true } } {}

/-- After two seconds one reconnect was made in vain and the timer is armed again. -/
theorem reconnects_within_budget_outage :
    Run (.new twoAttempts outage) (calling .one 2000000000 20 (.new twoAttempts outage))
      (advance .one 2000000000 20 (.new twoAttempts outage, #[])).2.toList
      (advance .one 2000000000 20 (.new twoAttempts outage, #[])).1 ∧
    Call.reconnects (calling .one 2000000000 20 (.new twoAttempts outage)) = 1 ∧
    (advance .one 2000000000 20 (.new twoAttempts outage, #[])).1.reconnectAt = some 3000000000 ∧
    ∃ backoff, (advance .one 2000000000 20 (.new twoAttempts outage, #[])).1.backoff = some backoff ∧
      1 + 1 ≤ backoff.attempts ∧ backoff.attempts ≤ 2 := by
  have start : Run (.new twoAttempts outage) [] (#[] : Array Effect).toList
      (.new twoAttempts outage) := .nil
  have run := start.advance .one 2000000000 20
  have made : Call.reconnects (calling .one 2000000000 20 (.new twoAttempts outage)) = 1 := by
    decide +kernel
  have armed : (advance .one 2000000000 20 (.new twoAttempts outage, #[])).1.reconnectAt =
      some 3000000000 := by
    decide +kernel
  obtain ⟨-, budget, -⟩ := reconnects_within_budget run
  obtain ⟨backoff, held, -, paid, bound⟩ := budget _ rfl
  rw [List.nil_append, made, armed] at paid
  exact ⟨run, made, armed, backoff, held, paid, bound⟩

end Loop

end GameClient
