import GameClient.Player.Script
import GameClient.Proofs.Budget
import GameClient.Proofs.Moments
import GameClient.Transport.Memory

/-! # Attempts that were granted, made and lost

An attempt is granted when its timer is armed, and it is made when the timer fires. A loop that
learns of a lost link arms its timer again, also while the timer is already armed: then the attempt
that was to come is lost. So the attempts granted since the link last came up are those made, those
lost, and the one that the timer is armed for. The loop gives up when none is left, and so it has
made all of them only if none was lost. -/

namespace GameClient

namespace Loop

variable {τ ι : Type}

/-- What became of the attempts since the link last came up. -/
structure Tally where
  made : Nat := 0
  /-- The attempts whose timer was armed when the loss of the link was reported once more. -/
  lost : Nat := 0
deriving DecidableEq

namespace Tally

def total (t : Tally) : Nat := t.made + t.lost

/-- The tally after one more turn. -/
def add (t : Tally) (m : Moment τ ι) : Tally :=
  match m.turn with
  | .event .connected => {}
  | .event .disconnected =>
    if m.loop.reconnectAt.isSome then { t with lost := t.lost + 1 } else t
  | .reconnect => { t with made := t.made + 1 }
  | _ => t

/-- The tally at the end of a run. -/
def of (past : List (Moment τ ι)) : Tally := past.foldl add {}

end Tally

/-- The attempts that are still to come: one while the timer is armed. -/
def pending (l : Loop τ ι) : Nat := if l.reconnectAt.isSome then 1 else 0

variable {policy : Backoff.Policy} {n : Nat} {l : Loop τ ι}

/-- The backoff follows the policy and has granted so many attempts. -/
structure Granted (policy : Backoff.Policy) (n : Nat) (backoff? : Option Backoff) : Prop where
  held : ∃ backoff, backoff? = some backoff ∧ backoff.policy = policy ∧ backoff.attempts = n
  bound : n ≤ policy.maxAttempts.toNat

/-- Unless the loop has failed, `n` attempts are over and all others granted are to come. If the loop
says that no attempt is left, then none is to come either. -/
structure Balance (policy : Backoff.Policy) (n : Nat) (l : Loop τ ι) (effects : List Effect) :
    Prop where
  granted : (∃ fault, l.status = .failed fault) ∨ Granted policy (n + l.pending) l.backoff
  exhausted : ∀ count, .note (.attemptsExhausted count) ∈ effects →
    count = n ∧ n = policy.maxAttempts.toNat ∧ l.reconnectAt = none

theorem Balance.fail {effects : List Effect} (h : Balance policy n l effects) (fault : Fault) :
    Balance policy n (l.fail fault) effects :=
  ⟨.inl ⟨fault, rfl⟩, h.exhausted⟩

/-- What else is done says nothing about attempts. -/
theorem Balance.append_left {effects : List Effect} (h : Balance policy n l effects)
    {before : List Effect} (silent : ∀ count, .note (.attemptsExhausted count) ∉ before) :
    Balance policy n l (before ++ effects) := by
  refine ⟨h.granted, ?_⟩
  intro count noted
  rcases List.mem_append.mp noted with noted | noted
  · exact absurd noted (silent count)
  · exact h.exhausted count noted

theorem Balance.append_right {effects : List Effect} (h : Balance policy n l effects)
    {after : List Effect} (silent : ∀ count, .note (.attemptsExhausted count) ∉ after) :
    Balance policy n l (effects ++ after) := by
  refine ⟨h.granted, ?_⟩
  intro count noted
  rcases List.mem_append.mp noted with noted | noted
  · exact h.exhausted count noted
  · exact absurd noted (silent count)

/-! ## The timer -/

theorem Granted.schedule (h : Granted policy n l.backoff) (draw : Binary64) :
    Balance policy n (l.schedule draw).1 (l.schedule draw).2 := by
  obtain ⟨⟨backoff, held, follows, attempts⟩, bound⟩ := h
  have result := l.scheduling draw
  generalize l.schedule draw = result at *
  cases result with
  | off absent => cases held.symm.trans absent
  | exhausted held' used =>
    cases held.symm.trans held'
    refine ⟨.inr ⟨⟨backoff, held, follows, attempts⟩, bound⟩, ?_⟩
    intro count noted
    have all : policy.maxAttempts.toNat ≤ n := by
      rw [← follows, ← attempts]
      exact of_decide_eq_true used
    simp only [List.mem_singleton, Effect.note.injEq, Notice.attemptsExhausted.injEq] at noted
    exact ⟨noted.trans attempts, Nat.le_antisymm bound all, rfl⟩
  | @armed backoff' later delay held' asked =>
    cases held.symm.trans held'
    obtain ⟨follows', attempts', bound'⟩ := Backoff.counted_of_next asked nofun
    rw [follows] at follows' bound'
    rw [attempts] at attempts'
    rw [attempts'] at bound'
    refine ⟨.inr ⟨⟨later, rfl, follows', attempts'⟩, bound'⟩, ?_⟩
    intro count noted
    simp at noted
  | failed fault _ _ _ _ silent =>
    exact ⟨.inl ⟨fault, rfl⟩, fun count noted => absurd noted (silent count)⟩

/-- A refusal arms the timer again, an answer that is no refusal leaves it as it was: unarmed. -/
theorem Granted.react (h : Granted policy n l.backoff) (unarmed : l.reconnectAt = none)
    (why : TransportError → Notice) (other : ∀ error count, why error ≠ .attemptsExhausted count)
    (draw : Binary64) (answer : Answer) :
    Balance policy n (l.react draw why answer).1 (l.react draw why answer).2 := by
  cases answer with
  | accepted =>
    have none : l.pending = 0 := by rw [pending, unarmed]; rfl
    rw [← Nat.add_zero n, ← none] at h
    exact ⟨.inr h, fun count noted => absurd noted List.not_mem_nil⟩
  | refused error =>
    have scheduled := h.schedule draw
    refine ⟨scheduled.granted, ?_⟩
    intro count noted
    rcases List.mem_cons.mp noted with same | noted
    · cases other error count (Effect.note.inj same).symm
    · exact scheduled.exhausted count noted

/-- A turn that does not touch the backoff and the timer, and says nothing about attempts. -/
theorem Granted.idle (h : Granted policy (n + l.pending) l.backoff) (l' : Loop τ ι)
    {effects : List Effect} (backoff : l'.backoff = l.backoff)
    (timer : l'.reconnectAt = l.reconnectAt)
    (silent : ∀ count, .note (.attemptsExhausted count) ∉ effects) :
    Balance policy n l' effects := by
  have pending : l'.pending = l.pending := by rw [Loop.pending, timer, Loop.pending]
  refine ⟨.inr ⟨?_, ?_⟩, fun count noted => absurd noted (silent count)⟩
  · rw [backoff]
    exact pending ▸ h.held
  · exact pending ▸ h.bound

/-- Unless the loop fails, the timer is armed afterwards exactly if an attempt was left. -/
theorem Granted.isSome_schedule (h : Granted policy n l.backoff) {draw : Binary64}
    (sound : ∀ fault, (l.schedule draw).1.status ≠ .failed fault) :
    (l.schedule draw).1.reconnectAt.isSome = true ↔ n < policy.maxAttempts.toNat := by
  obtain ⟨backoff, held, follows, attempts⟩ := h.held
  have result := l.scheduling draw
  generalize l.schedule draw = result at *
  cases result with
  | off absent => cases held.symm.trans absent
  | exhausted held' used =>
    cases held.symm.trans held'
    have all : policy.maxAttempts.toNat ≤ n := by
      rw [← follows, ← attempts]
      exact of_decide_eq_true used
    simp [Nat.not_lt.mpr all]
  | @armed _ later _ held' asked =>
    cases held.symm.trans held'
    obtain ⟨-, counted, bound⟩ := Backoff.counted_of_next asked nofun
    rw [counted, attempts, follows] at bound
    simp only [Option.isSome_some, true_iff]
    omega
  | failed fault => exact absurd rfl (sound fault)

/-! ## Turns -/

variable [Transport τ] [Sampler ι]

theorem silent_perform (c : Client τ ι) (call : Call τ ι) (count : Nat) :
    .note (.attemptsExhausted count) ∉ (c.perform call).2 := by
  intro noted
  cases c.allows_of_mem_perform call _ noted

theorem Granted.begin (h : Granted policy n l.backoff) (unarmed : l.reconnectAt = none)
    (draw : Binary64) :
    Balance policy n (l.begin draw).1 (l.begin draw).2 := by
  have begun : Granted policy n l.begun.backoff := h
  have reacted := begun.react unarmed .firstConnectRefused nofun draw l.client.start.1
  have balance := reacted.append_left (silent_perform l.client .start)
  rw [begin_eq]
  dsimp only
  split
  · exact balance.fail .zeroPeriod
  · exact balance

theorem Granted.reconnect (h : Granted policy n l.backoff) (draw : Binary64) :
    Balance policy n (l.reconnect draw).1 (l.reconnect draw).2 := by
  have retried : Granted policy n l.retried.backoff := h
  have reacted := retried.react rfl .reconnectRefused nofun draw l.client.reconnect.1
  rw [reconnect_eq]
  exact reacted.append_left (silent_perform l.client .reconnect)

/-- That the client handles an event changes neither the backoff nor the timer. -/
theorem Balance.handle {event : Event} {draw : Binary64}
    (h : Balance policy n ({ l with queue := l.queue.tail }.heed draw event).1
      ({ l with queue := l.queue.tail }.heed draw event).2) :
    Balance policy n (l.handle draw event).1 (l.handle draw event).2 := by
  rw [handle_eq]
  dsimp only
  generalize ({ l with queue := l.queue.tail } : Loop τ ι).heed draw event = heeded at *
  split
  · exact h
  · have heard := h.append_right (silent_perform heeded.1.client (.handle event))
    refine ⟨heard.granted, ?_⟩
    intro count noted
    rcases List.mem_append.mp noted with noted | noted
    · exact heard.exhausted count noted
    · cases List.mem_singleton.mp noted

theorem Granted.event {t : Tally} (h : Granted policy (t.total + l.pending) l.backoff)
    (draw : Binary64) (event : Event) :
    Balance policy (t.add ⟨l, .event event, draw⟩).total (l.handle draw event).1
      (l.handle draw event).2 := by
  apply Balance.handle
  cases event with
  | connected =>
    obtain ⟨⟨backoff, held, follows, -⟩, -⟩ := h
    refine ⟨.inr ⟨⟨backoff.reset, ?_, follows, rfl⟩, Nat.zero_le _⟩, ?_⟩
    · simp [heed, held]
    · exact fun count noted => absurd noted List.not_mem_nil
  | disconnected =>
    have balance : (t.add ⟨l, .event .disconnected, draw⟩).total = t.total + l.pending := by
      simp only [Tally.add, Loop.pending]
      split
      · simp only [Tally.total]; omega
      · rfl
    rw [balance]
    exact Granted.schedule (l := { l with queue := l.queue.tail }) h draw
  | frame bytes => exact h.idle { l with queue := l.queue.tail } rfl rfl (by simp [heed])

/-- The moment in which the loop finds that no attempt is left. -/
def Moment.GivesUp (m : Moment τ ι) : Prop :=
  ∃ count, .note (.attemptsExhausted count) ∈ m.effects

theorem Granted.perform {t : Tally} {turn : Turn}
    (h : Granted policy (t.total + l.pending) l.backoff)
    (unarmed : l.status = .fresh → l.reconnectAt = none) (next : l.turn? = some turn)
    (draw : Binary64) :
    Balance policy (t.add ⟨l, turn, draw⟩).total (l.perform draw turn).1
      (l.perform draw turn).2 := by
  cases turn with
  | begin =>
    cases next_of_turn? next with
    | begin fresh =>
      have none : l.pending = 0 := by rw [Loop.pending, unarmed fresh]; rfl
      rw [none] at h
      exact h.begin (unarmed fresh) draw
  | stop =>
    have silent (count : Nat) : .note (.attemptsExhausted count) ∉ l.stop.2 := by
      intro noted
      rcases List.mem_append.mp noted with noted | noted
      · exact silent_perform l.client .teardown count noted
      · cases List.mem_singleton.mp noted
    exact h.idle l.stop.1 rfl rfl silent
  | tick => exact h.idle l.tick.1 rfl rfl (silent_perform l.client .tick)
  | event event => exact h.event draw event
  | channelClosed => exact h.idle { l with listening := false } rfl rfl (by simp [Loop.perform])
  | reconnect =>
    cases next_of_turn? next with
    | reconnect _ _ armed _ =>
      have one : t.total + l.pending = (t.add ⟨l, .reconnect, draw⟩).total := by
        simp only [Loop.pending, armed, Option.isSome_some, if_true, Tally.add, Tally.total]
        omega
      rw [one] at h
      exact h.reconnect draw

/-! ## Runs -/

/-- The attempts of a loop that has not failed are accounted for, and before the first turn the
timer is not armed. -/
structure Accounted (policy : Backoff.Policy) (t : Tally) (l : Loop τ ι) : Prop where
  granted : (∃ fault, l.status = .failed fault) ∨ Granted policy (t.total + l.pending) l.backoff
  unarmed : l.status = .fresh → l.reconnectAt = none

omit [Transport τ] [Sampler ι] in
theorem accounted_new (rate : UInt32) (policy : Backoff.Policy) (client : Client τ ι) :
    Accounted policy {} (.new { tickRate := rate, reconnect := some policy } client) :=
  ⟨.inr ⟨⟨.new policy, rfl, rfl, rfl⟩, Nat.zero_le _⟩, fun _ => rfl⟩

theorem Accounted.after {t : Tally} (h : Accounted policy t l) (moves : List (Move τ ι)) :
    Accounted policy ((l.moments moves).foldl Tally.add t) (l.after moves) := by
  refine fold_moments ?_ ?_ h moves
  · intro t l turn draw h next
    have alive : ¬∃ fault, l.status = .failed fault := by
      rintro ⟨fault, failed⟩
      simp [turn?, failed] at next
    have granted := h.granted.resolve_left alive
    refine ⟨(granted.perform h.unarmed next draw).granted, ?_⟩
    exact fun fresh => absurd fresh (status_perform_ne_fresh next draw)
  · intro t l l' h aside
    have pending : l'.pending = l.pending := by rw [Loop.pending, aside.reconnectAt, Loop.pending]
    constructor
    · rw [aside.status, pending, aside.backoff]
      exact h.granted
    · rw [aside.status, aside.reconnectAt]
      exact h.unarmed

/-- The loop gives up only when it has made all attempts of the policy. -/
def MakesAll (policy : Backoff.Policy) (first : Loop τ ι) : Prop :=
  ∀ moves turn draw, (first.after moves).turn? = some turn →
    Moment.GivesUp ⟨first.after moves, turn, draw⟩ →
    (Tally.of (first.moments (moves ++ [.turn draw]))).made = policy.maxAttempts.toNat

/-- Unless the loop fails, the attempts granted since the link last came up are those made, those
lost, and the one that is to come. When the loop gives up none is to come, and those made and lost
are all that the policy allows: it has made all of them exactly if none was lost. A loss that is
reported while the timer is armed leaves it armed exactly if an attempt is left. -/
theorem attempts_made_or_lost (rate : UInt32) (policy : Backoff.Policy) (client : Client τ ι)
    (moves : List (Move τ ι)) :
    let first : Loop τ ι := .new { tickRate := rate, reconnect := some policy } client
    let l := first.after moves
    let tally := Tally.of (first.moments moves)
    ((∀ fault, l.status ≠ .failed fault) → ∃ backoff, l.backoff = some backoff ∧
      backoff.attempts = tally.made + tally.lost + l.pending ∧
      backoff.attempts ≤ policy.maxAttempts.toNat) ∧
    (∀ turn draw, l.turn? = some turn → Moment.GivesUp ⟨l, turn, draw⟩ →
      let final := Tally.of (first.moments (moves ++ [.turn draw]))
      (l.perform draw turn).1.reconnectAt = none ∧
      final.made + final.lost = policy.maxAttempts.toNat ∧
      (final.made = policy.maxAttempts.toNat ↔ final.lost = 0)) ∧
    ∀ draw, l.turn? = some (.event .disconnected) → l.reconnectAt.isSome = true →
      (∀ fault, (l.perform draw (.event .disconnected)).1.status ≠ .failed fault) →
      ((l.perform draw (.event .disconnected)).1.reconnectAt.isSome = true ↔
        tally.made + tally.lost + 1 < policy.maxAttempts.toNat) := by
  intro first l tally
  have accounted : Accounted policy tally l := (accounted_new rate policy client).after moves
  have running {turn : Turn} (next : l.turn? = some turn) :
      Granted policy (tally.total + l.pending) l.backoff := by
    refine accounted.granted.resolve_left ?_
    rintro ⟨fault, failed⟩
    simp [turn?, failed] at next
  refine ⟨?_, ?_, ?_⟩
  · intro sound
    obtain ⟨⟨backoff, held, -, attempts⟩, bound⟩ :=
      accounted.granted.resolve_left (not_exists.mpr sound)
    exact ⟨backoff, held, attempts, attempts ▸ bound⟩
  · rintro turn draw next ⟨count, noted⟩
    have final : Tally.of (first.moments (moves ++ [.turn draw])) = tally.add ⟨l, turn, draw⟩ := by
      rw [moments_append, moments_turn next]
      exact List.foldl_append
    obtain ⟨-, all, unarmed⟩ :=
      ((running next).perform accounted.unarmed next draw).exhausted count noted
    rw [final]
    simp only [Tally.total] at all
    exact ⟨unarmed, all, by omega⟩
  · intro draw next armed sound
    have heard := l.heard draw .disconnected
    have one : l.pending = 1 := if_pos armed
    have granted : Granted policy (tally.total + 1) l.backoff := one ▸ running next
    simp only [perform, heard.status] at sound
    simp only [perform, heard.reconnectAt]
    exact Granted.isSome_schedule (l := { l with queue := l.queue.tail }) granted sound

/-- A policy with one attempt, without jitter. -/
def oneAttempt : Backoff.Policy := { maxAttempts := 1, jitter := .zero }

/-- The link comes up, and its loss is reported twice. -/
def lossReportedTwice : List (Move Memory KeyScript) :=
  [.turn .one, .turn .one, .turn .one, .post .disconnected, .post .disconnected, .turn .one]

/-- The second report takes the timer away, and the loop gives up without an attempt. -/
theorem not_makesAll_of_lossReportedTwice :
    ¬ MakesAll oneAttempt (.new { tickRate := 1, reconnect := some oneAttempt }
      (.new (τ := Memory) { reports := true } ({} : KeyScript))) := by
  intro all
  have made := all lossReportedTwice (.event .disconnected) .one (by decide +kernel)
    ⟨1, by decide +kernel⟩
  exact absurd made (by decide +kernel)

end Loop

end GameClient
