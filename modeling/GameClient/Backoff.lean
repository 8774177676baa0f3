import GameClient.Duration

/-! # Reconnection backoff

Delays grow by a factor up to a cap, and only so many are handed out between two resets. Jitter
multiplies a delay that is handed out; it is never fed back into the schedule. The product of a
duration and a factor is a parameter of `nextWith`, so the laws of the schedule do not depend on
how it is rounded; `next` takes the product in doubles. -/

namespace GameClient

namespace Backoff

structure Policy where
  initialDelay : Duration := .ofSecs 1
  multiplier : Binary64 := ⟨0x4000000000000000⟩
  maxDelay : Duration := .ofSecs 30
  maxAttempts : UInt32 := 20
  /-- The half width of the interval around one from which the jitter factor is drawn. -/
  jitter : Binary64 := ⟨0x3FD0000000000000⟩
deriving DecidableEq

/-- The factor from one delay to the next. A multiplier below one, or NaN, acts as one. -/
def Policy.growth (p : Policy) : Binary64 := p.multiplier.atLeastOne

/-- Jitter that is not positive, or NaN, draws nothing. -/
def Policy.jitters (p : Policy) : Bool := Binary64.zero.lt p.jitter

/-- The greatest distance of a jitter factor from one, which is itself at most one. -/
def Policy.spread (p : Policy) : Binary64 :=
  if Binary64.one.lt p.jitter then .one else if p.jitters then p.jitter else .zero

def Policy.leastFactor (p : Policy) : Binary64 := Binary64.one.add p.spread.opposite

def Policy.greatestFactor (p : Policy) : Binary64 := Binary64.one.add p.spread

/-- A jitter factor is any number from the least factor to the greatest. -/
structure Policy.MayDraw (p : Policy) (draw : Binary64) : Prop where
  number : draw.isNaN = false
  low : draw.lt p.leastFactor = false
  high : p.greatestFactor.lt draw = false

end Backoff

structure Backoff where
  policy : Backoff.Policy
  /-- The delays handed out since the last reset. -/
  attempts : Nat := 0
  /-- The next delay before jitter and cap. -/
  delay : Duration
deriving DecidableEq

namespace Backoff

def new (policy : Policy) : Backoff := { policy, delay := policy.initialDelay }

def reset (b : Backoff) : Backoff := new b.policy

def isExhausted (b : Backoff) : Bool := decide (b.policy.maxAttempts.toNat ≤ b.attempts)

inductive Outcome where
  | exhausted
  | wait (delay : Duration)
  /-- A product that is no duration. The attempt is counted, the schedule stays. -/
  | overflow
deriving DecidableEq

/-- Takes the next delay, with `draw` as the jitter factor and `scale?` as the product. -/
def nextWith (scale? : Duration → Binary64 → Option Duration) (b : Backoff) (draw : Binary64) :
    Outcome × Backoff :=
  if b.isExhausted then (.exhausted, b)
  else
    let counted := { b with attempts := b.attempts + 1 }
    match if b.policy.jitters then scale? b.delay draw else some b.delay with
    | none => (.overflow, counted)
    | some jittered =>
      match scale? b.delay b.policy.growth with
      | none => (.overflow, counted)
      | some grown =>
        (.wait (min jittered b.policy.maxDelay),
          { counted with delay := min grown b.policy.maxDelay })

def next : Backoff → Binary64 → Outcome × Backoff := nextWith Duration.scale?

@[simp] theorem policy_reset (b : Backoff) : b.reset.policy = b.policy := rfl

@[simp] theorem attempts_reset (b : Backoff) : b.reset.attempts = 0 := rfl

theorem policy_nextWith (scale? : Duration → Binary64 → Option Duration) (b : Backoff)
    (draw : Binary64) : (b.nextWith scale? draw).2.policy = b.policy := by
  unfold nextWith
  split
  · rfl
  · dsimp only
    split
    · rfl
    split <;> rfl

end Backoff

end GameClient
