import GameClient.Backoff

/-! # Requests to a backoff

Delays are asked for and the backoff is reset in any order. The requests since the last reset decide
which of them is granted, and nothing before the reset matters. Products are a parameter here: the
ration holds for every function in the place of `Duration.scale?`. -/

namespace GameClient

namespace Duration

theorem min_le_right (a b : Duration) : min a b ≤ b := by
  rw [min_def]
  split
  · assumption
  · exact Nat.le_refl b.nanos

end Duration

namespace Backoff

variable {scale? : Duration → Binary64 → Option Duration} {b : Backoff} {draw : Binary64}

/-! ## One request -/

/-- What can come of asking for a delay. -/
inductive Asking (scale? : Duration → Binary64 → Option Duration) (b : Backoff) (draw : Binary64) :
    Outcome × Backoff → Prop
  | exhausted : b.policy.maxAttempts.toNat ≤ b.attempts → Asking scale? b draw (.exhausted, b)
  | overflow : b.attempts < b.policy.maxAttempts.toNat →
      (b.policy.jitters = true ∧ scale? b.delay draw = none) ∨
        scale? b.delay b.policy.growth = none →
      Asking scale? b draw (.overflow, { b with attempts := b.attempts + 1 })
  | wait {jittered grown : Duration} : b.attempts < b.policy.maxAttempts.toNat →
      (if b.policy.jitters then scale? b.delay draw else some b.delay) = some jittered →
      scale? b.delay b.policy.growth = some grown →
      Asking scale? b draw (.wait (min jittered b.policy.maxDelay),
        { b with attempts := b.attempts + 1, delay := min grown b.policy.maxDelay })

theorem asking (scale? : Duration → Binary64 → Option Duration) (b : Backoff) (draw : Binary64) :
    Asking scale? b draw (b.nextWith scale? draw) := by
  unfold nextWith
  split
  · next used => exact .exhausted (of_decide_eq_true used)
  next spare =>
  have room : b.attempts < b.policy.maxAttempts.toNat := by
    simpa [isExhausted] using spare
  dsimp only
  split
  · next lost =>
    refine .overflow room (.inl ?_)
    split at lost
    · next jitters => exact ⟨jitters, lost⟩
    · cases lost
  · next jittered drawn =>
    split
    · next lost => exact .overflow room (.inr lost)
    · next grown product => exact .wait room drawn product

theorem nextWith_of_isExhausted (used : b.isExhausted = true) :
    b.nextWith scale? draw = (.exhausted, b) := if_pos used

theorem isExhausted_iff (scale? : Duration → Binary64 → Option Duration) (b : Backoff)
    (draw : Binary64) : b.isExhausted = true ↔ (b.nextWith scale? draw).1 = .exhausted := by
  refine ⟨fun used => by rw [nextWith_of_isExhausted used], fun refused => ?_⟩
  have result := asking scale? b draw
  generalize b.nextWith scale? draw = asked at *
  cases result with
  | exhausted used => exact decide_eq_true used
  | overflow => cases refused
  | wait => cases refused

theorem le_maxDelay_of_nextWith {delay : Duration} (h : (b.nextWith scale? draw).1 = .wait delay) :
    delay ≤ b.policy.maxDelay := by
  have result := asking scale? b draw
  generalize b.nextWith scale? draw = asked at *
  cases result with
  | exhausted => cases h
  | overflow => cases h
  | wait =>
    cases h
    exact Duration.min_le_right ..

/-! ## Runs of requests -/

inductive Request where
  /-- The next delay, with `draw` as the jitter factor. -/
  | next (draw : Binary64)
  | reset
deriving DecidableEq

def serve (scale? : Duration → Binary64 → Option Duration) (b : Backoff) : Request → Backoff
  | .next draw => (b.nextWith scale? draw).2
  | .reset => b.reset

def after (scale? : Duration → Binary64 → Option Duration) (b : Backoff)
    (requests : List Request) : Backoff :=
  requests.foldl (serve scale?) b

/-- What the requests for a delay return, in order. -/
def outcomes (scale? : Duration → Binary64 → Option Duration) : Backoff → List Request → List Outcome
  | _, [] => []
  | b, .next draw :: rest =>
    (b.nextWith scale? draw).1 :: outcomes scale? (b.nextWith scale? draw).2 rest
  | b, .reset :: rest => outcomes scale? b.reset rest

/-- The requests for a delay since the last reset, after `count` of them. -/
def Request.tally (count : Nat) : Request → Nat
  | next _ => count + 1
  | reset => 0

/-- The requests for a delay since the last reset, or since the beginning. -/
def asked (requests : List Request) : Nat := requests.foldl Request.tally 0

theorem asked_replicate (count : Nat) (draw : Binary64) :
    asked (.replicate count (.next draw)) = count := by
  induction count with
  | zero => rfl
  | succ count ih =>
    rw [List.replicate_succ', asked, List.foldl_append]
    exact congrArg Nat.succ ih

theorem after_append (b : Backoff) (past rest : List Request) :
    b.after scale? (past ++ rest) = (b.after scale? past).after scale? rest := List.foldl_append

theorem outcomes_append (b : Backoff) (past rest : List Request) :
    b.outcomes scale? (past ++ rest) =
      b.outcomes scale? past ++ (b.after scale? past).outcomes scale? rest := by
  induction past generalizing b with
  | nil => rfl
  | cons request past ih =>
    cases request with
    | next draw => exact congrArg (List.cons _) (ih _)
    | reset => exact ih b.reset

theorem outcomes_next (b : Backoff) (past rest : List Request) (draw : Binary64) :
    b.outcomes scale? (past ++ .next draw :: rest) =
      b.outcomes scale? past ++ ((b.after scale? past).nextWith scale? draw).1 ::
        (b.after scale? (past ++ [.next draw])).outcomes scale? rest := by
  rw [outcomes_append, after_append]
  rfl

/-- Every outcome is that of some request, in the state that the requests before it left. -/
theorem mem_outcomes {requests : List Request} {outcome : Outcome} :
    outcome ∈ b.outcomes scale? requests ↔ ∃ past draw rest, requests = past ++ .next draw :: rest ∧
      ((b.after scale? past).nextWith scale? draw).1 = outcome := by
  constructor
  · intro returned
    induction requests generalizing b with
    | nil => cases returned
    | cons request requests ih =>
      cases request with
      | next draw =>
        rcases List.mem_cons.mp returned with first | later
        · exact ⟨[], draw, requests, rfl, first.symm⟩
        · obtain ⟨past, draw', rest, rfl, returned'⟩ := ih later
          exact ⟨.next draw :: past, draw', rest, rfl, returned'⟩
      | reset =>
        obtain ⟨past, draw', rest, rfl, returned'⟩ := ih returned
        exact ⟨.reset :: past, draw', rest, rfl, returned'⟩
  · rintro ⟨past, draw, rest, rfl, rfl⟩
    rw [outcomes_next]
    exact List.mem_append_right _ List.mem_cons_self

/-! ## The ration -/

/-- A backoff that was asked so often since its last reset. -/
structure Serves (p : Policy) (count : Nat) (b : Backoff) : Prop where
  policy : b.policy = p
  attempts : b.attempts = min count p.maxAttempts.toNat

namespace Serves

variable {p : Policy} {count : Nat}

theorem next (h : Serves p count b) (draw : Binary64) :
    Serves p (count + 1) (b.nextWith scale? draw).2 := by
  obtain ⟨policy, attempts⟩ := h
  refine ⟨(policy_nextWith scale? b draw).trans policy, ?_⟩
  have result := asking scale? b draw
  rw [← policy] at attempts ⊢
  generalize b.nextWith scale? draw = asked at *
  cases result with
  | exhausted used =>
    dsimp only
    omega
  | overflow room =>
    dsimp only
    omega
  | wait room =>
    dsimp only
    omega

theorem serve (h : Serves p count b) (request : Request) :
    Serves p (request.tally count) (b.serve scale? request) := by
  cases request with
  | next draw => exact h.next draw
  | reset =>
    refine ⟨h.policy, ?_⟩
    exact (Nat.zero_min _).symm

theorem after (h : Serves p count b) (requests : List Request) :
    Serves p (requests.foldl Request.tally count) (b.after scale? requests) := by
  induction requests generalizing b count with
  | nil => exact h
  | cons request requests ih => exact ih (h.serve request)

theorem isExhausted_iff (h : Serves p count b) :
    b.isExhausted = true ↔ p.maxAttempts.toNat ≤ count := by
  rw [isExhausted, decide_eq_true_iff, h.policy, h.attempts]
  omega

theorem reset_eq (h : Serves p count b) : b.reset = new p := congrArg new h.policy

end Serves

theorem serves_new (scale? : Duration → Binary64 → Option Duration) (p : Policy)
    (requests : List Request) : Serves p (asked requests) ((new p).after scale? requests) :=
  Serves.after (b := new p) ⟨rfl, (Nat.zero_min _).symm⟩ requests

/-- The policy rations delays: since a reset it grants so many and no more, none longer than its cap,
and a reset starts the same ration again. -/
structure Rationed (scale? : Duration → Binary64 → Option Duration) (p : Policy)
    (requests : List Request) : Prop where
  capped : ∀ delay, .wait delay ∈ (new p).outcomes scale? requests → delay ≤ p.maxDelay
  granted : ∀ past draw rest, requests = past ++ .next draw :: rest →
    asked past < p.maxAttempts.toNat →
      ∃ delay, (((new p).after scale? past).nextWith scale? draw).1 = .wait delay
  refused : ∀ past draw rest, requests = past ++ .next draw :: rest →
    p.maxAttempts.toNat ≤ asked past →
      ((new p).after scale? past).nextWith scale? draw = (.exhausted, (new p).after scale? past)
  attempts : ((new p).after scale? requests).attempts = min (asked requests) p.maxAttempts.toNat
  isExhausted : ∀ draw, ((new p).after scale? requests).isExhausted = true ↔
    (((new p).after scale? requests).nextWith scale? draw).1 = .exhausted
  renewed : (new p).after scale? (requests ++ [.reset]) = new p
  forgotten : ∀ later, (new p).after scale? (requests ++ .reset :: later) =
      (new p).after scale? later ∧
    (new p).outcomes scale? (requests ++ .reset :: later) =
      (new p).outcomes scale? requests ++ (new p).outcomes scale? later

/-- A policy rations its delays as long as no product overflows. -/
theorem rationed (scale? : Duration → Binary64 → Option Duration) (p : Policy)
    (requests : List Request) (sound : .overflow ∉ (new p).outcomes scale? requests) :
    Rationed scale? p requests where
  capped delay returned := by
    obtain ⟨past, draw, rest, -, granted⟩ := mem_outcomes.mp returned
    exact (serves_new scale? p past).policy ▸ le_maxDelay_of_nextWith granted
  granted past draw rest split room := by
    have fresh := serves_new scale? p past
    have refused := isExhausted_iff scale? ((new p).after scale? past) draw
    rw [fresh.isExhausted_iff] at refused
    cases returned : (((new p).after scale? past).nextWith scale? draw).1 with
    | exhausted => exact absurd (refused.mpr returned) (Nat.not_le_of_lt room)
    | wait delay => exact ⟨delay, rfl⟩
    | overflow => exact absurd (mem_outcomes.mpr ⟨past, draw, rest, split, returned⟩) sound
  refused past draw rest _ used :=
    nextWith_of_isExhausted ((serves_new scale? p past).isExhausted_iff.mpr used)
  attempts := (serves_new scale? p requests).attempts
  isExhausted := isExhausted_iff scale? _
  renewed := by
    rw [after_append]
    exact (serves_new scale? p requests).reset_eq
  forgotten later := by
    have renewed := (serves_new scale? p requests).reset_eq
    rw [after_append, outcomes_append]
    exact ⟨congrArg (after scale? · later) renewed,
      congrArg (_ ++ outcomes scale? · later) renewed⟩

/-- Two delays are granted, a third is refused, and after a reset one is granted again. -/
theorem rationed_across_reset :
    let p : Policy := { maxAttempts := 2 }
    let requests := [.next .one, .next ⟨0x3FF4000000000000⟩, .next .one, .reset, .next .one]
    .overflow ∉ (new p).outcomes Duration.scale? requests ∧
      Rationed Duration.scale? p requests :=
  ⟨by decide +kernel, rationed _ _ _ (by decide +kernel)⟩

/-! ## The course of the delays -/

/-- The delay, before jitter and cap, of the request that comes after `count` others. There is none
once a product has overflowed. -/
def Policy.base (scale? : Duration → Binary64 → Option Duration) (p : Policy) :
    Nat → Option Duration
  | 0 => some p.initialDelay
  | count + 1 => (p.base scale? count).bind fun delay =>
      (scale? delay p.growth).map (min · p.maxDelay)

/-- A backoff in which no product has overflowed since its last reset. -/
structure OnCourse (scale? : Duration → Binary64 → Option Duration) (p : Policy) (b : Backoff) :
    Prop where
  policy : b.policy = p
  delay : p.base scale? b.attempts = some b.delay

theorem onCourse_new (scale? : Duration → Binary64 → Option Duration) (p : Policy) :
    OnCourse scale? p (new p) := ⟨rfl, rfl⟩

namespace OnCourse

variable {p : Policy}

theorem reset (h : OnCourse scale? p b) : OnCourse scale? p b.reset := by
  rw [Backoff.reset, h.policy]
  exact onCourse_new scale? p

theorem next (h : OnCourse scale? p b) (sound : (b.nextWith scale? draw).1 ≠ .overflow) :
    OnCourse scale? p (b.nextWith scale? draw).2 := by
  have result := asking scale? b draw
  generalize b.nextWith scale? draw = asked at *
  cases result with
  | exhausted => exact h
  | overflow => exact absurd rfl sound
  | wait _ _ product =>
    refine ⟨h.policy, ?_⟩
    rw [Policy.base, h.delay, ← h.policy]
    exact congrArg (Option.map (min · b.policy.maxDelay)) product

theorem after (h : OnCourse scale? p b) {requests : List Request}
    (sound : .overflow ∉ b.outcomes scale? requests) :
    OnCourse scale? p (b.after scale? requests) := by
  induction requests generalizing b with
  | nil => exact h
  | cons request requests ih =>
    cases request with
    | next draw =>
      obtain ⟨first, rest⟩ := List.ne_and_not_mem_of_not_mem_cons sound
      exact ih (h.next (Ne.symm first)) rest
    | reset => exact ih h.reset sound

end OnCourse

end Backoff

end GameClient
