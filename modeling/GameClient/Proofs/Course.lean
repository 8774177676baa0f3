import GameClient.Proofs.Factors
import GameClient.Proofs.Requests

/-! # The course of the delays

The delays before jitter follow a course that the policy alone decides: each is the one before it
times the growth, up to the cap. A jitter factor changes the delay for which it is drawn and no
other. Without jitter the course itself is handed out. It never turns back as long as no product is
less than the delay that is multiplied, and it stays at the cap once it is there. -/

namespace GameClient

open Binary64

namespace Duration

theorem min_le_left (a b : Duration) : min a b ≤ a := by
  rw [min_def]
  split
  · exact Nat.le_refl a.nanos
  · next above => exact Nat.le_of_not_le above

theorem le_min {a b c : Duration} (h : a ≤ b) (h' : a ≤ c) : a ≤ min b c := by
  rw [min_def]
  split
  · exact h
  · exact h'

theorem le_trans {a b c : Duration} (h : a ≤ b) (h' : b ≤ c) : a ≤ c := Nat.le_trans h h'

theorem le_antisymm {a b : Duration} (h : a ≤ b) (h' : b ≤ a) : a = b :=
  congrArg Duration.mk (Nat.le_antisymm h h')

end Duration

namespace Backoff

variable {scale? : Duration → Binary64 → Option Duration} {p : Policy}

/-! ## Growth -/

theorem Policy.growth_of_small (h : p.multiplier.isNaN = true ∨ p.multiplier.lt one = true) :
    p.growth = one := by
  apply growth_of_not_lt
  apply Bool.eq_false_iff.mpr
  intro above
  obtain ⟨-, number, greater⟩ := lt_iff.mp above
  rcases h with nan | below
  · exact nomatch nan.symm.trans number
  · exact Int.lt_asymm greater (lt_iff.mp below).2.2

theorem Policy.growth_of_not_small (number : p.multiplier.isNaN = false)
    (large : p.multiplier.lt one = false) : p.growth = p.multiplier := by
  cases above : one.lt p.multiplier with
  | true => exact growth_of_lt above
  | false =>
    -- Neither above one nor below it, so it is one, which has one rank to itself.
    have low := rank_le_of_not_lt number (by decide) large
    have high := rank_le_of_not_lt (by decide) number above
    rw [growth_of_not_lt above]
    exact eq_of_rank_eq (by decide) (Int.le_antisymm low high)

/-! ## Going up -/

/-- No delay of the course that is multiplied is more than its product. -/
def Policy.Rises (scale? : Duration → Binary64 → Option Duration) (p : Policy) : Prop :=
  ∀ count < p.maxAttempts.toNat, ∀ delay ∈ p.base scale? count,
    ∀ grown ∈ scale? delay p.growth, delay ≤ grown

theorem Policy.Rises.le_succ (h : p.Rises scale?) {count : Nat} (more : count < p.maxAttempts.toNat)
    {delay next : Duration} (here : p.base scale? count = some delay)
    (there : p.base scale? (count + 1) = some next) : min delay p.maxDelay ≤ min next p.maxDelay := by
  rw [base, here, Option.bind_some] at there
  obtain ⟨grown, product, rfl⟩ := Option.map_eq_some_iff.mp there
  have up : delay ≤ grown := h count more delay here grown product
  have capped := Duration.min_le_right delay p.maxDelay
  apply Duration.le_min _ capped
  exact Duration.le_min (Duration.le_trans (Duration.min_le_left delay p.maxDelay) up) capped

theorem Policy.Rises.le (h : p.Rises scale?) {first last : Nat} (order : first ≤ last)
    (within : last ≤ p.maxAttempts.toNat) {delay later : Duration}
    (here : p.base scale? first = some delay) (there : p.base scale? last = some later) :
    min delay p.maxDelay ≤ min later p.maxDelay := by
  induction order generalizing later with
  | refl =>
    obtain rfl := Option.some.inj (here.symm.trans there)
    exact Nat.le_refl _
  | @step last _ ih =>
    obtain ⟨between, reached, -⟩ := Option.bind_eq_some_iff.mp there
    exact Duration.le_trans (ih (Nat.le_of_succ_le within) reached)
      (h.le_succ within reached there)

/-! ## Requests on the course -/

/-- What a request for a delay returns once these requests are served. -/
def Policy.outcomeAfter (scale? : Duration → Binary64 → Option Duration) (p : Policy)
    (past : List Request) (draw : Binary64) : Outcome :=
  (((new p).after scale? past).nextWith scale? draw).1

theorem asked_append_of_no_reset (past : List Request) {later : List Request}
    (none : .reset ∉ later) : asked (past ++ later) = asked past + later.length := by
  rw [asked, List.foldl_append, ← asked]
  generalize asked past = count
  induction later generalizing count with
  | nil => rfl
  | cons request later ih =>
    obtain ⟨other, rest⟩ := List.ne_and_not_mem_of_not_mem_cons none
    cases request with
    | next draw =>
      rw [List.foldl_cons, ih rest, List.length_cons]
      exact Nat.succ_add_eq_add_succ count later.length
    | reset => exact absurd rfl other

theorem base_after {requests : List Request} (sound : .overflow ∉ (new p).outcomes scale? requests) :
    p.base scale? (min (asked requests) p.maxAttempts.toNat) =
      some ((new p).after scale? requests).delay := by
  have course := (onCourse_new scale? p).after sound
  have serves := serves_new scale? p requests
  rw [← serves.attempts]
  exact course.delay

/-- A request within the ration returns the delay of the course, times the factor if there is
jitter, and capped. -/
theorem exists_outcome {past rest : List Request} {draw : Binary64}
    (sound : .overflow ∉ (new p).outcomes scale? (past ++ .next draw :: rest))
    (room : asked past < p.maxAttempts.toNat) :
    ∃ base jittered, p.base scale? (asked past) = some base ∧
      (if p.jitters then scale? base draw else some base) = some jittered ∧
      p.outcomeAfter scale? past draw = .wait (min jittered p.maxDelay) := by
  rw [outcomes_next] at sound
  obtain ⟨before, here⟩ := not_or.mp (mt List.mem_append.mpr sound)
  have course := base_after before
  have serves := serves_new scale? p past
  have policy := serves.policy
  have attempts := serves.attempts
  have result := asking scale? ((new p).after scale? past) draw
  rw [Nat.min_eq_left (Nat.le_of_lt room)] at course attempts
  unfold Policy.outcomeAfter
  generalize (new p).after scale? past = b at *
  generalize b.nextWith scale? draw = asked at *
  subst policy
  cases result with
  | exhausted used => omega
  | overflow => exact absurd List.mem_cons_self here
  | @wait jittered grown _ drawn _ => exact ⟨b.delay, jittered, course, drawn, rfl⟩

theorem room_of_wait {past : List Request} {draw : Binary64} {delay : Duration}
    (returned : p.outcomeAfter scale? past draw = .wait delay) : asked past < p.maxAttempts.toNat := by
  apply Nat.lt_of_not_le
  intro used
  have exhausted := (serves_new scale? p past).isExhausted_iff.mpr used
  rw [Policy.outcomeAfter, nextWith_of_isExhausted exhausted] at returned
  cases returned

theorem outcome_of_not_jitters {past rest : List Request} {draw : Binary64}
    (sound : .overflow ∉ (new p).outcomes scale? (past ++ .next draw :: rest))
    (plain : p.jitters = false) (room : asked past < p.maxAttempts.toNat) :
    ∃ base, p.base scale? (asked past) = some base ∧
      p.outcomeAfter scale? past draw = .wait (min base p.maxDelay) := by
  obtain ⟨base, jittered, reached, drawn, returned⟩ := exists_outcome sound room
  rw [plain] at drawn
  cases drawn
  exact ⟨base, reached, returned⟩

/-- Without jitter a later delay of the same ration is no shorter. -/
theorem Policy.Rises.le_of_wait (h : p.Rises scale?) (plain : p.jitters = false)
    {past later rest : List Request} {draw draw' : Binary64} {delay delay' : Duration}
    (sound : .overflow ∉
      (new p).outcomes scale? (past ++ .next draw :: later ++ .next draw' :: rest))
    (none : .reset ∉ later) (first : p.outcomeAfter scale? past draw = .wait delay)
    (second : p.outcomeAfter scale? (past ++ .next draw :: later) draw' = .wait delay') :
    delay ≤ delay' := by
  have room := room_of_wait second
  have counted : asked (past ++ .next draw :: later) = asked past + (later.length + 1) :=
    asked_append_of_no_reset past (by simpa using none)
  have sound' := sound
  rw [List.append_assoc, List.cons_append] at sound'
  obtain ⟨base, reached, returned⟩ := outcome_of_not_jitters sound' plain (room_of_wait first)
  obtain ⟨base', reached', returned'⟩ := outcome_of_not_jitters sound plain room
  rw [first] at returned
  rw [second] at returned'
  cases returned
  cases returned'
  exact h.le (by omega) (Nat.le_of_lt room) reached reached'

/-- The delays of a policy follow its course, whatever factors are drawn. Requests beyond the ration
hand out nothing and leave the course where it is. -/
structure Undrifted (scale? : Duration → Binary64 → Option Duration) (p : Policy)
    (requests : List Request) : Prop where
  growth : p.growth =
    if p.multiplier.isNaN = true ∨ p.multiplier.lt one = true then one else p.multiplier
  base : p.base scale? (min (asked requests) p.maxAttempts.toNat) =
    some ((new p).after scale? requests).delay
  /-- As many requests since the last reset lead to the same delay, with other factors too. -/
  alike : ∀ other, .overflow ∉ (new p).outcomes scale? other → asked other = asked requests →
    ((new p).after scale? other).delay = ((new p).after scale? requests).delay
  /-- With jitter the factors that may be drawn are the numbers from one less the jitter to one more,
  where a jitter above one counts as one. -/
  drawn : zero.lt p.jitter = true → ∀ draw,
    let jitter := if one.lt p.jitter then one else p.jitter
    p.MayDraw draw ↔ draw.isNaN = false ∧ draw.lt (one.add jitter.opposite) = false ∧
      (one.add jitter).lt draw = false
  jittered : zero.lt p.jitter = true → ∀ past draw rest, requests = past ++ .next draw :: rest →
    asked past < p.maxAttempts.toNat → ∃ base product, p.base scale? (asked past) = some base ∧
      scale? base draw = some product ∧
      p.outcomeAfter scale? past draw = .wait (min product p.maxDelay)
  plain : zero.lt p.jitter = false → ∀ past draw rest, requests = past ++ .next draw :: rest →
    asked past < p.maxAttempts.toNat → ∃ base, p.base scale? (asked past) = some base ∧
      p.outcomeAfter scale? past draw = .wait (min base p.maxDelay)
  rising : zero.lt p.jitter = false → p.Rises scale? →
    ∀ past draw later draw' rest delay delay',
      requests = past ++ .next draw :: later ++ .next draw' :: rest → .reset ∉ later →
      p.outcomeAfter scale? past draw = .wait delay →
      p.outcomeAfter scale? (past ++ .next draw :: later) draw' = .wait delay' →
      delay ≤ delay' ∧ (delay = p.maxDelay → delay' = p.maxDelay)

/-- As long as no product overflows, no jitter leaves a trace in the course of the delays. -/
theorem undrifted (scale? : Duration → Binary64 → Option Duration) (p : Policy)
    (requests : List Request) (sound : .overflow ∉ (new p).outcomes scale? requests) :
    Undrifted scale? p requests where
  growth := by
    split
    · next small => exact Policy.growth_of_small small
    · next large =>
      obtain ⟨number, large⟩ := not_or.mp large
      exact Policy.growth_of_not_small (Bool.eq_false_iff.mpr number) (Bool.eq_false_iff.mpr large)
  base := base_after sound
  alike other sound' same := by
    apply Option.some.inj
    rw [← base_after sound, ← base_after sound', same]
  drawn jitters draw := by
    have spread : p.spread = if one.lt p.jitter then one else p.jitter := by
      rw [Policy.spread, Policy.jitters, if_pos jitters]
    rw [← spread]
    exact ⟨fun may => ⟨may.number, may.low, may.high⟩,
      fun ⟨number, low, high⟩ => ⟨number, low, high⟩⟩
  jittered jitters past draw rest split room := by
    obtain ⟨base, product, reached, drawn, returned⟩ := exists_outcome (split ▸ sound) room
    rw [Policy.jitters, if_pos jitters] at drawn
    exact ⟨base, product, reached, drawn, returned⟩
  plain none past draw rest split room := outcome_of_not_jitters (split ▸ sound) none room
  rising none rises past draw later draw' rest delay delay' split unbroken first second := by
    have order := rises.le_of_wait none (split ▸ sound) unbroken first second
    refine ⟨order, ?_⟩
    rintro rfl
    have capped : delay' ≤ p.maxDelay := by
      rw [← (serves_new scale? p (past ++ .next draw :: later)).policy]
      exact le_maxDelay_of_nextWith second
    exact Duration.le_antisymm capped order

/-- After a reset the delays are one second, two, and then three, which is the cap. -/
theorem undrifted_up_to_the_cap :
    let p : Policy := { maxDelay := .ofSecs 3, maxAttempts := 4, jitter := .zero }
    let requests := [.next .one, .reset, .next .one, .next .one, .next .one, .next .one]
    .overflow ∉ (new p).outcomes Duration.scale? requests ∧ p.Rises Duration.scale? ∧
      Undrifted Duration.scale? p requests :=
  ⟨by decide +kernel, by unfold Policy.Rises; decide +kernel,
    undrifted _ _ _ (by decide +kernel)⟩

end Backoff

end GameClient
