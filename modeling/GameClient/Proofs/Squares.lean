import GameClient.Player.Bot
import Mathlib.Algebra.BigOperators.Group.List.Basic
import Mathlib.Algebra.Group.Prod
import Mathlib.Algebra.Ring.Int.Defs
import Mathlib.Data.List.Nodup

/-! # Walking squares

A bot that is not released turns to the right after each leg, so its heading is known from the
number of samples before. A stretch of samples that is as long as a square takes every heading
equally often, wherever it starts, and ends where it started. Only where the counter wraps may a leg
be cut short. -/

namespace GameClient

/-- How far a sample moves the player to the right and up. -/
def KeyMask.step (keys : KeyMask) : Int × Int :=
  ((if keys.contains right then 1 else 0) - if keys.contains left then 1 else 0,
    (if keys.contains up then 1 else 0) - if keys.contains down then 1 else 0)

namespace Bot

/-- The headings of the four legs. -/
def square : List KeyMask := [.up, .right, .down, .left]

theorem nodup_square : square.Nodup := by decide

theorem sum_step_square : (square.map KeyMask.step).sum = 0 := by decide

/-- The samples on each leg. -/
def legLength (samplesPerLeg : UInt32) : Nat := max samplesPerLeg.toNat 1

theorem legLength_pos (samplesPerLeg : UInt32) : 0 < legLength samplesPerLeg :=
  Nat.le_max_right _ 1

theorem toNat_samplesPerLeg (samplesPerLeg : UInt32) :
    (max samplesPerLeg 1).toNat = legLength samplesPerLeg := by
  have order : samplesPerLeg ≤ 1 ↔ samplesPerLeg.toNat ≤ 1 := UInt32.le_iff_toNat_le
  rw [legLength]
  change (if samplesPerLeg ≤ 1 then 1 else samplesPerLeg).toNat = _
  split
  next short => exact (Nat.max_eq_right (order.mp short)).symm
  next long => exact (Nat.max_eq_left (Nat.le_of_not_le (mt order.mpr long))).symm

/-! ## Headings -/

/-- The heading of a sample, by its number. -/
def heading (leg count : Nat) : KeyMask :=
  match count / leg % 4 with
  | 0 => .up
  | 1 => .right
  | 2 => .down
  | _ => .left

theorem square_heading (leg count : Nat) : square[count / leg % 4]? = some (heading leg count) := by
  have turn : count / leg % 4 < 4 := Nat.mod_lt _ (by decide)
  unfold heading
  generalize count / leg % 4 = quarter at turn
  match quarter with
  | 0 => rfl
  | 1 => rfl
  | 2 => rfl
  | 3 => rfl

/-- After four legs the headings begin again. -/
theorem heading_add {leg : Nat} (pos : 0 < leg) (count : Nat) :
    heading leg (4 * leg + count) = heading leg count := by
  rw [heading, heading, Nat.mul_comm 4, Nat.mul_add_div pos, Nat.add_mod_left]

/-- The headings of consecutive samples. -/
def course (leg start length : Nat) : List KeyMask := (List.range' start length).map (heading leg)

theorem course_add (leg start length length' : Nat) :
    course leg start (length + length') =
      course leg start length ++ course leg (start + length) length' := by
  rw [course, ← List.range'_append_1, List.map_append, course, course]

theorem course_square {leg : Nat} (pos : 0 < leg) (length : Nat) :
    course leg (4 * leg) length = course leg 0 length := by
  have shifted : List.range' (4 * leg) length =
      (List.range' 0 length).map (4 * leg + ·) := by
    rw [List.map_add_range', Nat.add_zero]
  rw [course, shifted, List.map_map]
  exact List.map_congr_left fun count _ => heading_add pos count

/-- On each leg the heading is that of a bot with legs of one sample. -/
theorem course_leg (leg turns : Nat) :
    course leg (leg * turns) leg = .replicate leg (heading 1 turns) := by
  refine List.eq_replicate_iff.mpr ⟨by rw [course, List.length_map, List.length_range'], ?_⟩
  intro keys taken
  obtain ⟨count, inside, rfl⟩ := List.mem_map.mp taken
  obtain ⟨least, most⟩ := List.mem_range'_1.mp inside
  have turned : count / leg = turns := by
    refine Nat.div_eq_of_lt_le ?_ ?_
    · rwa [Nat.mul_comm]
    · rwa [Nat.add_mul, Nat.one_mul, Nat.mul_comm]
  rw [heading, heading, turned, Nat.div_one]

theorem course_legs (leg turns : Nat) :
    course leg 0 (leg * turns) = (course 1 0 turns).flatMap (.replicate leg) := by
  induction turns with
  | zero => rfl
  | succ turns ih =>
    rw [Nat.mul_succ, course_add, ih, Nat.zero_add, course_leg, course_add, List.flatMap_append,
      Nat.zero_add]
    exact congrArg _ (List.append_nil _).symm

/-- Wherever a stretch of a square's length starts, it has the headings of the square. -/
theorem course_perm {leg : Nat} (pos : 0 < leg) (start : Nat) :
    (course leg start (4 * leg)).Perm (square.flatMap (.replicate leg)) := by
  -- After a whole square come the headings of the first samples again, so the same headings remain
  -- when the first samples are left out instead.
  have parts : course leg 0 start ++ course leg start (4 * leg) =
      course leg 0 (4 * leg) ++ course leg 0 start := by
    have early := course_add leg 0 start (4 * leg)
    have late := course_add leg 0 (4 * leg) start
    rw [Nat.zero_add] at early late
    rw [← early, Nat.add_comm, late, course_square pos]
  have aligned : course leg 0 (4 * leg) = square.flatMap (.replicate leg) := by
    rw [Nat.mul_comm, course_legs]
    rfl
  rw [← aligned]
  refine (List.perm_append_left_iff (course leg 0 start)).mp ?_
  rw [parts]
  exact List.perm_append_comm

/-- Each heading is taken for one leg, and opposite legs cancel. -/
structure Closed (leg : Nat) (headings : List KeyMask) : Prop where
  even : ∀ keys ∈ square, headings.count keys = leg
  back : (headings.map KeyMask.step).sum = 0

theorem count_legs (leg : Nat) (headings : List KeyMask) (keys : KeyMask) :
    (headings.flatMap (.replicate leg)).count keys = leg * headings.count keys := by
  induction headings with
  | nil => rfl
  | cons first headings ih =>
    rw [List.flatMap_cons, List.count_append, ih, List.count_replicate, List.count_cons,
      Nat.mul_add, Nat.add_comm, mul_ite, Nat.mul_one, Nat.mul_zero]

theorem sum_step_legs (leg : Nat) (headings : List KeyMask) :
    ((headings.flatMap (.replicate leg)).map KeyMask.step).sum =
      leg • (headings.map KeyMask.step).sum := by
  induction headings with
  | nil => exact (nsmul_zero leg).symm
  | cons first headings ih =>
    rw [List.flatMap_cons, List.map_append, List.sum_append, ih, List.map_replicate,
      List.sum_replicate, List.map_cons, List.sum_cons, nsmul_add]

theorem closed_course {leg : Nat} (pos : 0 < leg) (start : Nat) :
    Closed leg (course leg start (4 * leg)) where
  even keys h := by
    have once : square.count keys = 1 := List.count_eq_one_of_mem nodup_square h
    rw [(course_perm pos start).count_eq, count_legs, once, Nat.mul_one]
  back := by
    rw [((course_perm pos start).map _).sum_eq, sum_step_legs, sum_step_square, nsmul_zero]

/-! ## Runs of a bot -/

/-- What is asked of a bot. -/
inductive Request where
  | sample
  | release
deriving DecidableEq

def serve (b : Bot) : Request → Bot
  | .sample => (Sampler.sample b).2
  | .release => Sampler.release b

/-- The bot once all requests are served, in order. -/
def after (b : Bot) (requests : List Request) : Bot := requests.foldl serve b

/-- What the samples return, in order. -/
def masks : Bot → List Request → List KeyMask
  | _, [] => []
  | b, .sample :: rest => (Sampler.sample b).1 :: (Sampler.sample b).2.masks rest
  | b, .release :: rest => (Sampler.release b).masks rest

theorem sample_of_released {b : Bot} (released : b.released = true) :
    Sampler.sample b = (.none, b) := if_pos released

theorem released_sample (b : Bot) : (Sampler.sample b).2.released = b.released := by
  change b.sample.2.released = _
  unfold sample
  split <;> rfl

theorem released_after {b : Bot} (requests : List Request)
    (h : b.released = true ∨ .release ∈ requests) : (b.after requests).released = true := by
  induction requests generalizing b with
  | nil => exact h.resolve_right List.not_mem_nil
  | cons request requests ih =>
    apply ih
    cases request with
    | sample =>
      rw [List.mem_cons] at h
      exact h.imp (released_sample b).trans fun asked => asked.resolve_left Request.noConfusion
    | release => exact .inl rfl

/-- A bot that walks, after so many samples. -/
def walking (samplesPerLeg : UInt32) (count : Nat) : Bot :=
  { new samplesPerLeg with samples := UInt32.ofNat count }

theorem walking_mod (samplesPerLeg : UInt32) (count : Nat) :
    walking samplesPerLeg (count % UInt32.size) = walking samplesPerLeg count := by
  have same : UInt32.ofNat (count % UInt32.size) = UInt32.ofNat count := UInt32.ofNat_mod_size
  rw [walking, same, walking]

theorem sample_walking (samplesPerLeg : UInt32) (count : Nat) :
    Sampler.sample (walking samplesPerLeg count) =
      (heading (legLength samplesPerLeg) (count % UInt32.size),
        walking samplesPerLeg (count + 1)) := by
  have turns : (UInt32.ofNat count / max samplesPerLeg 1).toNat =
      count % UInt32.size / legLength samplesPerLeg := by
    rw [UInt32.toNat_div, UInt32.toNat_ofNat', toNat_samplesPerLeg]
  have next : UInt32.ofNat count + 1 = UInt32.ofNat (count + 1) := (UInt32.ofNat_add count 1).symm
  have held : direction (UInt32.ofNat count / max samplesPerLeg 1) =
      heading (legLength samplesPerLeg) (count % UInt32.size) := by
    rw [direction, turns]
    rfl
  change (direction (UInt32.ofNat count / max samplesPerLeg 1),
    { walking samplesPerLeg count with samples := UInt32.ofNat count + 1 }) = _
  rw [held, next]
  rfl

theorem after_walking (samplesPerLeg : UInt32) (start count : Nat) :
    (walking samplesPerLeg start).after (.replicate count .sample) =
      walking samplesPerLeg (start + count) := by
  induction count generalizing start with
  | zero => rfl
  | succ count ih =>
    have next := congrArg Prod.snd (sample_walking samplesPerLeg start)
    rw [List.replicate_succ, after, List.foldl_cons, serve, next, ← after, ih, Nat.succ_add,
      Nat.add_succ]

theorem masks_walking (samplesPerLeg : UInt32) (start count : Nat)
    (fits : start + count ≤ UInt32.size) :
    (walking samplesPerLeg start).masks (.replicate count .sample) =
      course (legLength samplesPerLeg) start count := by
  induction count generalizing start with
  | zero => rfl
  | succ count ih =>
    have low : start < UInt32.size := by omega
    rw [List.replicate_succ, masks, sample_walking, Nat.mod_eq_of_lt low, ih _ (by omega)]
    rfl

theorem after_new (samplesPerLeg : UInt32) (count : Nat) :
    (new samplesPerLeg).after (.replicate count .sample) =
      walking samplesPerLeg (count % UInt32.size) := by
  have started := after_walking samplesPerLeg 0 count
  rw [Nat.zero_add] at started
  rw [walking_mod, ← started]
  rfl

/-- A bot walks squares until it is released. The heading follows from the number of samples before,
and any four legs' worth of samples that the counter does not wrap in is closed. -/
theorem walks_squares (samplesPerLeg : UInt32) :
    (∀ count, square[count % UInt32.size / legLength samplesPerLeg % 4]? =
      some (Sampler.sample ((new samplesPerLeg).after (.replicate count .sample))).1) ∧
    (∀ start, start % UInt32.size + 4 * legLength samplesPerLeg ≤ UInt32.size →
      Closed (legLength samplesPerLeg) (((new samplesPerLeg).after (.replicate start .sample)).masks
        (.replicate (4 * legLength samplesPerLeg) .sample))) ∧
    ∀ requests, .release ∈ requests →
      (Sampler.sample ((new samplesPerLeg).after requests)).1 = .none := by
  refine ⟨fun count => ?_, fun start fits => ?_, fun requests asked => ?_⟩
  · rw [after_new, sample_walking, Nat.mod_mod]
    exact square_heading _ _
  · rw [after_new, masks_walking _ _ _ fits]
    exact closed_course (legLength_pos samplesPerLeg) _
  · rw [sample_of_released (released_after requests (.inr asked))]

/-- With no samples on a leg every sample turns, in the last square before the counter wraps as in
any other. -/
theorem walks_squares_of_zero :
    (4294967292 % UInt32.size + 4 * legLength 0 ≤ UInt32.size ∧
      Closed (legLength 0) (((new 0).after (.replicate 4294967292 .sample)).masks
        (.replicate (4 * legLength 0) .sample))) ∧
    Request.release ∈ [Request.sample, .release] ∧
      (Sampler.sample ((new 0).after [.sample, .release])).1 = .none := by
  obtain ⟨-, stretches, stopped⟩ := walks_squares 0
  have fits : 4294967292 % UInt32.size + 4 * legLength 0 ≤ UInt32.size := by decide
  have asked : Request.release ∈ [Request.sample, .release] := by decide
  exact ⟨⟨fits, stretches _ fits⟩, asked, stopped _ asked⟩

end Bot

end GameClient
