import GameClient.Backoff
import GameClient.Proofs.Doubles

/-! # Jitter factors and growth

A jitter factor is drawn from an interval around one that reaches from zero to two at most. The
growth of the delays is at least one and has no upper bound. -/

namespace GameClient

namespace Binary64

def two : Binary64 := ⟨0x4000000000000000⟩

/-! ## Sums with one -/

/-- One and a number that is not farther from zero than one is. -/
theorem one_add_eq {x : Binary64} (bound : x.magnitude ≤ one.magnitude) :
    one.add x = ofRatio false (one.total x).toNat grains := by
  have plus : one.isNegative = false := by decide
  have least : -(one.size : Int) ≤ signed x.isNegative x.size :=
    (signed_bounds x.isNegative (sizeAt_strictMono.monotone bound)).1
  have unit : signed false one.size = one.size := rfl
  have sum : 0 ≤ one.total x := by
    rw [total, plus]
    omega
  exact add_eq (by decide) (Nat.lt_of_le_of_lt bound (by decide)) plus sum

theorem isNegative_one_add {x : Binary64} (bound : x.magnitude ≤ one.magnitude) :
    (one.add x).isNegative = false := by
  rw [one_add_eq bound, isNegative_ofRatio]

theorem one_add_le_one_add {x y : Binary64} (bound : x.magnitude ≤ one.magnitude)
    (bound' : y.magnitude ≤ one.magnitude)
    (h : signed x.isNegative x.size ≤ signed y.isNegative y.size) :
    (one.add x).magnitude ≤ (one.add y).magnitude := by
  have sums : one.total x ≤ one.total y := Int.add_le_add_left h _
  have rounded : nearest (one.total x).toNat grains ≤ nearest (one.total y).toNat grains := by
    apply nearest_le_nearest grains_pos grains_pos
    exact Nat.mul_le_mul_right _ (Int.toNat_le_toNat sums)
  rw [one_add_eq bound, one_add_eq bound', magnitude_ofRatio, magnitude_ofRatio]
  omega

end Binary64

open Binary64

namespace Backoff

namespace Policy

variable (p : Policy)

/-! ## Jitter -/

theorem spread_bounds : p.spread.isNegative = false ∧ p.spread.magnitude ≤ one.magnitude := by
  unfold spread
  split
  · decide
  next low =>
  split
  · next jitters =>
    obtain ⟨-, number, above⟩ := lt_iff.mp jitters
    have nonneg : p.jitter.IsNonneg := isNonneg_of_rank (Int.le_of_lt above)
    have high : p.jitter.rank ≤ one.rank :=
      rank_le_of_not_lt (by decide) number (by simpa using low)
    rw [nonneg.rank_eq] at above high
    exact ⟨nonneg.resolve_right (Int.ofNat_lt.mp above).ne', Int.ofNat_le.mp high⟩
  · decide

theorem opposite_spread_bounds :
    p.spread.opposite.isNegative = true ∧ p.spread.opposite.magnitude ≤ one.magnitude := by
  obtain ⟨plus, bound⟩ := p.spread_bounds
  have small : p.spread.magnitude < 2 ^ 63 := Nat.lt_of_le_of_lt bound (by decide)
  have turned : p.spread.opposite = ofSignMagnitude true p.spread.magnitude := by
    rw [opposite, plus]
    rfl
  rw [turned, isNegative_ofSignMagnitude _ small, magnitude_ofSignMagnitude _ small]
  exact ⟨rfl, bound⟩

theorem leastFactor_bounds :
    p.leastFactor.isNegative = false ∧ p.leastFactor.magnitude ≤ one.magnitude := by
  obtain ⟨minus, bound⟩ := p.opposite_spread_bounds
  refine ⟨isNegative_one_add bound, ?_⟩
  calc p.leastFactor.magnitude ≤ (one.add zero).magnitude := by
        apply one_add_le_one_add bound (by decide)
        rw [minus]
        exact (signed_bounds false (Nat.zero_le _)).1
    _ = one.magnitude := by decide +kernel

theorem greatestFactor_bounds : p.greatestFactor.isNegative = false ∧
    one.magnitude ≤ p.greatestFactor.magnitude ∧
      p.greatestFactor.magnitude ≤ two.magnitude := by
  obtain ⟨plus, bound⟩ := p.spread_bounds
  refine ⟨isNegative_one_add bound, ?_, ?_⟩
  · calc one.magnitude = (one.add zero).magnitude := by decide +kernel
      _ ≤ p.greatestFactor.magnitude := by
        apply one_add_le_one_add (by decide) bound
        rw [plus]
        exact (signed_bounds false (Nat.zero_le _)).2
  · calc p.greatestFactor.magnitude ≤ (one.add one).magnitude := by
          apply one_add_le_one_add bound (Nat.le_refl _)
          exact (signed_bounds _ (sizeAt_strictMono.monotone bound)).2
      _ = two.magnitude := by decide +kernel

variable {p}

theorem MayDraw.bounds {draw : Binary64} (h : p.MayDraw draw) :
    draw.IsNonneg ∧ draw.magnitude ≤ two.magnitude := by
  obtain ⟨plus, least⟩ := p.leastFactor_bounds
  obtain ⟨plus', -, greatest⟩ := p.greatestFactor_bounds
  have low := rank_le_of_not_lt h.number
    (isNaN_of_isFinite (Nat.lt_of_le_of_lt least (by decide))) h.low
  have high := rank_le_of_not_lt
    (isNaN_of_isFinite (Nat.lt_of_le_of_lt greatest (by decide))) h.number h.high
  rw [IsNonneg.rank_eq (.inl plus)] at low
  have nonneg : draw.IsNonneg := isNonneg_of_rank (Int.le_trans (Int.natCast_nonneg _) low)
  rw [IsNonneg.rank_eq (.inl plus'), nonneg.rank_eq] at high
  exact ⟨nonneg, Nat.le_trans (Int.ofNat_le.mp high) greatest⟩

theorem mayDraw_one (p : Policy) : p.MayDraw one := by
  obtain ⟨plus, least⟩ := p.leastFactor_bounds
  obtain ⟨plus', greatest, -⟩ := p.greatestFactor_bounds
  refine ⟨by decide, ?_, ?_⟩
  · exact lt_eq_false_of_magnitude_le (by decide) plus least
  · exact lt_eq_false_of_magnitude_le plus' (by decide) greatest

/-! ## Growth -/

theorem growth_of_lt (h : one.lt p.multiplier = true) : p.growth = p.multiplier := if_pos h

/-- A multiplier that is not above one acts as one, and so does NaN. -/
theorem growth_of_not_lt (h : one.lt p.multiplier = false) : p.growth = one :=
  if_neg (Bool.eq_false_iff.mp h)

theorem isNonneg_growth (p : Policy) : p.growth.IsNonneg := by
  cases above : one.lt p.multiplier with
  | true =>
    have positive : 0 < one.rank := by decide
    rw [growth_of_lt above]
    exact isNonneg_of_rank (Int.le_of_lt (Int.lt_trans positive (lt_iff.mp above).2.2))
  | false =>
    rw [growth_of_not_lt above]
    exact .inl (by decide)

end Policy

end Backoff

end GameClient
