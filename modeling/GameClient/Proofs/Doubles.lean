import GameClient.Proofs.Rounding
import Mathlib.Order.Monotone.Basic

/-! # What doubles stand for

A double has a sign and a magnitude. Magnitudes are in the order of the sizes that they stand for,
and the sum and the product of two doubles are the nearest doubles to the exact sum and product. -/

namespace GameClient

namespace Binary64

/-- The bits without the sign. -/
def magnitude (x : Binary64) : Nat := x.bits.toNat % 2 ^ 63

theorem toNat_ofSignMagnitude (negative : Bool) {n : Nat} (h : n < 2 ^ 63) :
    (ofSignMagnitude negative n).bits.toNat = (if negative then 2 ^ 63 else 0) + n := by
  rw [ofSignMagnitude, UInt64.toNat_ofNat_of_lt']
  cases negative
  · simp [UInt64.size]
    omega
  · simp [UInt64.size]
    omega

theorem magnitude_ofSignMagnitude (negative : Bool) {n : Nat} (h : n < 2 ^ 63) :
    (ofSignMagnitude negative n).magnitude = n := by
  rw [magnitude, toNat_ofSignMagnitude negative h]
  cases negative
  · simp
    omega
  · simp
    omega

theorem isNegative_ofSignMagnitude (negative : Bool) {n : Nat} (h : n < 2 ^ 63) :
    (ofSignMagnitude negative n).isNegative = negative := by
  rw [isNegative, toNat_ofSignMagnitude negative h]
  cases negative
  · simp
    omega
  · simp

theorem ofSignMagnitude_magnitude (x : Binary64) :
    ofSignMagnitude x.isNegative x.magnitude = x := by
  have bits : x.bits.toNat < 2 ^ 64 := x.bits.toNat_lt
  have low : x.magnitude < 2 ^ 63 := Nat.mod_lt _ (by decide)
  have same : (ofSignMagnitude x.isNegative x.magnitude).bits.toNat = x.bits.toNat := by
    rw [toNat_ofSignMagnitude _ low, isNegative, magnitude]
    by_cases negative : 2 ^ 63 ≤ x.bits.toNat
    · simp only [negative, decide_true, if_true]
      omega
    · simp only [negative, decide_false, Bool.false_eq_true, if_false]
      omega
  exact congrArg Binary64.mk (UInt64.toNat_inj.mp same)

/-! ## Sizes -/

/-- The size of a finite magnitude, in grains. -/
def sizeAt (magnitude : Nat) : Nat :=
  if magnitude < 2 ^ 52 then magnitude
  else (2 ^ 52 + magnitude % 2 ^ 52) * 2 ^ (magnitude / 2 ^ 52 - 1)

theorem sizeAt_lt_sizeAt_succ (n : Nat) : sizeAt n < sizeAt (n + 1) := by
  unfold sizeAt
  rcases Nat.lt_trichotomy (n + 1) (2 ^ 52) with small | edge | large
  · rw [if_pos (by omega), if_pos small]
    exact Nat.lt_succ_self n
  · obtain rfl : n = 2 ^ 52 - 1 := by omega
    decide
  · rw [if_neg (by omega), if_neg (by omega)]
    by_cases carries : n % 2 ^ 52 + 1 = 2 ^ 52
    · -- The fraction is full: the next magnitude has twice the place and no fraction.
      have place : (n + 1) / 2 ^ 52 - 1 = n / 2 ^ 52 - 1 + 1 := by omega
      have fraction : (n + 1) % 2 ^ 52 = 0 := by omega
      have doubled : 2 ^ (n / 2 ^ 52 - 1 + 1) = 2 * 2 ^ (n / 2 ^ 52 - 1) := Nat.pow_succ'
      rw [place, fraction, doubled, ← Nat.mul_assoc]
      exact Nat.mul_lt_mul_of_pos_right (by omega) (Nat.two_pow_pos _)
    · have place : (n + 1) / 2 ^ 52 = n / 2 ^ 52 := by omega
      have fraction : (n + 1) % 2 ^ 52 = n % 2 ^ 52 + 1 := by omega
      rw [place, fraction]
      exact Nat.mul_lt_mul_of_pos_right (by omega) (Nat.two_pow_pos _)

theorem sizeAt_strictMono : StrictMono sizeAt := strictMono_nat_of_lt_succ sizeAt_lt_sizeAt_succ

/-- The size of a finite double, in grains. -/
def size (x : Binary64) : Nat := sizeAt x.magnitude

/-- How the magnitude decides what a double stands for. -/
inductive Reads (x : Binary64) : Value → Prop
  | finite {significand : Nat} {exponent : Int} : x.magnitude < infinityMagnitude →
      -1074 ≤ exponent → significand * 2 ^ (exponent + 1074).toNat = x.size →
      Reads x (.finite x.isNegative significand exponent)
  | infinite : x.magnitude = infinityMagnitude → Reads x (.infinite x.isNegative)
  | nan : infinityMagnitude < x.magnitude → Reads x .nan

theorem reads (x : Binary64) : Reads x x.value := by
  have exponent : x.bits.toNat / 2 ^ 52 % 2 ^ 11 = x.magnitude / 2 ^ 52 := by
    rw [magnitude]
    omega
  have fraction : x.bits.toNat % 2 ^ 52 = x.magnitude % 2 ^ 52 := by
    rw [magnitude]
    omega
  have bound : x.magnitude < 2 ^ 63 := Nat.mod_lt _ (by decide)
  have top : infinityMagnitude = 2047 * 2 ^ 52 := rfl
  simp only [value, exponent, fraction]
  split
  · split
    · exact .infinite (by omega)
    · exact .nan (by omega)
  · split
    · next least =>
      refine .finite (by omega) (Int.le_refl _) ?_
      rw [size, sizeAt, if_pos (by omega)]
      simp
      omega
    · next finite above =>
      refine .finite (by omega) (by omega) ?_
      rw [size, sizeAt, if_neg (by omega)]
      congr 2
      omega

/-! ## Exact results, rounded once -/

/-- The nearest double depends on the value of the quotient only. -/
theorem ofRatio_congr (negative : Bool) {num den num' den' : Nat} (pos : 0 < den) (pos' : 0 < den')
    (h : num * den' = num' * den) : ofRatio negative num den = ofRatio negative num' den' := by
  have up := nearest_le_nearest pos pos' (Nat.le_of_eq h)
  have down := nearest_le_nearest pos' pos (Nat.le_of_eq h.symm)
  rw [ofRatio_eq, ofRatio_eq, Nat.le_antisymm up down]

theorem ofDyadic_eq (negative : Bool) (significand : Nat) {exponent : Int} {depth den : Nat}
    (scale : den = 2 ^ depth) (h : -(depth : Int) ≤ exponent) :
    ofDyadic negative significand exponent =
      ofRatio negative (significand * 2 ^ (exponent + depth).toNat) den := by
  rw [scale]
  refine ofRatio_congr negative (Nat.two_pow_pos _) (Nat.two_pow_pos _) ?_
  rw [Nat.mul_assoc, Nat.mul_assoc, ← Nat.pow_add, ← Nat.pow_add]
  congr 2
  omega

/-- Neither infinite nor NaN. -/
def IsFinite (x : Binary64) : Prop := x.magnitude < infinityMagnitude

instance (x : Binary64) : Decidable x.IsFinite :=
  inferInstanceAs (Decidable (x.magnitude < infinityMagnitude))

theorem IsFinite.exists_value {x : Binary64} (h : x.IsFinite) :
    ∃ significand exponent, x.value = .finite x.isNegative significand exponent ∧
      -1074 ≤ exponent ∧ significand * 2 ^ (exponent + 1074).toNat = x.size := by
  have read := x.reads
  generalize x.value = value at read
  cases read with
  | finite _ least size => exact ⟨_, _, rfl, least, size⟩
  | infinite top => exact absurd h (by rw [IsFinite, top]; exact Nat.lt_irrefl _)
  | nan beyond => exact absurd h (Nat.not_lt_of_lt beyond)

theorem mul_eq {x y : Binary64} (hx : x.IsFinite) (hy : y.IsFinite) :
    x.mul y = ofRatio (x.isNegative != y.isNegative) (x.size * y.size) (grains * grains) := by
  obtain ⟨m, e, value, least, size⟩ := hx.exists_value
  obtain ⟨n, f, value', least', size'⟩ := hy.exists_value
  have exponents : (e + f + (2148 : Nat)).toNat = (e + 1074).toNat + (f + 1074).toNat := by
    omega
  have scale : grains * grains = 2 ^ 2148 := by decide +kernel
  simp only [mul, value, value']
  rw [ofDyadic_eq _ _ scale (by omega), exponents, Nat.pow_add, Nat.mul_mul_mul_comm, size, size']

/-- A number under its sign. -/
def signed (negative : Bool) (size : Nat) : Int := if negative then -(size : Int) else size

theorem signed_bounds (negative : Bool) {size bound : Nat} (h : size ≤ bound) :
    signed true bound ≤ signed negative size ∧ signed negative size ≤ signed false bound := by
  cases negative
  · simp [signed]
    omega
  · simp [signed]
    omega

theorem signedAt_mul (negative : Bool) (significand : Nat) {exponent base : Int}
    (below : base ≤ exponent) (least : -1074 ≤ base) :
    signedAt negative significand exponent base * (2 ^ (base + 1074).toNat : Nat) =
      signed negative (significand * 2 ^ (exponent + 1074).toNat) := by
  have exponents : (exponent + 1074).toNat = (exponent - base).toNat + (base + 1074).toNat := by
    omega
  have scaled : ((significand * 2 ^ (exponent - base).toNat : Nat) : Int) *
      (2 ^ (base + 1074).toNat : Nat) = (significand * 2 ^ (exponent + 1074).toNat : Nat) := by
    rw [← Int.natCast_mul, Nat.mul_assoc, ← Nat.pow_add, exponents]
  unfold signedAt signed
  cases negative with
  | false => exact scaled
  | true =>
    rw [if_pos rfl, if_pos rfl, ← scaled]
    exact Int.neg_mul _ _

/-- The exact sum of two doubles, in grains. -/
def total (x y : Binary64) : Int := signed x.isNegative x.size + signed y.isNegative y.size

/-- A sum that is not negative, with a first part that is not negative. -/
theorem add_eq {x y : Binary64} (hx : x.IsFinite) (hy : y.IsFinite) (plus : x.isNegative = false)
    (h : 0 ≤ x.total y) : x.add y = ofRatio false (x.total y).toNat grains := by
  obtain ⟨m, e, value, least, size⟩ := hx.exists_value
  obtain ⟨n, f, value', least', size'⟩ := hy.exists_value
  have low := signedAt_mul x.isNegative m (Int.min_le_left e f) (by omega)
  have low' := signedAt_mul y.isNegative n (Int.min_le_right e f) (by omega)
  have scaled := Int.add_mul (signedAt x.isNegative m e (min e f))
    (signedAt y.isNegative n f (min e f)) (2 ^ (min e f + 1074).toNat : Nat)
  rw [low, low', size, size', ← total] at scaled
  have unit : 0 < 2 ^ (min e f + 1074).toNat := Nat.two_pow_pos _
  have scale : grains = 2 ^ 1074 := by rw [grains]
  have reach : -((1074 : Nat) : Int) ≤ min e f := by omega
  simp only [add, value, value']
  generalize signedAt x.isNegative m e (min e f) + signedAt y.isNegative n f (min e f) = sum at *
  have sign : 0 ≤ sum := by
    rw [← scaled] at h
    exact Int.nonneg_of_mul_nonneg_left h (by omega)
  obtain ⟨count, rfl⟩ := Int.eq_ofNat_of_zero_le sign
  have whole : (x.total y).toNat = count * 2 ^ (min e f + 1074).toNat := by
    rw [← scaled, ← Int.natCast_mul, Int.toNat_natCast]
  rw [whole]
  split
  · next none =>
    rw [Int.ofNat_eq_zero.mp none, Nat.zero_mul, plus, ofRatio, if_pos (.inl rfl)]
    rfl
  · have positive : decide ((count : Int) < 0) = false := by simp
    rw [positive]
    rw [Int.natAbs_natCast, ofDyadic_eq false count scale reach]
    rfl

/-! ## Results that are known by their bounds -/

/-- Not negative as a number; the negative zero counts as zero. -/
def IsNonneg (x : Binary64) : Prop := x.isNegative = false ∨ x.magnitude = 0

theorem min_infinity_lt (n : Nat) : min infinityMagnitude n < 2 ^ 63 := by
  rw [infinityMagnitude]
  omega

theorem magnitude_ofRatio (negative : Bool) (num den : Nat) :
    (ofRatio negative num den).magnitude = min infinityMagnitude (nearest num den) := by
  rw [ofRatio_eq, magnitude_ofSignMagnitude negative (min_infinity_lt _)]

theorem magnitude_ofRatio_le (negative : Bool) {num den num' den' : Nat} (pos : 0 < den)
    (pos' : 0 < den') (h : num * den' ≤ num' * den) :
    (ofRatio negative num den).magnitude ≤ nearest num' den' := by
  rw [magnitude_ofRatio]
  exact Nat.le_trans (Nat.min_le_right _ _) (nearest_le_nearest pos pos' h)

theorem isNegative_ofRatio (negative : Bool) (num den : Nat) :
    (ofRatio negative num den).isNegative = negative := by
  rw [ofRatio_eq, isNegative_ofSignMagnitude negative (min_infinity_lt _)]

/-! ## Order -/

theorem rank_eq (x : Binary64) : x.rank = signed x.isNegative x.magnitude := by
  have bits : x.bits.toNat < 2 ^ 64 := x.bits.toNat_lt
  unfold rank signed isNegative magnitude
  by_cases negative : 2 ^ 63 ≤ x.bits.toNat
  · rw [decide_eq_true negative, if_pos rfl, if_pos rfl]
    omega
  · rw [decide_eq_false negative]
    simp only [Bool.false_eq_true, if_false]
    omega

theorem isNaN_iff (x : Binary64) : x.isNaN = true ↔ infinityMagnitude < x.magnitude := by
  have read := x.reads
  rw [isNaN]
  generalize x.value = value at read
  cases read with
  | finite finite => simp [Nat.not_lt_of_lt finite]
  | infinite top => simp [top]
  | nan beyond => simp [beyond]

theorem isNaN_of_isFinite {x : Binary64} (h : x.IsFinite) : x.isNaN = false :=
  Bool.eq_false_iff.mpr (mt x.isNaN_iff.mp (Nat.not_lt_of_lt h))

theorem IsNonneg.rank_eq {x : Binary64} (h : x.IsNonneg) : x.rank = x.magnitude := by
  rw [Binary64.rank_eq, signed]
  rcases h with plus | zero
  · rw [plus]
    rfl
  · rw [zero]
    split <;> rfl

theorem isNonneg_of_rank {x : Binary64} (h : 0 ≤ x.rank) : x.IsNonneg := by
  rw [rank_eq, signed] at h
  rcases Bool.eq_false_or_eq_true x.isNegative with minus | plus
  · rw [minus, if_pos rfl] at h
    exact .inr (by omega)
  · exact .inl plus

/-- Only the zeros share a rank. -/
theorem eq_of_rank_eq {x y : Binary64} (pos : 0 < x.rank) (h : x.rank = y.rank) : x = y := by
  have positive {z : Binary64} (pos : 0 < z.rank) : z.rank = z.bits.toNat := by
    unfold rank at pos ⊢
    split
    · next minus =>
      rw [if_pos minus] at pos
      omega
    · rfl
  have pos' : 0 < y.rank := h ▸ pos
  rw [positive pos, positive pos'] at h
  exact congrArg Binary64.mk (UInt64.toNat_inj.mp (Int.ofNat_inj.mp h))

theorem lt_iff {x y : Binary64} :
    x.lt y = true ↔ x.isNaN = false ∧ y.isNaN = false ∧ x.rank < y.rank := by
  simp [lt, and_assoc]

theorem rank_le_of_not_lt {x y : Binary64} (number : x.isNaN = false) (number' : y.isNaN = false)
    (h : x.lt y = false) : y.rank ≤ x.rank := by
  by_contra below
  have less : x.lt y = true := lt_iff.mpr ⟨number, number', Int.not_le.mp below⟩
  rw [h] at less
  cases less

theorem lt_eq_false_of_magnitude_le {x y : Binary64} (plus : x.isNegative = false)
    (plus' : y.isNegative = false) (h : y.magnitude ≤ x.magnitude) : x.lt y = false := by
  apply Bool.eq_false_iff.mpr
  intro less
  have above := (lt_iff.mp less).2.2
  rw [IsNonneg.rank_eq (.inl plus), IsNonneg.rank_eq (.inl plus')] at above
  omega

end Binary64

end GameClient
