import GameClient.Duration
import GameClient.Proofs.Doubles

/-! # Durations times factors

A duration that is set in whole milliseconds, times a factor below a thousand, is again a duration.
The longest one times a thousand is none. -/

namespace GameClient

namespace Binary64

/-- One thousand. -/
def thousand : Binary64 := ⟨0x408F400000000000⟩

end Binary64

open Binary64

namespace Duration

/-- The magnitude of `2 ^ 64`, from which on a number of seconds has no duration. -/
def limit : Nat := 1087 * 2 ^ 52

theorem size_lt_iff (x : Binary64) : x.size < 2 ^ 64 * grains ↔ x.magnitude < limit := by
  have top : sizeAt limit = 2 ^ 64 * grains := by decide +kernel
  rw [← top, size, sizeAt_strictMono.lt_iff_lt]

theorem size_eq_zero_iff (x : Binary64) : x.size = 0 ↔ x.magnitude = 0 :=
  sizeAt_strictMono.injective.eq_iff (a := x.magnitude) (b := 0)

theorem mul_grains {significand size : Nat} {exponent : Int} (least : -1074 ≤ exponent)
    (h : significand * 2 ^ (exponent + 1074).toNat = size) :
    significand * 2 ^ exponent.toNat * grains = size * 2 ^ (-exponent).toNat := by
  have shift : 2 ^ exponent.toNat * grains =
      2 ^ (exponent + 1074).toNat * 2 ^ (-exponent).toNat := by
    rw [← two_pow_add_grains, ← Nat.pow_add]
    congr 1
    omega
  rw [Nat.mul_assoc, shift, ← Nat.mul_assoc, h]

/-- A number of seconds has a duration if it is not negative and not too large. -/
theorem isSome_ofSeconds?_iff (x : Binary64) :
    (ofSeconds? x).isSome = true ↔
      x.IsNonneg ∧ x.magnitude < limit := by
  have read := x.reads
  unfold ofSeconds?
  generalize x.value = value at read
  cases read with
  | @finite significand exponent finite least size =>
    have zero : x.magnitude = 0 ↔ significand = 0 := by
      rw [← size_eq_zero_iff, ← size, Nat.mul_eq_zero, or_iff_left (Nat.two_pow_pos _).ne']
    have scaled := mul_grains least size
    have short : x.magnitude < limit ↔
        ¬ 2 ^ 64 * 2 ^ (-exponent).toNat ≤ significand * 2 ^ exponent.toNat := by
      rw [Nat.not_le, ← size_lt_iff, ← Nat.mul_lt_mul_right (Nat.two_pow_pos (-exponent).toNat),
        ← scaled, Nat.mul_right_comm (2 ^ 64), Nat.mul_lt_mul_right grains_pos]
    rw [IsNonneg, zero, short]
    dsimp only
    split
    · next lost => exact iff_of_false nofun fun fits => by simp_all
    · next kept =>
      have plus : x.isNegative = false ∨ significand = 0 := by
        rcases Bool.eq_false_or_eq_true x.isNegative with minus | plus
        · exact .inr (not_not.mp fun some => kept ⟨minus, some⟩)
        · exact .inl plus
      split
      · next long => exact iff_of_false nofun fun fits => fits.2 long
      · next fits => exact iff_of_true rfl ⟨plus, fits⟩
  | infinite top =>
    have beyond : ¬ x.magnitude < limit := by
      rw [top]
      decide
    simp [beyond]
  | nan above =>
    have beyond : ¬ x.magnitude < limit := by
      rw [infinityMagnitude] at above
      rw [limit]
      omega
    simp [beyond]

/-! ## Numbers of seconds -/

/-- The longest duration that can be set, in whole milliseconds. -/
def longest : Duration := .ofMillis (2 ^ 64 - 1)

/-- The number of seconds of a duration that can be set is a double between zero and that of the
longest. -/
theorem seconds_of_le {d : Duration} (h : d ≤ longest) :
    d.seconds.isNegative = false ∧ d.seconds.magnitude ≤ longest.seconds.magnitude := by
  have bound : d.nanos ≤ longest.nanos := h
  have most : longest.nanos / nanosPerSecond = 18446744073709551 := by decide +kernel
  -- The whole seconds and the fraction, each rounded.
  have whole : (ofNat (d.nanos / nanosPerSecond)).magnitude ≤ nearest 18446744073709551 1 := by
    rw [ofNat, ← most]
    apply magnitude_ofRatio_le _ Nat.one_pos Nat.one_pos
    exact Nat.mul_le_mul_right 1 (Nat.div_le_div_right bound)
  have part : (ofRatio false (d.nanos % nanosPerSecond) nanosPerSecond).magnitude ≤
      nearest 1 1 := by
    apply magnitude_ofRatio_le _ (by decide) Nat.one_pos
    rw [Nat.mul_one, Nat.one_mul]
    exact Nat.le_of_lt (Nat.mod_lt _ (by decide))
  have plus : (ofNat (d.nanos / nanosPerSecond)).isNegative = false := isNegative_ofRatio ..
  have plus' : (ofRatio false (d.nanos % nanosPerSecond) nanosPerSecond).isNegative = false :=
    isNegative_ofRatio ..
  rw [seconds]
  generalize ofNat (d.nanos / nanosPerSecond) = x at *
  generalize ofRatio false (d.nanos % nanosPerSecond) nanosPerSecond = y at *
  have sum : x.total y = (x.size + y.size : Nat) := by
    rw [total, plus, plus']
    exact (Int.natCast_add _ _).symm
  have finite : x.IsFinite := Nat.lt_of_le_of_lt whole (by decide +kernel)
  have finite' : y.IsFinite := Nat.lt_of_le_of_lt part (by decide +kernel)
  rw [add_eq finite finite' plus (by omega), sum, Int.toNat_natCast]
  refine ⟨isNegative_ofRatio .., ?_⟩
  calc _ ≤ nearest (sizeAt (nearest 18446744073709551 1) + sizeAt (nearest 1 1)) grains := by
        apply magnitude_ofRatio_le _ grains_pos grains_pos
        apply Nat.mul_le_mul_right
        exact Nat.add_le_add (sizeAt_strictMono.monotone whole) (sizeAt_strictMono.monotone part)
    _ = longest.seconds.magnitude := by decide +kernel

theorem isFinite_seconds {d : Duration} (h : d ≤ longest) : d.seconds.IsFinite :=
  Nat.lt_of_le_of_lt (seconds_of_le h).2 (by decide +kernel)

/-! ## Products -/

theorem ofSeconds?_nan : ofSeconds? nan = none := by decide +kernel

theorem ofSeconds?_infinity (negative : Bool) : ofSeconds? (infinity negative) = none := by
  cases negative <;> decide +kernel

/-- A factor that is not finite gives no duration, not even of nothing. -/
theorem scale?_of_not_finite {d : Duration} (h : d ≤ longest) {f : Binary64}
    (infinite : ¬ f.IsFinite) : d.scale? f = none := by
  obtain ⟨significand, exponent, value, -, -⟩ := (isFinite_seconds h).exists_value
  have read := f.reads
  simp only [scale?, mul, value]
  generalize f.value = factor at read
  cases read with
  | finite finite => exact absurd finite infinite
  | infinite top =>
    dsimp only
    split
    · exact ofSeconds?_nan
    · exact ofSeconds?_infinity _
  | nan beyond => exact ofSeconds?_nan

/-- A finite factor gives a duration if the exact product with the number of seconds rounds to
one. -/
theorem isSome_scale?_iff {d : Duration} (h : d ≤ longest) {f : Binary64} (finite : f.IsFinite)
    (plus : f.IsNonneg) :
    (d.scale? f).isSome = true ↔ nearest (f.size * d.seconds.size) (grains * grains) < limit := by
  have top : limit < infinityMagnitude := by decide
  have sign : (f.isNegative != d.seconds.isNegative) = false ∨
      min infinityMagnitude (nearest (f.size * d.seconds.size) (grains * grains)) = 0 := by
    rcases plus with plus | zero
    · rw [plus, (seconds_of_le h).1]
      exact .inl rfl
    · rw [(size_eq_zero_iff f).mpr zero, Nat.zero_mul, nearest, if_pos (.inl rfl)]
      exact .inr (Nat.min_zero _)
  rw [scale?, mul_eq finite (isFinite_seconds h), isSome_ofSeconds?_iff, IsNonneg,
    isNegative_ofRatio, magnitude_ofRatio, and_iff_right sign]
  omega

/-- Below a thousand every factor gives a duration. -/
theorem isSome_scale?_of_lt {d : Duration} (h : d ≤ longest) {f : Binary64}
    (plus : f.IsNonneg) (below : f.magnitude < thousand.magnitude) :
    (d.scale? f).isSome = true := by
  have finite : f.IsFinite := Nat.lt_trans below (by decide)
  rw [isSome_scale?_iff h finite plus]
  calc nearest (f.size * d.seconds.size) (grains * grains)
      ≤ nearest (sizeAt (thousand.magnitude - 1) * longest.seconds.size) (grains * grains) := by
        have pos : 0 < grains * grains := Nat.mul_pos grains_pos grains_pos
        refine nearest_le_nearest pos pos (Nat.mul_le_mul_right _ (Nat.mul_le_mul ?_ ?_))
        · exact sizeAt_strictMono.monotone (Nat.le_sub_one_of_lt below)
        · exact sizeAt_strictMono.monotone (seconds_of_le h).2
    _ < limit := by decide +kernel

/-- From a thousand on no factor gives a duration for the longest one. -/
theorem scale?_longest {f : Binary64} (plus : f.isNegative = false)
    (above : thousand.magnitude ≤ f.magnitude) : longest.scale? f = none := by
  have short : longest ≤ longest := Nat.le_refl longest.nanos
  by_cases finite : f.IsFinite
  · rw [← Option.not_isSome_iff_eq_none, isSome_scale?_iff short finite (.inl plus), Nat.not_lt]
    calc limit ≤ nearest (thousand.size * longest.seconds.size) (grains * grains) := by
          decide +kernel
      _ ≤ nearest (f.size * longest.seconds.size) (grains * grains) := by
          have pos : 0 < grains * grains := Nat.mul_pos grains_pos grains_pos
          refine nearest_le_nearest pos pos (Nat.mul_le_mul_right _ (Nat.mul_le_mul_right _ ?_))
          exact sizeAt_strictMono.monotone above
  · exact scale?_of_not_finite short finite

end Duration

end GameClient
