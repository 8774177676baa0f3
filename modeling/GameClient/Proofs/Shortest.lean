import GameClient.Number.Decimal
import GameClient.Proofs.Doubles

/-! # The shortest digits read back

Between two neighbouring doubles the middle decides which of them a number is rounded to. So the
numbers that are rounded to a double are those between the two middles beside it, and among them
there is a decimal of at most seventeen digits: on a grid that fine, one of the two points next to
the double is nearer than a middle. -/

namespace GameClient

/-- A quotient between `q` and `q + 1` is rounded by its distance from the middle. -/
theorem divNearest_eq_ite {a u q : Nat} (low : q * u ≤ a) (high : a < (q + 1) * u) :
    divNearest a u =
      if 2 * a < (2 * q + 1) * u then q
      else if (2 * q + 1) * u < 2 * a then q + 1
      else q + q % 2 := by
  have quotient : a / u = q := Nat.div_eq_of_lt_le low high
  have split := Nat.div_add_mod a u
  rw [quotient, Nat.mul_comm] at split
  have below : 2 * (a % u) < u ↔ 2 * a < (2 * q + 1) * u := by
    rw [Nat.add_mul, Nat.mul_assoc]
    omega
  have above : u < 2 * (a % u) ↔ (2 * q + 1) * u < 2 * a := by
    rw [Nat.add_mul, Nat.mul_assoc]
    omega
  simp only [divNearest, quotient, below, above]

namespace Binary64

/-! ## Between neighbours -/

/-- The significand of a finite magnitude. -/
def significandAt (magnitude : Nat) : Nat :=
  if magnitude < 2 ^ 52 then magnitude else 2 ^ 52 + magnitude % 2 ^ 52

/-- The last place of a finite magnitude, counted from the least one. -/
def placeAt (magnitude : Nat) : Nat := magnitude / 2 ^ 52 - 1

theorem sizeAt_eq (m : Nat) : sizeAt m = significandAt m * 2 ^ placeAt m := by
  unfold sizeAt significandAt placeAt
  split
  next small =>
    have least : m / 2 ^ 52 - 1 = 0 := by omega
    rw [least, Nat.pow_zero, Nat.mul_one]
  next => rfl

theorem place_add_significand (m : Nat) : placeAt m * 2 ^ 52 + significandAt m = m := by
  unfold significandAt placeAt
  split <;> omega

theorem significandAt_lt (m : Nat) : significandAt m < 2 ^ 53 := by
  unfold significandAt
  split <;> omega

theorem significandAt_pos {m : Nat} (pos : 0 < m) : 0 < significandAt m := by
  unfold significandAt
  split <;> omega

theorem significandAt_mod_two (m : Nat) : significandAt m % 2 = m % 2 := by
  unfold significandAt
  split <;> omega

/-- Where a place ends the significand starts anew, else it goes up by one. -/
theorem significandAt_succ (m : Nat) :
    significandAt (m + 1) = significandAt m + 1 ∧ placeAt (m + 1) = placeAt m ∧
        ¬(significandAt (m + 1) = 2 ^ 52 ∧ 0 < placeAt (m + 1)) ∨
      significandAt (m + 1) = 2 ^ 52 ∧ placeAt (m + 1) = placeAt m + 1 ∧
        significandAt m + 1 = 2 ^ 53 := by
  unfold significandAt placeAt
  split <;> split <;> omega

theorem sizeAt_succ (m : Nat) : sizeAt (m + 1) = (significandAt m + 1) * 2 ^ placeAt m := by
  rw [sizeAt_eq]
  rcases significandAt_succ m with ⟨significand, place, -⟩ | ⟨significand, place, full⟩
  · rw [significand, place]
  · have doubled : 2 ^ (placeAt m + 1) = 2 * 2 ^ placeAt m := Nat.pow_succ'
    rw [significand, place, full, doubled, ← Nat.mul_assoc]
    rfl

/-- The middle between a magnitude and the next one decides. -/
theorem nearest_eq_ite {n num den : Nat} (pos : 0 < num) (pos' : 0 < den)
    (low : sizeAt n * den ≤ num * grains) (high : num * grains < sizeAt (n + 1) * den) :
    nearest num den =
      if 2 * (num * grains) < (sizeAt n + sizeAt (n + 1)) * den then n
      else if (sizeAt n + sizeAt (n + 1)) * den < 2 * (num * grains) then n + 1
      else n + n % 2 := by
  have regrouped (a : Nat) : a * 2 ^ placeAt n * den = a * (den * 2 ^ placeAt n) := by
    rw [Nat.mul_assoc, Nat.mul_comm den]
  have middle : (sizeAt n + sizeAt (n + 1)) * den =
      (2 * significandAt n + 1) * (den * 2 ^ placeAt n) := by
    rw [sizeAt_succ, sizeAt_eq, ← Nat.add_mul, regrouped]
    congr 1
    omega
  rw [sizeAt_eq, regrouped] at low
  rw [sizeAt_succ, regrouped] at high
  have here : LastPlace num den (placeAt n) := by
    refine ⟨Nat.lt_of_lt_of_le high (Nat.mul_le_mul_right _ (significandAt_lt n)), ?_⟩
    rcases Nat.eq_zero_or_pos (placeAt n) with least | above
    · exact .inl least
    · refine .inr (Nat.le_trans (Nat.mul_le_mul_right _ ?_) low)
      unfold placeAt at above
      unfold significandAt
      split <;> omega
  have there := lastPlace_placeOf pos pos'
  have place : placeOf num den = placeAt n :=
    Nat.le_antisymm (there.le here pos' (Nat.le_refl _)) (here.le there pos' (Nat.le_refl _))
  have whole := place_add_significand n
  have parity := significandAt_mod_two n
  rw [nearest, if_neg (by omega), place, divNearest_eq_ite low high, middle]
  split
  · exact whole
  · split <;> omega

/-- The double has the significand and the last place of its magnitude. -/
theorem value_of_isFinite {x : Binary64} (finite : x.IsFinite) :
    x.value =
      .finite x.isNegative (significandAt x.magnitude) (placeAt x.magnitude - 1074 : Int) := by
  have top : x.magnitude < 2047 * 2 ^ 52 := finite
  have exponent : x.bits.toNat / 2 ^ 52 % 2 ^ 11 = x.magnitude / 2 ^ 52 := by
    rw [magnitude]
    omega
  have fraction : x.bits.toNat % 2 ^ 52 = x.magnitude % 2 ^ 52 := by
    rw [magnitude]
    omega
  unfold value significandAt placeAt
  dsimp only
  rw [exponent, fraction, if_neg (by omega)]
  split
  next least =>
    rw [if_pos (by omega)]
    congr 1 <;> omega
  next =>
    rw [if_neg (by omega)]
    congr 1
    omega

end Binary64

namespace Decimal

open Binary64

/-! ## Neighbourhoods -/

/-- The neighbourhood is that of a magnitude: its ends are the middles beside it. -/
structure Around (n : Neighbourhood) (m : Nat) : Prop where
  den_pos : 0 < n.den
  low : n.low * (2 * grains) = (sizeAt (m - 1) + sizeAt m) * n.den
  high : n.high * (2 * grains) = (sizeAt m + sizeAt (m + 1)) * n.den
  closed : n.closed = (m % 2 == 0)

/-- Numbers of quarters of the last place, over the denominator of a neighbourhood. -/
theorem quarters {quarters size place : Nat} (h : 2 * size = quarters * 2 ^ place) :
    quarters * 2 ^ ((place - 1074 : Int) - 2).toNat * (2 * grains) =
      size * 2 ^ (2 - (place - 1074 : Int)).toNat := by
  have unit : 2 ^ ((place - 1074 : Int) - 2).toNat * (2 * (2 * grains)) =
      2 ^ place * 2 ^ (2 - (place - 1074 : Int)).toNat := by
    have twice : ((place - 1074 : Int) - 2).toNat + 2 + 1074 =
        place + (2 - (place - 1074 : Int)).toNat := by omega
    rw [← Nat.pow_add, ← twice, two_pow_add_grains, Nat.pow_succ, Nat.pow_succ, Nat.mul_assoc,
      Nat.mul_assoc]
  have doubled := congrArg (quarters * ·) unit
  simp only [← Nat.mul_assoc quarters, ← h] at doubled
  rw [Nat.mul_left_comm, Nat.mul_assoc 2 size] at doubled
  exact Nat.eq_of_mul_eq_mul_left (by decide) doubled

theorem around_neighbourhood {m : Nat} (pos : 0 < m) :
    Around (neighbourhood (significandAt m) (placeAt m - 1074 : Int)) m := by
  obtain ⟨m, rfl⟩ : ∃ k, m = k + 1 := ⟨m - 1, by omega⟩
  have parity := significandAt_mod_two (m + 1)
  have here := sizeAt_eq (m + 1)
  have next := sizeAt_succ (m + 1)
  rw [Nat.add_mul, ← here] at next
  refine ⟨Nat.two_pow_pos _, quarters ?_, quarters ?_, by rw [neighbourhood, parity]⟩
  · have below := sizeAt_eq m
    rw [Nat.add_sub_cancel, Nat.sub_mul, Nat.mul_assoc, ← here]
    rcases significandAt_succ m with ⟨significand, place, inner⟩ | ⟨significand, place, full⟩
    · rw [if_neg (by omega), place]
      rw [significand, Nat.add_mul, place] at here
      omega
    · have doubled : 2 ^ (placeAt m + 1) = 2 * 2 ^ placeAt m := Nat.pow_succ'
      have upper := sizeAt_succ m
      rw [Nat.add_mul, ← below] at upper
      rw [if_pos (by omega), place, doubled]
      omega
  · rw [Nat.add_mul, Nat.mul_assoc, ← here]
    omega

/-! ## Grids -/

theorem lt_iff_of_mul_eq {x x' y y' g d : Nat} (hx : x * g = x' * d) (hy : y * g = y' * d)
    (pos : 0 < g) (pos' : 0 < d) : x < y ↔ x' < y' := by
  rw [← Nat.mul_lt_mul_right pos, hx, hy, Nat.mul_lt_mul_right pos']

theorem eq_iff_of_mul_eq {x x' y y' g d : Nat} (hx : x * g = x' * d) (hy : y * g = y' * d)
    (pos : 0 < g) (pos' : 0 < d) : x = y ↔ x' = y' := by
  rw [← Nat.mul_left_inj (Nat.ne_of_gt pos), hx, hy, Nat.mul_left_inj (Nat.ne_of_gt pos')]

/-- A decimal between the ends, or at an end that belongs to the neighbourhood. -/
structure Neighbourhood.Contains (n : Neighbourhood) (digits : Nat) (unit : Int) : Prop where
  low : n.low * 10 ^ (-unit).toNat < digits * (n.den * 10 ^ unit.toNat) ∨
    n.closed = true ∧ n.low * 10 ^ (-unit).toNat = digits * (n.den * 10 ^ unit.toNat)
  high : digits * (n.den * 10 ^ unit.toNat) < n.high * 10 ^ (-unit).toNat ∨
    n.closed = true ∧ digits * (n.den * 10 ^ unit.toNat) = n.high * 10 ^ (-unit).toNat

/-- The double nearest to a decimal. -/
def reading (digits : Nat) (unit : Int) : Nat :=
  nearest (digits * 10 ^ unit.toNat) (10 ^ (-unit).toNat)

theorem Neighbourhood.Contains.reading {n : Neighbourhood} {m digits : Nat} {unit : Int}
    (inside : n.Contains digits unit) (around : Around n m) (pos : 0 < m) :
    Decimal.reading digits unit = m := by
  obtain ⟨m, rfl⟩ : ∃ k, m = k + 1 := ⟨m - 1, by omega⟩
  have scale_pos : 0 < 10 ^ (-unit).toNat := Nat.pow_pos (by decide)
  obtain ⟨low, high⟩ := inside
  obtain ⟨den_pos, around_low, around_high, closed⟩ := around
  rw [Decimal.reading]
  generalize 10 ^ (-unit).toNat = scale at *
  have unit_pos : 0 < 2 * grains := Nat.mul_pos (by decide) grains_pos
  have regrouped (g : Nat) : digits * (n.den * 10 ^ unit.toNat) * (2 * g) =
      2 * (digits * 10 ^ unit.toNat * g) * n.den := by ac_rfl
  have grid := regrouped grains
  have least : n.low * scale * (2 * grains) = (sizeAt m + sizeAt (m + 1)) * scale * n.den := by
    rw [Nat.mul_right_comm, around_low, Nat.add_sub_cancel, Nat.mul_right_comm]
  have most : n.high * scale * (2 * grains) =
      (sizeAt (m + 1) + sizeAt (m + 1 + 1)) * scale * n.den := by
    rw [Nat.mul_right_comm, around_high, Nat.mul_right_comm]
  rw [closed, beq_iff_eq, lt_iff_of_mul_eq least grid unit_pos den_pos,
    eq_iff_of_mul_eq least grid unit_pos den_pos] at low
  rw [closed, beq_iff_eq, lt_iff_of_mul_eq grid most unit_pos den_pos,
    eq_iff_of_mul_eq grid most unit_pos den_pos] at high
  generalize digits * 10 ^ unit.toNat = num at *
  have below : sizeAt m * scale < sizeAt (m + 1) * scale :=
    Nat.mul_lt_mul_of_pos_right (sizeAt_lt_sizeAt_succ m) scale_pos
  have above : sizeAt (m + 1) * scale < sizeAt (m + 1 + 1) * scale :=
    Nat.mul_lt_mul_of_pos_right (sizeAt_lt_sizeAt_succ (m + 1)) scale_pos
  rw [Nat.add_mul] at low high
  have some : 0 < num := by
    apply Nat.pos_of_ne_zero
    rintro rfl
    omega
  rcases Nat.lt_or_ge (num * grains) (sizeAt (m + 1) * scale) with less | more
  · rw [nearest_eq_ite some scale_pos (by omega) less, Nat.add_mul]
    split
    · omega
    · split <;> omega
  · rw [nearest_eq_ite some scale_pos more (by omega), Nat.add_mul]
    split
    · rfl
    · split <;> omega

/-- What a search on a grid finds is inside; if it finds nothing, neither point is. -/
theorem onGrid_spec (n : Neighbourhood) (unit : Int) :
    (∀ digits, onGrid n unit = some digits → n.Contains digits unit) ∧
      (onGrid n unit = none →
        let floor := n.center * 10 ^ (-unit).toNat / (n.den * 10 ^ unit.toNat)
        ¬n.Contains floor unit ∧ ¬n.Contains (floor + 1) unit) := by
  have inside (c : Nat) :
      (if n.closed = true then
          decide (n.low * 10 ^ (-unit).toNat ≤ c * (n.den * 10 ^ unit.toNat)) &&
            decide (c * (n.den * 10 ^ unit.toNat) ≤ n.high * 10 ^ (-unit).toNat)
        else
          decide (n.low * 10 ^ (-unit).toNat < c * (n.den * 10 ^ unit.toNat)) &&
            decide (c * (n.den * 10 ^ unit.toNat) < n.high * 10 ^ (-unit).toNat)) = true ↔
        n.Contains c unit := by
    constructor
    · intro h
      split at h
      next closed =>
        rw [Bool.and_eq_true, decide_eq_true_iff, decide_eq_true_iff] at h
        exact ⟨(Nat.lt_or_eq_of_le h.1).imp_right (⟨closed, ·⟩),
          (Nat.lt_or_eq_of_le h.2).imp_right (⟨closed, ·⟩)⟩
      next =>
        rw [Bool.and_eq_true, decide_eq_true_iff, decide_eq_true_iff] at h
        exact ⟨.inl h.1, .inl h.2⟩
    · rintro ⟨low, high⟩
      split
      next =>
        rw [Bool.and_eq_true, decide_eq_true_iff, decide_eq_true_iff]
        omega
      next opened =>
        rw [Bool.and_eq_true, decide_eq_true_iff, decide_eq_true_iff]
        exact ⟨low.resolve_right fun h => opened h.1, high.resolve_right fun h => opened h.1⟩
  unfold onGrid
  dsimp only
  split
  next lower upper =>
    refine ⟨nofun, fun _ => ⟨?_, ?_⟩⟩
    · rw [← inside, lower]
      exact Bool.false_ne_true
    · rw [← inside, upper]
      exact Bool.false_ne_true
  next lower upper =>
    refine ⟨fun digits found => ?_, nofun⟩
    cases found
    exact (inside _).mp lower
  next lower upper =>
    refine ⟨fun digits found => ?_, nofun⟩
    cases found
    exact (inside _).mp upper
  next lower upper =>
    refine ⟨fun digits found => ?_, nofun⟩
    cases found
    split
    · exact (inside _).mp lower
    · exact (inside _).mp upper

/-- On a grid that is finer than the neighbourhood is wide, one of the two points is inside. -/
theorem onGrid_ne_none {n : Neighbourhood} {unit : Int} (pos : 0 < n.den) (low : n.low ≤ n.center)
    (high : n.center < n.high)
    (fine : n.den * 10 ^ unit.toNat < (n.high - n.low) * 10 ^ (-unit).toNat) :
    onGrid n unit ≠ none := by
  intro nothing
  obtain ⟨lower, upper⟩ := (onGrid_spec n unit).2 nothing
  have scale_pos : 0 < 10 ^ (-unit).toNat := Nat.pow_pos (by decide)
  have step_pos : 0 < n.den * 10 ^ unit.toNat := Nat.mul_pos pos (Nat.pow_pos (by decide))
  have floor_le := Nat.div_mul_le_self (n.center * 10 ^ (-unit).toNat) (n.den * 10 ^ unit.toNat)
  have next_lt := Nat.lt_mul_div_succ (n.center * 10 ^ (-unit).toNat) step_pos
  have low_le := Nat.mul_le_mul_right (10 ^ (-unit).toNat) low
  have lt_high := Nat.mul_lt_mul_of_pos_right high scale_pos
  rw [Nat.mul_comm (n.den * _)] at next_lt
  rw [Nat.sub_mul] at fine
  generalize n.center * 10 ^ (-unit).toNat / (n.den * 10 ^ unit.toNat) = floor at *
  have outside : floor * (n.den * 10 ^ unit.toNat) ≤ n.low * 10 ^ (-unit).toNat :=
    Nat.le_of_not_lt fun inside => lower ⟨.inl inside, .inl (by omega)⟩
  have outside' : n.high * 10 ^ (-unit).toNat ≤ (floor + 1) * (n.den * 10 ^ unit.toNat) :=
    Nat.le_of_not_lt fun inside => upper ⟨.inl (by omega), .inl inside⟩
  rw [Nat.add_mul, Nat.one_mul] at outside'
  omega

/-! ## Digits -/

theorem lt_pow_digitCount (n : Nat) : n < 10 ^ digitCount n :=
  (Nat.length_toDigits_le_iff (by decide) Nat.length_toDigits_pos).mp (Nat.le_refl _)

theorem pow_digitCount_le {n : Nat} (pos : 0 < n) : 10 ^ (digitCount n - 1) ≤ n := by
  rcases Nat.eq_zero_or_pos (digitCount n - 1) with one | more
  · rw [one]
    exact pos
  · apply Nat.le_of_not_lt
    intro less
    have short := (Nat.length_toDigits_le_iff (by decide) more).mpr less
    rw [← digitCount] at short
    omega

/-- The first digit stands at the point position. -/
theorem pow_pointPosition_le {num den : Nat} (pos : 0 < num) (pos' : 0 < den) :
    den * 10 ^ (pointPosition num den - 1).toNat ≤ num * 10 ^ (1 - pointPosition num den).toNat := by
  unfold pointPosition
  split
  next large =>
    have power := pow_digitCount_le (Nat.div_pos large pos')
    have count : 0 < digitCount (num / den) := Nat.length_toDigits_pos
    generalize digitCount (num / den) = k at *
    have up : ((k : Int) - 1).toNat = k - 1 := by omega
    have down : (1 - (k : Int)).toNat = 0 := by omega
    rw [up, down, Nat.pow_zero, Nat.mul_one]
    exact Nat.le_trans (Nat.mul_le_mul_left den power) (Nat.mul_div_le num den)
  next small =>
    have power := lt_pow_digitCount ((den + num - 1) / num - 1)
    have enough := Nat.lt_mul_div_succ (den + num - 1) pos
    generalize digitCount ((den + num - 1) / num - 1) = k at *
    have up : (1 - (k : Int) - 1).toNat = 0 := by omega
    have down : (1 - (1 - (k : Int))).toNat = k := by omega
    rw [up, down, Nat.pow_zero, Nat.mul_one]
    generalize (den + num - 1) / num = q at *
    have times : num * q ≤ num * 10 ^ k := Nat.mul_le_mul_left num (by omega)
    rw [Nat.mul_succ] at enough
    omega

/-! ## Seventeen digits -/

/-- The double is inside its neighbourhood, and no more than `10 ^ 16` widths from zero. -/
theorem width_neighbourhood {significand : Nat} (pos : 0 < significand) (fits : significand < 2 ^ 53)
    (exponent : Int) :
    let n := neighbourhood significand exponent
    0 < n.center ∧ n.low ≤ n.center ∧ n.center < n.high ∧
      n.center < 10 ^ 16 * (n.high - n.low) := by
  have up : 0 < 2 ^ (exponent - 2).toNat := Nat.two_pow_pos _
  unfold neighbourhood
  dsimp only
  refine ⟨Nat.mul_pos (by omega) up, Nat.mul_le_mul_right _ (Nat.sub_le ..),
    Nat.mul_lt_mul_of_pos_right (by omega) up, ?_⟩
  rw [← Nat.sub_mul, ← Nat.mul_assoc]
  apply Nat.mul_lt_mul_of_pos_right _ up
  split <;> omega

theorem onGrid_seventeen {n : Neighbourhood} (pos : 0 < n.den) (some : 0 < n.center)
    (low : n.low ≤ n.center) (high : n.center < n.high)
    (width : n.center < 10 ^ 16 * (n.high - n.low)) :
    onGrid n (pointPosition n.center n.den - 17) ≠ none := by
  have first := pow_pointPosition_le some pos
  apply onGrid_ne_none pos low high
  generalize pointPosition n.center n.den = point at *
  have exponents : (point - 17).toNat + (16 + (1 - point).toNat) =
      (-(point - 17)).toNat + (point - 1).toNat := by omega
  have powers := congrArg (10 ^ · : Nat → Nat) exponents
  simp only [Nat.pow_add] at powers
  have scale_pos : 0 < 10 ^ (-(point - 17)).toNat := Nat.pow_pos (by decide)
  have whole : 0 < 10 ^ (1 - point).toNat := Nat.pow_pos (by decide)
  generalize 10 ^ (1 - point).toNat = down at *
  generalize 10 ^ (point - 1).toNat = up at *
  generalize 10 ^ (point - 17).toNat = step at *
  generalize 10 ^ (-(point - 17)).toNat = scale at *
  have factor : 0 < 10 ^ 16 * down := Nat.mul_pos (by decide) whole
  apply Nat.lt_of_mul_lt_mul_right (a := 10 ^ 16 * down)
  calc n.den * step * (10 ^ 16 * down) = scale * (n.den * up) := by
        rw [Nat.mul_assoc, powers, Nat.mul_left_comm]
    _ ≤ scale * (n.center * down) := Nat.mul_le_mul_left _ first
    _ < scale * (10 ^ 16 * (n.high - n.low) * down) :=
        Nat.mul_lt_mul_of_pos_left (Nat.mul_lt_mul_of_pos_right width whole) scale_pos
    _ = (n.high - n.low) * scale * (10 ^ 16 * down) := by ac_rfl

/-- The shortest digits of a double are found, and read back as it. -/
theorem shortest?_reads {m : Nat} (pos : 0 < m) :
    ∃ digits unit, shortest? (significandAt m) (placeAt m - 1074 : Int) = some (digits, unit) ∧
      reading digits unit = m := by
  have around := around_neighbourhood pos
  obtain ⟨some, low, high, width⟩ := width_neighbourhood (significandAt_pos pos)
    (significandAt_lt m) (placeAt m - 1074)
  unfold shortest?
  dsimp only
  generalize neighbourhood (significandAt m) (placeAt m - 1074 : Int) = n at *
  have last := onGrid_seventeen around.den_pos some low high width
  generalize pointPosition n.center n.den = point at *
  cases found : (List.range 17).findSome? _ with
  | none =>
    rw [List.findSome?_eq_none_iff] at found
    have missing := found 16 (by decide)
    exact absurd (Option.map_eq_none_iff.mp missing) last
  | some best =>
    obtain ⟨i, -, found⟩ := List.exists_of_findSome?_eq_some found
    obtain ⟨digits, inside, rfl⟩ := Option.map_eq_some_iff.mp found
    exact ⟨digits, _, rfl, ((onGrid_spec n _).1 digits inside).reading around pos⟩

end Decimal

end GameClient
